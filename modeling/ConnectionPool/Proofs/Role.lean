import ConnectionPool.Proofs.Interleaving

set_option autoImplicit false

/-! # The parts that calls play

Between two steps a call may have something in its hands that concerns others: what it has read of
the pool before it decides, a slot that it has reserved, a session that it is making, was lent or is
about to give back, or word to the waiting acquirers. This `Role` is all that the rest of the world
has to know about the phase a call is in.

`Moves` lists once what a step or an answer can do to the shared state of a pool, and which role it
turns into which. Every operation keeps to that list (`Task.moves_of_step`, `Task.moves_of_answer`);
what is proved of pools is proved over the list and never opens an operation again, unless it is
about that operation. -/

namespace ConnectionPool

namespace Interleaving

variable {S : Type}

/-! ## Roles -/

/-- What a call has in its hands that concerns others. -/
inductive Role (S : Type) where
  | none
  | dated (epoch : UInt64)
  /-- An acquirer has read the epoch and then the cap, and is to have its request decided. -/
  | poised (epoch : UInt64) (cap : UInt32)
  | waiting (epoch : UInt64)
  | slot
  | made (session : S)
  /-- The session is open, and its key is to be drawn. -/
  | opened (session : S)
  /-- The session has its key and its record, and is to take the place of the slot. -/
  | recruit (record : Record S)
  | loan (record : Record S)
  /-- A lent session is to be taken back, or let go. -/
  | claim (key : SessionKey)
  /-- Waiting acquirers are to be told to look again. -/
  | notice
  /-- The pool was closed, and waiting acquirers are to be told. -/
  | closing
  /-- The pool was closed, and they were told. -/
  | draining
  deriving DecidableEq, Repr

end Interleaving

open Interleaving (Role)

def Acquire.role {S : Type} : Acquire S → Role S
  | readCap _ epoch => .dated epoch
  | choose _ epoch cap => .poised epoch cap
  | wait _ epoch => .waiting epoch
  | countReuse loan | countNew loan | done (.value (some loan)) => .loan loan
  | readSource | create _ | countFailure _ true | giveBack _ => .slot
  | inspect session | openNew session => .made session
  | enrol session => .opened session
  | install loan => .recruit loan
  | announceUnused _ | announceSlot _ => .notice
  | _ => .none

def Release.role {S : Type} : Release S → Role S
  | takeBack key => .claim key
  | readClosed _ | close _ _ | count _ | announce => .notice
  | done _ => .none

def Detach.role {S : Type} : Detach → Role S
  | letGo key => .claim key
  | announce => .notice
  | done _ => .none

def Return.role {S : Type} : Return S → Role S
  | reach _ key => .claim key
  | release r => r.role
  | close _ | done _ => .none

def Transfer.role {S : Type} : Transfer S → Role S
  | replace _ _ giving | refuse _ giving | abandon _ _ giving => giving.role
  | done _ _ => .none

def Surrender.role {S : Type} : Surrender S → Role S
  | reach _ key => .claim key
  | detach _ d => d.role
  | done _ => .none

def Heartbeat.role {S : Type} : Heartbeat S → Role S
  | evict _ _ _ | count _ _ | announce _ _ => .notice
  | _ => .none

def Worker.role {S : Type} : Worker S → Role S
  | cycle _ _ heartbeat => heartbeat.role
  | _ => .none

/-- The role of a shutdown. Only the first one of a pool has any. -/
def Shutdown.role {S : Type} : Shutdown S → Role S
  | stopWorker | awaitWorker | announce => .closing
  | drain | closeIdle _ _ | count _ | readPauses | look _ _ _ | asleep _ _ _ _ => .draining
  | close | awaitFirst | finish | done _ => .none

def Resize.role {S : Type} : Resize → Role S
  | announce => .notice
  | _ => .none

namespace Interleaving

variable {S : Type}

def Task.role : Task S → Role S
  | acquire a => a.role
  | giveBack _ r => r.role
  | transfer t => t.role
  | surrender d => d.role
  | cycle b => b.role
  | work w => w.role
  | resize c => c.role
  | shutDown d | drop d => d.role
  | returned => .none

namespace Role

def toList : Role S → List (Role S)
  | none => []
  | r => [r]

theorem mem_toList {r : Role S} (h : r ≠ none) : r ∈ r.toList := by
  cases r <;> simp [toList] at h ⊢

theorem eq_of_mem_toList {r x : Role S} (h : r ∈ x.toList) : r = x := by
  cases x with
  | none => cases h
  | _ => exact List.mem_singleton.1 h

/-- An inventory of roles that leaves out those that are none. -/
theorem perm_flatMap {α : Type} {f : Role S → List α} (hf : f .none = [])
    {roles rest : List (Role S)} {x : Role S} (h : roles.Perm (x.toList ++ rest)) :
    (roles.flatMap f).Perm (f x ++ rest.flatMap f) := by
  have hx : x.toList.flatMap f = f x := by cases x <;> simp [toList, hf]
  rw [← hx, ← List.flatMap_append]
  exact h.flatMap_right f

def hasSlot : Role S → Bool
  | slot | made _ | opened _ | recruit _ => true
  | _ => false

/-- Whether only an acquirer plays the role. -/
def acquires : Role S → Bool
  | none | claim _ | notice | closing | draining => false
  | _ => true

theorem acquires_of_hasSlot {r : Role S} (h : r.hasSlot = true) : r.acquires = true := by
  cases r with
  | slot | made | opened | recruit => rfl
  | _ => cases h

/-- Sessions that were made and have no key yet. -/
def newcomers : Role S → List S
  | made session | opened session => [session]
  | _ => []

theorem newcomers_of_not_acquires {r : Role S} (h : r.acquires = false) : r.newcomers = [] := by
  cases r with
  | made | opened => cases h
  | _ => rfl

/-- The keys of sessions that have a record, but no place in the pool yet. -/
def recruits : Role S → List SessionKey
  | recruit record => [record.info.key]
  | _ => []

/-- The session that gets its key when the role changes, with that key. -/
def enrolment : Role S → Role S → List (SessionKey × S)
  | opened _, recruit record => [(record.info.key, record.session)]
  | _, _ => []

/-- The keys of lent sessions that are in the hands of the call. -/
def stakes : Role S → List SessionKey
  | loan record => [record.info.key]
  | claim key => [key]
  | _ => []

end Role

/-! ## Moves -/

/-- Two states of a pool that differ in nothing but counts, stamps and lesser settings. -/
structure Alike (p p' : Pool S) : Prop where
  active : p'.active = p.active
  idle : p'.idle = p.idle
  reserved : p'.reserved = p.reserved
  epoch : p'.epoch = p.epoch
  closed : p'.closed = p.closed
  nextKey : p'.nextKey = p.nextKey
  cap : p'.settings.maxConnections = p.settings.maxConnections

theorem Alike.rfl {p : Pool S} :
    Alike p p := ⟨.refl _, .refl _, .refl _, .refl _, .refl _, .refl _, .refl _⟩

/-- What a call can do to its pool in one go, and what becomes of its role. A reply stands for an
answer, no reply for a step. -/
inductive Moves (v : View S) (reply : Option (Reply S))
    (p : Pool S) : Role S → Pool S → Role S → Prop
  | pass {d : Role S} {p' : Pool S} (alike : Alike p p') : Moves v reply p d p' d
  | readEpoch : Moves v reply p .none p (.dated p.epoch)
  | readCap {epoch : UInt64} :
      Moves v reply p (.dated epoch) p (.poised epoch p.settings.maxConnections)
  | reuse {epoch : UInt64} {cap : UInt32} {p' : Pool S} {loan : Record S}
      (lend : p.lend cap v.now = (p', .reuse loan)) :
      Moves v reply p (.poised epoch cap) p' (.loan loan)
  | reserve {epoch : UInt64} {cap : UInt32} {p' : Pool S}
      (lend : p.lend cap v.now = (p', .reserve)) : Moves v reply p (.poised epoch cap) p' .slot
  | queue {epoch : UInt64} {cap : UInt32} (lend : p.lend cap v.now = (p, .full)) :
      Moves v reply p (.poised epoch cap) p (.waiting epoch)
  | resign {epoch : UInt64} {cap : UInt32} : Moves v reply p (.poised epoch cap) p .none
  | leave {epoch : UInt64} : Moves v reply p (.waiting epoch) p .none
  | receive {session : S} (hears : reply = some (.created (.value session))) :
      Moves v reply p .slot p (.made session)
  | accept {session : S} : Moves v reply p (.made session) p (.opened session)
  | giveUp {session : S} : Moves v reply p (.made session) p .slot
  | enrol {session : S} :
      Moves v reply p (.opened session) p.drawKey.1 (.recruit (.lent p.nextKey session v.now))
  | install {loan : Record S} (isOpen : p.closed = false) :
      Moves v reply p (.recruit loan) (p.install loan).1 (.loan loan)
  | refuse {loan : Record S} (closed : p.closed = true) :
      Moves v reply p (.recruit loan) p.unreserve .notice
  | unreserve : Moves v reply p .slot p.unreserve .notice
  | lose {key : SessionKey} (gone : v.alive = false ∨ p.active.find? key = none) :
      Moves v reply p (.claim key) p .none
  | takeBack {key : SessionKey} {p' : Pool S} {rejected : Option S}
      (taken : p.takeBack key v.connected v.now = some (p', rejected)) :
      Moves v reply p (.claim key) p' .notice
  | letGo {key : SessionKey} {p' : Pool S} (taken : p.letGo key = some p') :
      Moves v reply p (.claim key) p' .notice
  | beginProbes {interval : Duration} :
      Moves v reply p .none (p.beginProbes interval v.now).1 .none
  | endProbes {verdicts : List (SessionKey × Verdict)} :
      Moves v reply p .none (p.endProbes verdicts v.now).1 .notice
  | resize {count : UInt32} {p' : Pool S} (set : p.setMaxConnections count = .ok p') :
      Moves v reply p .none p' .notice
  | notify : Moves v reply p .notice p.notify .none
  | breakOff {text : String} (hears : reply = some (.closed (.panic text))) :
      Moves v reply p .notice p .none
  | close (isOpen : p.closed = false) : Moves v reply p .none p.close .closing
  | proclaim : Moves v reply p .closing p.notify .draining
  | drain : Moves v reply p .draining p.drain.1 .draining
  | retire {x : Role S} (shut : x = .closing ∨ x = .draining) : Moves v reply p x p .none

/-- A call in the middle of a transfer passes the source on, which no pool takes part in. -/
inductive HandsOver : Task S → Task S → Prop
  /-- The target becomes what the source was. -/
  | settled {old : Metadata} {source : Lease S} {given outcome : Outcome Error Unit} :
      HandsOver (.transfer (.replace old source (.done given))) (.transfer (.done source outcome))
  /-- Giving the target's session back has panicked, and the source is given back as well. -/
  | abandoned {old : Metadata} {source : Lease S} {given : Outcome Error Unit} {text : String} :
      HandsOver (.transfer (.replace old source (.done given)))
        (.transfer (.abandon ⟨source.home, none, old⟩ text source.giveBack.2))

end Interleaving

end ConnectionPool
