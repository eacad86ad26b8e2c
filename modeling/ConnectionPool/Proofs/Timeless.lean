import ConnectionPool.Proofs.Agreement
import Mathlib.Computability.StateTransition

set_option autoImplicit false

/-! # Pools without their clock

Two pools may have come to the same sessions by different ways, and then only the stamps of their
sessions tell them apart. Without the stamps (`Pool.timeless`) they are the same, and a request that
does not wait cannot tell them apart either: which session it is lent depends on the keys alone, and
what else it does on the source and the sessions that it is given.

What such a request does by itself is therefore told by a function of its phase, the pool without
stamps and what it has had to do with sources and sessions so far (`Surroundings.next`). Two
requests that begin alike in the same surroundings come to the same end (`Course.agree`). -/

namespace ConnectionPool

/-! ## Leaving out the stamps -/

/-- The same bookkeeping as if everything had happened when the clock was started. -/
def Metadata.timeless (m : Metadata) : Metadata :=
  { m with
    createdAt := .start, lastHeartbeat := .start
    lastCheckout := m.lastCheckout.map fun _ => .start }

namespace Record

variable {S : Type} (r : Record S)

def timeless : Record S := { r with info := r.info.timeless }

@[simp] theorem session_timeless : r.timeless.session = r.session := rfl

@[simp] theorem key_timeless : r.timeless.info.key = r.info.key := rfl

@[simp] theorem timeless_timeless : r.timeless.timeless = r.timeless := by
  simp [timeless, Metadata.timeless, Function.comp_def]

theorem timeless_checkOut (now at_ : Instant) :
    (r.timeless.checkOut at_).timeless = (r.checkOut now).timeless := rfl

end Record

namespace Roster

variable {α β : Type} (r : Roster α) (f : α → β)

theorem map_insert (k : SessionKey) (a : α) :
    (r.insert k a).map (fun _ => f) = (r.map fun _ => f).insert k (f a) := by
  refine ext_find? fun k' => ?_
  simp only [find?_map, find?_insert]
  split <;> rfl

theorem map_erase (k : SessionKey) : (r.erase k).map (fun _ => f) = (r.map fun _ => f).erase k := by
  refine ext_find? fun k' => ?_
  simp only [find?_map, find?_erase]
  split <;> rfl

theorem first?_map (q : β → Bool) :
    (r.map fun _ => f).first? q = (r.first? (q ∘ f)).map fun e => (e.1, f e.2) := by
  simp only [first?, map, List.find?_map]
  rfl

theorem map_timeless {S : Type} (r : Roster (Record S)) :
    (r.map fun _ r => r.timeless).map (fun _ r => r.timeless) = r.map fun _ r => r.timeless := by
  refine ext_find? fun k => ?_
  simp [Function.comp_def]

end Roster

namespace Pool

variable {S : Type} {p p' : Pool S} {now : Instant}

/-- The pool with the stamps of its sessions left out. -/
def timeless (p : Pool S) : Pool S :=
  { p with active := p.active.map fun _ r => r.timeless, idle := p.idle.map fun _ r => r.timeless }

@[simp] theorem timeless_timeless (p : Pool S) : p.timeless.timeless = p.timeless := by
  simp [timeless, Roster.map_timeless]

@[simp] theorem total_timeless (p : Pool S) : p.timeless.total = p.total := by
  simp [total, timeless]

@[simp] theorem closed_timeless (p : Pool S) : p.timeless.closed = p.closed := rfl

@[simp] theorem timeless_count (p : Pool S) (f : Tally → Tally) :
    (p.count f).timeless = p.timeless.count f := rfl

@[simp] theorem timeless_notify (p : Pool S) : p.notify.timeless = p.timeless.notify := rfl

@[simp] theorem timeless_unreserve (p : Pool S) : p.unreserve.timeless = p.timeless.unreserve := rfl

@[simp] theorem timeless_drawKey (p : Pool S) : p.drawKey.1.timeless = p.timeless.drawKey.1 := rfl

/-- A decision with the stamps of the session left out. -/
def Decision.timeless : Decision S → Decision S
  | .reuse loan => .reuse loan.timeless
  | decision => decision

theorem idle_first?_timeless (p : Pool S) :
    p.timeless.idle.first? (fun r => r.standing.isAvailable) =
      (p.idle.first? fun r => r.standing.isAvailable).map fun e => (e.1, e.2.timeless) :=
  Roster.first?_map p.idle Record.timeless _

/-- Requests are decided without a look at the stamps. -/
theorem timeless_lend (p : Pool S) (cap : UInt32) (now at_ : Instant) :
    (p.timeless.lend cap at_).1.timeless = (p.lend cap now).1.timeless ∧
      (p.timeless.lend cap at_).2.timeless = (p.lend cap now).2.timeless := by
  unfold lend
  rw [idle_first?_timeless, total_timeless]
  cases p.idle.first? fun r => r.standing.isAvailable with
  | some e =>
    obtain ⟨key, record⟩ := e
    refine ⟨?_, rfl⟩
    simp [timeless, Roster.map_insert, Roster.map_erase, Roster.map_timeless,
      record.timeless_checkOut now at_]
  | none =>
    have same : p.timeless.reserved = p.reserved := rfl
    rw [same]
    by_cases room : p.total + p.reserved.toNat < cap.toNat
    · simp only [Option.map_none, if_pos room, and_true]
      exact congrArg (fun q : Pool S => { q with reserved := p.reserved + 1 }) p.timeless_timeless
    · simp only [Option.map_none, if_neg room, and_true]
      exact p.timeless_timeless

/-- So a new session is taken in. -/
theorem timeless_install (p : Pool S) (loan : Record S) :
    (p.timeless.install loan.timeless).1.timeless = (p.install loan).1.timeless ∧
      (p.timeless.install loan.timeless).2 = (p.install loan).2 := by
  unfold install
  rw [closed_timeless]
  split
  · exact ⟨congrArg unreserve p.timeless_timeless, rfl⟩
  · exact ⟨by simp [timeless, unreserve, Roster.map_insert, Roster.map_timeless], rfl⟩

end Pool

/-! ## Requests that do not wait -/

namespace Acquire

variable {S : Type}

/-- The phase with the stamps of the session left out. -/
def timeless : Acquire S → Acquire S
  | countReuse loan => countReuse loan.timeless
  | install loan => install loan.timeless
  | countNew loan => countNew loan.timeless
  | done outcome => done (outcome.map (Option.map Record.timeless))
  | a => a

/-- Whether the acquirer is not ready to wait. -/
def hasty : Acquire S → Bool
  | readTimeout | start (some _) | wait _ _ => false
  | checkOpen patience | readEpoch patience | readCap patience _ | choose patience _ _ =>
    patience.isNone
  | _ => true

theorem hasty_of_decided {a : Acquire S} (h : a.decided = true) : a.hasty = true := by
  cases a with
  | readTimeout | start | checkOpen | readEpoch | readCap | choose | wait => cases h
  | _ => rfl

theorem timeless_follow (epoch : UInt64) (decision : Pool.Decision S) :
    (follow none epoch decision).timeless = (follow none epoch decision.timeless).timeless := by
  cases decision <;> simp [follow, timeless, Pool.Decision.timeless]

theorem hasty_follow (epoch : UInt64) (decision : Pool.Decision S) :
    (follow none epoch decision).hasty = true := by
  cases decision <;> rfl

/-- Whoever is not ready to wait has no use for the stamps, nor for the clock. -/
theorem timeless_step {a a' : Acquire S} {v u : View S} {p p' : Pool S} (hasty : a.hasty = true)
    (did : a.step v p = some (p', a'))
    (same : ∀ session, a = inspect session → u.connected session = v.connected session) :
    ∃ q b, a.timeless.step u p.timeless = some (q, b) ∧ q.timeless = p'.timeless ∧
      b.timeless = a'.timeless ∧ a.timeless.finding? u p.timeless = a.finding? v p ∧
      a'.hasty = true := by
  have twice := p.timeless_timeless
  cases a with
  | readTimeout | wait => cases hasty
  | create | openNew | closeUnused | done => cases did
  | start limit =>
    cases limit with
    | some d => cases hasty
    | none =>
      cases did
      exact ⟨_, _, rfl, twice, rfl, rfl, rfl⟩
  | checkOpen patience =>
    cases did
    refine ⟨_, _, rfl, twice, ?_, rfl, ?_⟩
    · rw [Pool.closed_timeless]
    · split
      · rfl
      · exact hasty
  | readEpoch | readCap =>
    cases did
    exact ⟨_, _, rfl, twice, rfl, rfl, hasty⟩
  | choose patience epoch cap =>
    simp only [step, Option.some.injEq, Prod.mk.injEq] at did
    obtain ⟨rfl, rfl⟩ := did
    obtain rfl : patience = none := Option.isNone_iff_eq_none.1 hasty
    obtain ⟨pool, decision⟩ := p.timeless_lend cap v.now u.now
    refine ⟨(p.timeless.lend cap u.now).1, follow none epoch (p.timeless.lend cap u.now).2,
      rfl, pool, ?_, rfl, hasty_follow _ _⟩
    rw [timeless_follow, decision, ← timeless_follow]
  | readSource =>
    cases did
    refine ⟨_, _, rfl, twice, ?_, rfl, ?_⟩
    · rfl
    · split <;> rfl
  | inspect session =>
    cases did
    refine ⟨_, _, rfl, twice, ?_, ?_, ?_⟩
    · rw [same session rfl]
    · simp [finding?, timeless, same session rfl]
    · split <;> rfl
  | install loan =>
    simp only [step, Option.some.injEq, Prod.mk.injEq] at did
    obtain ⟨rfl, rfl⟩ := did
    obtain ⟨pool, taken⟩ := p.timeless_install loan
    refine ⟨(p.timeless.install loan.timeless).1,
      if (p.timeless.install loan.timeless).2 then countNew loan.timeless
      else announceUnused loan.session, rfl, pool, ?_, rfl, ?_⟩
    · rw [taken]
      split <;> simp [timeless]
    · split <;> rfl
  | enrol session =>
    cases did
    exact ⟨p.timeless.drawKey.1, install (.lent p.nextKey session u.now), rfl,
      congrArg (fun q : Pool S => q.drawKey.1) twice, rfl, rfl, rfl⟩
  | countFailure reason slot =>
    cases did
    exact ⟨_, _, rfl, by simp, by split <;> rfl, rfl, by split <;> rfl⟩
  | announceSlot failure =>
    cases did
    cases failure with
    | value e => exact e.elim
    | error | panic => exact ⟨_, _, rfl, by simp, rfl, rfl, rfl⟩
  | _ =>
    cases did
    exact ⟨_, _, rfl, by simp, by simp [timeless, Outcome.map], rfl, rfl⟩

end Acquire

open Interleaving (Contact Reply)

/-- How sources and sessions behave, which may depend on all that was asked of them before. -/
structure Surroundings (S : Type) where
  creates : List (Contact S) → Source → Outcome Cause S
  connected : List (Contact S) → S → Bool
  opens : List (Contact S) → S → Outcome Cause Unit
  closes : List (Contact S) → S → Outcome Empty Unit

/-- How far a request has come: its phase, the pool, and what it has had to do with sources and
sessions, the latest first. -/
structure Attempt (S : Type) where
  phase : Acquire S
  pool : Pool S
  heard : List (Contact S)

/-- How far a request has come, as far as that can be told without a clock. -/
def Attempt.of {S : Type} (a : Acquire S) (p : Pool S) (heard : List (Contact S)) : Attempt S :=
  ⟨a.timeless, p.timeless, heard⟩

namespace Surroundings

variable {S : Type}

/-- Whether something that was heard is the answer to be expected after what was heard before. -/
def Answers (w : Surroundings S) (heard : List (Contact S)) : Contact S → Prop
  | .created source outcome => outcome = w.creates heard source
  | .inspected session connected => connected = w.connected heard session
  | .opened session outcome => outcome = w.opens heard session
  | .closed session outcome => outcome = w.closes heard session
  | .sourceless | .queried _ _ _ => True

/-- All that was heard was to be expected. -/
def Foretell (w : Surroundings S) : List (Contact S) → Prop
  | [] => True
  | contact :: heard => w.Foretell heard ∧ w.Answers heard contact

variable {w : Surroundings S} {a a' : Acquire S} {v : View S} {p p' : Pool S}
  {heard : List (Contact S)} {reply : Reply S} {contact : Contact S}

theorem Foretell.of_append {later : List (Contact S)} (h : w.Foretell (later ++ heard)) :
    w.Foretell heard := by
  induction later with
  | nil => exact h
  | cons contact later ih => exact ih h.1

/-- What an acquirer sees, the clock apart. -/
def view (w : Surroundings S) (heard : List (Contact S)) : View S :=
  { now := .start, connected := w.connected heard, alive := true, contended := false,
    byWorker := false }

/-- The answer that an acquirer is waiting for. -/
def reply? (w : Surroundings S) (heard : List (Contact S)) (a : Acquire S) : Option (Reply S) :=
  match a.status with
  | .creating source _ => some (.created (w.creates heard source))
  | .opening session _ => some (.opened (w.opens heard session))
  | .closing session _ => some (.closed (w.closes heard session))
  | _ => none

/-- What a request does next. -/
def next (w : Surroundings S) (x : Attempt S) : Option (Attempt S) :=
  match w.reply? x.heard x.phase with
  | some reply =>
    (x.phase.status.answer reply).map fun a =>
      .of a x.pool ((x.phase.status.contact? reply).toList ++ x.heard)
  | none =>
    (x.phase.step (w.view x.heard) x.pool).map fun (p, a) =>
      .of a p ((x.phase.finding? (w.view x.heard) x.pool).toList ++ x.heard)

theorem reply?_of_step (did : a.step v p = some (p', a')) : w.reply? heard a = none := by
  cases a with
  | create | openNew | closeUnused | done => cases did
  | _ => rfl

/-- A request that does not wait takes the steps that are to be expected. -/
theorem next_of_step (hasty : a.hasty = true) (did : a.step v p = some (p', a'))
    (told : w.Foretell ((a.finding? v p).toList ++ heard)) :
    w.next (.of a p heard) = some (.of a' p' ((a.finding? v p).toList ++ heard)) ∧
      a'.hasty = true := by
  have same : ∀ session, a = .inspect session →
      (w.view heard).connected session = v.connected session := by
    rintro session rfl
    exact told.2.symm
  obtain ⟨q, b, does, pool, phase, found, hasty'⟩ := Acquire.timeless_step hasty did same
  refine ⟨?_, hasty'⟩
  simp only [next, Attempt.of, reply?_of_step does, does, found, Option.map_some, pool, phase]

theorem reply?_of_answer (did : a.status.answer reply = some a')
    (learned : a.status.contact? reply = some contact) (told : w.Answers heard contact) :
    w.reply? heard a = some reply := by
  cases a with
  | create source =>
    cases reply <;> cases did
    cases learned
    exact congrArg (fun outcome => some (Reply.created outcome)) told.symm
  | openNew session =>
    cases reply <;> cases did
    cases learned
    exact congrArg (fun outcome => some (Reply.opened outcome)) told.symm
  | closeUnused session =>
    cases reply <;> cases did
    cases learned
    exact congrArg (fun outcome => some (Reply.closed outcome)) told.symm
  | _ => cases did

/-- It hears what is to be expected. -/
theorem next_of_answer (did : a.status.answer reply = some a')
    (learned : a.status.contact? reply = some contact) (told : w.Foretell (contact :: heard)) :
    w.next (.of a p heard) = some (.of a' p (contact :: heard)) ∧ a'.hasty = true := by
  have expected := reply?_of_answer did learned told.2
  have unstamped : a.timeless = a := by
    cases a with
    | countReuse | install | countNew | done => cases did
    | _ => rfl
  refine ⟨?_, Acquire.hasty_of_decided (Acquire.decided_of_answer did)⟩
  simp [next, Attempt.of, unstamped, expected, did, learned]

end Surroundings

/-! ## Whole requests -/

namespace Interleaving



variable {S : Type} {w : Surroundings S} {a a₀ : Acquire S} {p p₀ : Pool S}
  {heard : List (Contact S)} {ms : List (Move S)} {t : Task S}

/-- A request that does not wait, and that nobody disturbs, does what is to be expected. -/
theorem Course.reaches (course : Course (.acquire a₀) ms t) (hasty₀ : a₀.hasty = true)
    (chained : Chained p₀ (effects ms) p) (told : w.Foretell (contacts ms ++ heard))
    (is : t = .acquire a) :
    StateTransition.Reaches w.next (.of a₀ p₀ heard) (.of a p (contacts ms ++ heard)) ∧
      a.hasty = true := by
  induction course generalizing p a with
  | here =>
    cases is
    obtain rfl := chained
    exact ⟨.refl, hasty₀⟩
  | @step ms t t' v q q' course did ih =>
    subst is
    obtain ⟨a₁, rfl, does⟩ := Task.acquire_of_step did
    obtain ⟨rfl, chained⟩ := chained
    rw [contacts_step, List.append_assoc] at told ⊢
    obtain ⟨reached, hasty⟩ := ih chained told.of_append rfl
    obtain ⟨next, hasty'⟩ := Surroundings.next_of_step hasty does told
    exact ⟨reached.tail next, hasty'⟩
  | @hear ms t t' reply contact course did learned ih =>
    subst is
    obtain ⟨a₁, rfl, hears⟩ := Task.acquire_of_answer did
    obtain ⟨reached, hasty⟩ := ih chained told.1 rfl
    obtain ⟨next, hasty'⟩ := Surroundings.next_of_answer hears learned told
    exact ⟨reached.tail next, hasty'⟩
  | ends => cases is

/-- Two requests that do not wait, and that nobody disturbs, come to the same end if they begin
alike. -/
theorem Course.agree {a₀ : Acquire S} {p₀ q₀ p q : Pool S} {ms ms' : List (Move S)}
    {outcome outcome' : Outcome Error (Option (Record S))} (hasty₀ : a₀.hasty = true)
    (course : Course (.acquire a₀) ms (.acquire (.done outcome)))
    (course' : Course (.acquire a₀) ms' (.acquire (.done outcome')))
    (chained : Chained p₀ (effects ms) p) (chained' : Chained q₀ (effects ms') q)
    (told : w.Foretell (contacts ms ++ heard)) (told' : w.Foretell (contacts ms' ++ heard))
    (alike : p₀.timeless = q₀.timeless) :
    outcome.map (Option.map Record.timeless) = outcome'.map (Option.map Record.timeless) ∧
      p.timeless = q.timeless ∧ contacts ms ++ heard = contacts ms' ++ heard := by
  have begun : Attempt.of a₀ q₀ heard = .of a₀ p₀ heard := by rw [Attempt.of, ← alike, Attempt.of]
  have ends : Attempt.of (.done outcome) p (contacts ms ++ heard) ∈
      StateTransition.eval w.next (.of a₀ p₀ heard) :=
    StateTransition.mem_eval.2 ⟨(course.reaches hasty₀ chained told rfl).1, rfl⟩
  have ends' : Attempt.of (.done outcome') q (contacts ms' ++ heard) ∈
      StateTransition.eval w.next (.of a₀ p₀ heard) :=
    StateTransition.mem_eval.2 ⟨begun ▸ (course'.reaches hasty₀ chained' told' rfl).1, rfl⟩
  obtain ⟨phase, pool, heard'⟩ := Attempt.mk.inj (Part.mem_unique ends ends')
  exact ⟨Acquire.done.inj phase, pool, heard'⟩

end Interleaving

end ConnectionPool
