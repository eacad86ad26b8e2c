import ConnectionPool.Proofs.Epochs
import ConnectionPool.Proofs.Hauls

set_option autoImplicit false

/-! # Clearances

When a call has taken sessions out of its pool, it closes them one after the other, counts them, and
tells those who wait. The clearance of a call records how far it has come with its last haul: which
closings have ended, and how, what was counted, and whether anybody was told. No step looks at it.

A phase tells the clearance of its call (`Task.Clears`). Once a call is through with its sessions,
all is done; or one of them has broken off while it was closed, and then those that came after it
were never closed, nothing was counted, and nobody was told (`Clearance.Over`). -/

namespace ConnectionPool

variable {S : Type}

namespace Interleaving

/-! ## Clearances -/

structure Clearance (S : Type) where
  /-- What had happened before the section. -/
  past : List (State S × Choice S)
  /-- The state in which the section was entered, and the choice that entered it. -/
  entered : State S × Choice S
  haul : Haul S
  /-- How the closings have ended, the first one first. -/
  closed : List (S × Outcome Empty Unit) := []
  /-- Whether the pool was closed when the call began to close sessions. -/
  late : Bool := false
  gain : Gain := {}
  /-- Whether those who wait were told after the section. -/
  told : Bool := false

namespace Clearance

variable {p p' : Pool S}

/-- The clearance after another step of the call, which changes the pool as given. -/
def stepped (p p' : Pool S) (cl : Clearance S) : Clearance S :=
  { cl with
    late := if cl.closed.isEmpty then p.closed else cl.late
    gain := cl.gain + .between p.tally p'.tally
    told := cl.told || p'.epoch != p.epoch }

@[simp] theorem haul_stepped (cl : Clearance S) : (cl.stepped p p').haul = cl.haul := rfl

/-- The clearance after an answer that the call hears. -/
def heard (t : Task S) (reply : Reply S) (cl : Clearance S) : Clearance S :=
  match reply with
  | .closed outcome => { cl with closed := cl.closed ++ t.closing?.toList.map (·, outcome) }
  | _ => cl

/-- The clearance of a call after a step. -/
def renew (past : List (State S × Choice S)) (e : State S × Choice S) (p p' : Pool S)
    (clearance : Option (Clearance S)) : Option (Haul S) → Option (Clearance S)
  | some haul => some { past, entered := e, haul }
  | none => clearance.map (stepped p p')

end Clearance

/-- What a choice makes of the clearance of a call. -/
def Clearance.update (i : Nat) (past : List (State S × Choice S)) (s : State S)
    (clearance : Option (Clearance S)) : Choice S → Option (Clearance S)
  | .step j connected contended =>
    if j = i then
      match s.calls[i]?, s.act (.step j connected contended) with
      | some call, some s' =>
        match s.pool? call.home, s'.pool? call.home with
        | some p, some p' =>
          renew past (s, .step i connected contended) p p' clearance
            (call.task.haul? (s.view call connected contended) p)
        | _, _ => clearance
      | _, _ => clearance
    else clearance
  | .answer j reply =>
    if j = i then
      match s.calls[i]? with
      | some call => clearance.map (heard call.task reply)
      | none => clearance
    else clearance
  | _ => clearance

/-- The clearance of a call: what has become of the sessions that its last section took. -/
def clearance (i : Nat) : List (State S × Choice S) → Option (Clearance S)
  | [] => none
  | (s, c) :: past => Clearance.update i past s (clearance i past) c

/-- The call that goes on by a choice. -/
def Choice.caller? : Choice S → Option Nat
  | .step i _ _ | .answer i _ | .finish i => some i
  | _ => none

section

variable {past : List (State S × Choice S)} {s : State S} {c : Choice S} {i : Nat} {call : Call S}

theorem clearance_of_caller_ne (h : c.caller? ≠ some i) :
    clearance i ((s, c) :: past) = clearance i past := by
  cases c with
  | step j connected contended | answer j reply =>
    have other : j ≠ i := fun same => h (congrArg some same)
    simp [clearance, Clearance.update, other]
  | _ => rfl

theorem clearance_of_finish : clearance i ((s, .finish i) :: past) = clearance i past := rfl

theorem clearance_of_answer {reply : Reply S} (was : s.calls[i]? = some call) :
    clearance i ((s, .answer i reply) :: past) =
      (clearance i past).map (.heard call.task reply) := by
  simp [clearance, Clearance.update, was]

theorem clearance_of_step {connected : S → Bool} {contended : Bool} {site : Site S}
    {p' : Pool S} {t' : Task S} (was : s.calls[i]? = some call)
    (found : s.sites[call.home]? = some site)
    (act : s.act (.step i connected contended) = some (s.put i call site p' t')) :
    clearance i ((s, .step i connected contended) :: past) =
      Clearance.renew past (s, .step i connected contended) site.pool p' (clearance i past)
        (call.task.haul? (s.view call connected contended) site.pool) := by
  have built := State.pool?_of_site found
  have built' : (s.put i call site p' t').pool? call.home = some p' := by
    rw [State.pool?_put found, if_pos rfl]
  simp [clearance, Clearance.update, was, act, built, built']

end

/-! ## How far a clearance has come -/

namespace Clearance

variable {p p' : Pool S} {cl : Clearance S} {haul : Haul S} {left : List S}

/-- The call is closing the sessions of a haul, and these are left. -/
structure Midway (haul : Haul S) (left : List S) (cl : Clearance S) : Prop where
  own : cl.haul = haul
  closed : ∃ before, haul.sessions = before ++ left ∧ cl.closed = before.map (·, .value ())
  gain : cl.gain = {}
  told : cl.told = false

/-- Every session is closed and counted; whether those who wait were told is given. -/
structure Settled (told : Bool) (cl : Clearance S) : Prop where
  closed : cl.closed = cl.haul.sessions.map (·, .value ())
  gain : cl.gain = cl.haul.gain cl.late
  told : cl.told = told

/-- A session has broken off while it was closed. The sessions after it were not closed, nothing was
counted, and nobody was told. -/
structure BrokenOff (cl : Clearance S) : Prop where
  closed : ∃ before session text after, cl.haul.sessions = before ++ session :: after ∧
    cl.closed = before.map (·, .value ()) ++ [(session, .panic text)]
  gain : cl.gain = {}
  told : cl.told = false

/-- The call is through with the sessions. -/
def Over (cl : Clearance S) : Prop := cl.Settled cl.haul.owesNotice ∨ cl.BrokenOff

/-- A step that leaves the tally and the epoch alone. -/
def Silent (p p' : Pool S) : Prop := p'.tally = p.tally ∧ p'.epoch = p.epoch

theorem gain_of_silent (silent : Silent p p') : (cl.stepped p p').gain = cl.gain := by
  simp [stepped, silent.1]

theorem told_of_silent (silent : Silent p p') : (cl.stepped p p').told = cl.told := by
  simp [stepped, silent.2]

/-- What is to be counted does not change when the call goes on. -/
theorem haulGain_stepped (closed : cl.closed = cl.haul.sessions.map (·, .value ())) :
    (cl.stepped p p').haul.gain (cl.stepped p p').late = cl.haul.gain cl.late := by
  -- the pool is looked at only as long as nothing was closed, and then only a returned session
  -- matters
  cases hc : cl.closed with
  | cons => simp [stepped, hc]
  | nil =>
    rw [hc] at closed
    have none : cl.haul.sessions = [] := List.map_eq_nil_iff.1 closed.symm
    show cl.haul.gain _ = cl.haul.gain _
    cases hh : cl.haul with
    | returned rejected =>
      rw [hh] at none
      obtain rfl := Option.toList_eq_nil_iff.1 none
      rfl
    | _ => rfl

theorem Midway.stepped (h : cl.Midway haul left) (silent : Silent p p') :
    (cl.stepped p p').Midway haul left :=
  ⟨h.own, h.closed, (gain_of_silent silent).trans h.gain, (told_of_silent silent).trans h.told⟩

theorem Settled.stepped {told : Bool} (h : cl.Settled told) (silent : Silent p p') :
    (cl.stepped p p').Settled told :=
  ⟨h.closed, ((gain_of_silent silent).trans h.gain).trans (haulGain_stepped h.closed).symm,
    (told_of_silent silent).trans h.told⟩

theorem BrokenOff.stepped (h : cl.BrokenOff) (silent : Silent p p') : (cl.stepped p p').BrokenOff :=
  ⟨h.closed, (gain_of_silent silent).trans h.gain, (told_of_silent silent).trans h.told⟩

theorem Over.stepped (h : cl.Over) (silent : Silent p p') : (cl.stepped p p').Over :=
  h.imp (·.stepped silent) (·.stepped silent)

/-- The section itself. -/
theorem midway_of_section (past : List (State S × Choice S))
    (e : State S × Choice S) (haul : Haul S) :
    ({ past, entered := e, haul } : Clearance S).Midway haul haul.sessions :=
  ⟨rfl, ⟨[], rfl, rfl⟩, rfl, rfl⟩

/-- A call that has not begun to close sessions sees whether the pool is closed. -/
theorem Midway.late_of_first (h : cl.Midway haul haul.sessions) :
    (cl.stepped p p').late = p.closed := by
  obtain ⟨before, split, closed⟩ := h.closed
  obtain rfl : before = [] := List.append_left_eq_self.1 split.symm
  simp [Clearance.stepped, closed]

theorem Midway.late_of_last (h : cl.Midway haul []) (some : haul.sessions ≠ []) :
    (cl.stepped p p').late = cl.late := by
  obtain ⟨before, split, closed⟩ := h.closed
  rw [List.append_nil] at split
  rw [split] at some
  simp [Clearance.stepped, closed, some]

/-- A session is closed, and the next one comes. -/
theorem Midway.next {session : S} {t : Task S} (h : cl.Midway haul (session :: left))
    (closing : t.closing? = some session) :
    (cl.heard t (.closed (.value ()))).Midway haul left := by
  obtain ⟨before, split, closed⟩ := h.closed
  refine ⟨h.own, ⟨before ++ [session], by simp [split], ?_⟩, h.gain, h.told⟩
  simp [heard, closing, closed]

/-- A session breaks off while it is closed. -/
theorem Midway.brokenOff {session : S} {t : Task S} {text : String}
    (h : cl.Midway haul (session :: left)) (closing : t.closing? = some session) :
    (cl.heard t (.closed (.panic text))).BrokenOff := by
  obtain ⟨before, split, closed⟩ := h.closed
  refine ⟨⟨before, session, text, left, ?_, ?_⟩, h.gain, h.told⟩
  · rw [← split, ← h.own]
    rfl
  · simp [heard, closing, closed]

/-- All sessions are closed, and there is nothing to be counted. -/
theorem Midway.settled (h : cl.Midway haul []) (none : ∀ late, haul.gain late = {}) :
    cl.Settled false := by
  obtain ⟨before, split, closed⟩ := h.closed
  rw [List.append_nil] at split
  exact ⟨by rw [closed, h.own, split], by rw [h.gain, h.own, none], h.told⟩

/-- All sessions are closed, and the call counts them. -/
theorem Midway.count (h : cl.Midway haul []) {told : Bool} (told_eq : told = (p'.epoch != p.epoch))
    (gain : Gain.between p.tally p'.tally = haul.gain (cl.stepped p p').late) :
    (cl.stepped p p').Settled told := by
  obtain ⟨before, split, closed⟩ := h.closed
  rw [List.append_nil] at split
  refine ⟨?_, ?_, ?_⟩
  · show cl.closed = cl.haul.sessions.map _
    rw [closed, h.own, split]
  · show cl.gain + _ = cl.haul.gain _
    rw [h.gain, h.own, Gain.empty_add, gain]
  · simp [Clearance.stepped, h.told, told_eq]

/-- The call tells those who wait. -/
theorem Settled.announce (h : cl.Settled false) : (cl.stepped p p.notify).Settled true := by
  refine ⟨h.closed, ?_, ?_⟩
  · rw [haulGain_stepped h.closed, ← h.gain]
    simp [Clearance.stepped, Pool.notify]
  · have raised : (p.epoch + 1 != p.epoch) = true := bne_iff_ne.2 (Ledger.succ_epoch_ne _)
    simp [Clearance.stepped, Pool.notify, raised]

end Clearance

end Interleaving

open Interleaving (Clearance Task)

/-! ## What the phases tell -/

/-- The clearance of a call that is through with what it took last, if it took anything. -/
def Interleaving.Through (clearance : Option (Clearance S)) : Prop := ∀ cl ∈ clearance, cl.Over

def Release.Clears (clearance : Option (Clearance S)) : Release S → Prop
  | readClosed session => ∃ cl ∈ clearance, cl.Midway (.returned (some session)) [session]
  | close session closing =>
    ∃ cl ∈ clearance, cl.Midway (.returned (some session)) [session] ∧ cl.late = closing
  | count closing =>
    ∃ cl ∈ clearance, (∃ session, cl.Midway (.returned (some session)) []) ∧ cl.late = closing
  | announce => ∃ cl ∈ clearance, cl.Settled false ∧ cl.haul.owesNotice = true
  | takeBack _ | done _ => Interleaving.Through clearance

def Return.Clears (clearance : Option (Clearance S)) : Return S → Prop
  | release r => r.Clears clearance
  | close session => ∃ cl ∈ clearance, cl.Midway (.orphaned session) [session]
  | reach _ _ | done _ => Interleaving.Through clearance

def Transfer.Clears (clearance : Option (Clearance S)) : Transfer S → Prop
  | replace _ _ giving | refuse _ giving | abandon _ _ giving => giving.Clears clearance
  | done _ _ => Interleaving.Through clearance

def Heartbeat.Clears (clearance : Option (Clearance S)) : Heartbeat S → Prop
  | evict verdicts evicted todo => ∃ cl ∈ clearance, ∃ sessions, sessions.length = evicted ∧
      cl.Midway (.evicted verdicts sessions) todo
  | count verdicts evicted => ∃ cl ∈ clearance, ∃ sessions, sessions.length = evicted ∧
      cl.Midway (.evicted verdicts sessions) []
  | announce _ _ => ∃ cl ∈ clearance, cl.Settled false ∧ cl.haul.owesNotice = true
  | select _ _ | probe _ _ _ | credit _ _ | settle _ | done _ => Interleaving.Through clearance

def Worker.Clears (clearance : Option (Clearance S)) : Worker S → Prop
  | cycle _ _ heartbeat => heartbeat.Clears clearance
  | _ => Interleaving.Through clearance

def Shutdown.Clears (clearance : Option (Clearance S)) : Shutdown S → Prop
  | close | awaitFirst | stopWorker | awaitWorker | announce | drain => clearance = none
  | closeIdle n todo =>
    ∃ cl ∈ clearance, ∃ sessions, sessions.length = n ∧ cl.Midway (.drained sessions) todo
  | count n => ∃ cl ∈ clearance, ∃ sessions, sessions.length = n ∧ cl.Midway (.drained sessions) []
  | readPauses | look _ _ _ | asleep _ _ _ _ | finish =>
    ∃ cl ∈ clearance, cl.Settled false ∧ cl.haul.owesNotice = false
  | done (.value _) => ∀ cl ∈ clearance, cl.Settled false ∧ cl.haul.owesNotice = false
  | done (.panic _) => ∀ cl ∈ clearance, cl.BrokenOff
  | done (.error e) => e.elim

/-- What the phase of a call tells about its clearance. -/
def Interleaving.Task.Clears (clearance : Option (Clearance S)) : Task S → Prop
  | .giveBack _ r => r.Clears clearance
  | .transfer t => t.Clears clearance
  | .cycle b => b.Clears clearance
  | .work w => w.Clears clearance
  | .shutDown d | .drop d => d.Clears clearance
  | .acquire _ | .surrender _ | .resize _ => clearance = none
  | .returned => Interleaving.Through clearance

open Interleaving (State Choice Reply Through)

variable {v : View S} {p p' : Pool S} {past : List (State S × Choice S)} {e : State S × Choice S}
  {clearance : Option (Clearance S)} {cl : Clearance S} {reply : Reply S}

namespace Interleaving

theorem Through.stepped (h : Through clearance) (silent : Clearance.Silent p p') :
    Through (clearance.map (.stepped p p')) := by
  intro cl' hcl'
  obtain ⟨cl, hcl, rfl⟩ := Option.map_eq_some_iff.1 hcl'
  exact (h cl hcl).stepped silent

theorem Through.none : Through (S := S) none := by
  rintro _ ⟨⟩

theorem Through.some (h : cl.Over) : Through (some cl) := by
  rintro _ ⟨⟩
  exact h

end Interleaving

theorem Release.clears_of_step {r r' : Release S} (h : r.step v p = some (p', r'))
    (was : r.Clears clearance) :
    r'.Clears (Clearance.renew past e p p' clearance (r.haul? v p)) := by
  cases r with
  | takeBack key =>
    simp only [step] at h
    cases ht : p.takeBack key v.connected v.now with
    | none =>
      rw [ht] at h
      cases h
      rw [haul?, ht]
      exact Through.stepped was ⟨rfl, rfl⟩
    | some taken =>
      obtain ⟨q, rejected⟩ := taken
      rw [ht] at h
      rw [haul?, ht]
      cases rejected with
      | none =>
        cases h
        exact ⟨_, rfl, ⟨rfl, rfl, rfl⟩, rfl⟩
      | some session =>
        cases h
        exact ⟨_, rfl, Clearance.midway_of_section past e (.returned (some session))⟩
  | readClosed session =>
    cases h
    obtain ⟨cl, rfl, midway⟩ := was
    refine ⟨_, rfl, midway.stepped ⟨rfl, rfl⟩, ?_⟩
    exact midway.late_of_first
  | count closing =>
    cases h
    obtain ⟨cl, rfl, ⟨session, midway⟩, late⟩ := was
    refine ⟨_, rfl, midway.count (by simp [Pool.count]) ?_,
      by rw [Clearance.haul_stepped, midway.own]; rfl⟩
    rw [midway.late_of_last (List.cons_ne_nil session []), late]
    cases closing <;> simp [Gain.between, Pool.count, Haul.gain]
  | announce =>
    cases h
    obtain ⟨cl, rfl, settled, owes⟩ := was
    refine Through.some (.inl ?_)
    show (cl.stepped p p.notify).Settled cl.haul.owesNotice
    rw [owes]
    exact settled.announce
  | close | done => cases h

theorem Return.clears_of_step {r r' : Return S} (h : r.step v p = some (p', r'))
    (was : r.Clears clearance) :
    r'.Clears (Clearance.renew past e p p' clearance (r.haul? v p)) := by
  cases r with
  | reach session key =>
    cases h
    simp only [haul?]
    split
    · exact Through.stepped was ⟨rfl, rfl⟩
    · exact ⟨_, rfl, Clearance.midway_of_section past e (.orphaned session)⟩
  | release r =>
    rcases release_of_step h with ⟨outcome, rfl, rfl, rfl⟩ | ⟨u, hu, rfl⟩
    · exact Through.stepped was ⟨rfl, rfl⟩
    · exact Release.clears_of_step hu was
  | close | done => cases h

/-- A session that is to be given back is the next that its call takes. -/
theorem Lease.clears_giveBack {l : Lease S} (h : Through clearance) :
    l.giveBack.2.Clears clearance := by
  obtain ⟨home, session, info⟩ := l
  cases session <;> exact h

theorem Transfer.clears_of_step {t t' : Transfer S} (h : t.step v p = some (p', t'))
    (was : t.Clears clearance) :
    t'.Clears (Clearance.renew past e p p' clearance (t.haul? v p)) := by
  cases steps_of_step h with
  | giving around did => cases around <;> exact Return.clears_of_step did was
  | @replaced old source given =>
    have through : Through (clearance.map (.stepped p p)) := Through.stepped was ⟨rfl, rfl⟩
    cases given with
    | panic text => exact Lease.clears_giveBack through
    | _ => exact through
  | @refused target given => cases given <;> exact Through.stepped was ⟨rfl, rfl⟩
  | abandoned => exact Through.stepped was ⟨rfl, rfl⟩

theorem Heartbeat.clears_of_step {b b' : Heartbeat S} (h : b.step v p = some (p', b'))
    (was : b.Clears clearance) :
    b'.Clears (Clearance.renew past e p p' clearance (b.haul? v p)) := by
  cases b with
  | select interval statement =>
    simp only [step] at h
    split at h
    · cases h
      exact Through.stepped was ⟨rfl, rfl⟩
    · split at h
      · cases h
        exact Through.stepped was ⟨rfl, rfl⟩
      · simp only [Option.some.injEq, Prod.mk.injEq] at h
        obtain ⟨rfl, rfl⟩ := h
        split <;> exact Through.stepped was ⟨rfl, rfl⟩
  | probe statement todo verdicts =>
    cases todo <;> cases h
    exact Through.stepped was ⟨rfl, rfl⟩
  | credit todo verdicts =>
    cases todo <;> cases h
    · exact Through.stepped was ⟨rfl, rfl⟩
    · refine Through.stepped was ?_
      split <;> exact ⟨rfl, rfl⟩
  | settle verdicts =>
    cases h
    exact ⟨_, rfl, _, rfl,
      Clearance.midway_of_section past e (.evicted verdicts (p.endProbes verdicts v.now).2)⟩
  | evict verdicts evicted todo =>
    cases todo <;> cases h
    obtain ⟨cl, rfl, sessions, length, midway⟩ := was
    exact ⟨_, rfl, sessions, length, midway.stepped ⟨rfl, rfl⟩⟩
  | count verdicts evicted =>
    cases h
    obtain ⟨cl, rfl, sessions, rfl, midway⟩ := was
    refine ⟨_, rfl, midway.count (by simp [Pool.count]) ?_,
      by rw [Clearance.haul_stepped, midway.own]; rfl⟩
    simp [Gain.between, Pool.count, Haul.gain]
  | announce probed evicted =>
    cases h
    obtain ⟨cl, rfl, settled, owes⟩ := was
    refine Through.some (.inl ?_)
    show (cl.stepped p p.notify).Settled cl.haul.owesNotice
    rw [owes]
    exact settled.announce
  | done => cases h

theorem Worker.clears_of_step {w w' : Worker S} (h : w.step v p = some (p', w'))
    (was : w.Clears clearance) :
    w'.Clears (Clearance.renew past e p p' clearance (w.haul? v p)) := by
  cases w with
  | cycle nominal busy heartbeat =>
    rcases cycle_of_step h with ⟨outcome, rfl, rfl, rfl⟩ | ⟨b, hb, rfl⟩
    · cases outcome with
      | error e => exact e.elim
      | _ => exact Through.stepped was ⟨rfl, rfl⟩
    · exact Heartbeat.clears_of_step hb was
  | asleep until? =>
    simp only [step] at h
    split at h
    · cases h
      exact Through.stepped was ⟨rfl, rfl⟩
    · split at h <;> cases h
      exact Through.stepped was ⟨rfl, rfl⟩
  | readSettings | stop =>
    cases h
    exact Through.stepped was ⟨rfl, rfl⟩
  | done => cases h
  | _ =>
    cases h
    split <;> exact Through.stepped was ⟨rfl, rfl⟩

theorem Shutdown.clears_of_step {d d' : Shutdown S} (h : d.step v p = some (p', d'))
    (was : d.Clears clearance) : d'.Clears (Clearance.renew past e p p' clearance (d.haul? p)) := by
  have kept (settled : ∃ cl ∈ clearance, cl.Settled false ∧ cl.haul.owesNotice = false) :
      ∃ cl ∈ clearance.map (Clearance.stepped p p), cl.Settled false ∧
        cl.haul.owesNotice = false := by
    obtain ⟨cl, rfl, settled, owes⟩ := settled
    exact ⟨_, rfl, settled.stepped ⟨rfl, rfl⟩, owes⟩
  cases d with
  | close =>
    cases h
    cases was
    split <;> rfl
  | awaitFirst =>
    simp only [step] at h
    split at h <;> cases h
    cases was
    rintro _ ⟨⟩
  | awaitWorker =>
    cases was
    simp only [step] at h
    split at h
    · cases h
      rintro _ ⟨⟩
    · split at h <;> cases h
      rfl
  | stopWorker | announce =>
    cases h
    cases was
    rfl
  | drain =>
    cases h
    exact ⟨_, rfl, _, rfl, Clearance.midway_of_section past e (.drained p.drain.2)⟩
  | closeIdle n todo =>
    cases todo <;> cases h
    obtain ⟨cl, rfl, sessions, length, midway⟩ := was
    exact ⟨_, rfl, sessions, length, midway.stepped ⟨rfl, rfl⟩⟩
  | count n =>
    cases h
    obtain ⟨cl, rfl, sessions, rfl, midway⟩ := was
    refine ⟨_, rfl, midway.count (by simp [Pool.count]) ?_,
      by rw [Clearance.haul_stepped, midway.own]; rfl⟩
    simp [Gain.between, Pool.count, Haul.gain]
  | readPauses =>
    cases h
    exact kept was
  | look since pause limit =>
    cases h
    split
    · exact kept was
    · split <;> exact kept was
  | asleep until? since pause limit =>
    simp only [step] at h
    split at h <;> cases h
    exact kept was
  | finish =>
    cases h
    obtain ⟨cl, rfl, settled, owes⟩ := was
    rintro _ ⟨⟩
    exact ⟨settled.stepped ⟨rfl, rfl⟩, owes⟩
  | done => cases h

/-! ## What the calls hear -/

theorem Release.clears_of_answer {task : Interleaving.Task S} {r r' : Release S}
    (h : r.status.answer reply = some r') (same : task.closing? = r.status.closing?)
    (was : r.Clears clearance) :
    r'.Clears (clearance.map (.heard task reply)) := by
  cases r with
  | close session closing =>
    cases reply with
    | closed outcome =>
      cases h
      obtain ⟨cl, rfl, midway, late⟩ := was
      cases outcome with
      | value _ => exact ⟨_, rfl, ⟨session, midway.next same⟩, late⟩
      | error e => exact e.elim
      | panic text => exact Through.some (.inr (midway.brokenOff same))
    | _ => cases h
  | _ => cases h

theorem Return.clears_of_answer {task : Interleaving.Task S} {r r' : Return S}
    (h : r.status.answer reply = some r') (same : task.closing? = r.status.closing?)
    (was : r.Clears clearance) :
    r'.Clears (clearance.map (.heard task reply)) := by
  cases r with
  | release r =>
    obtain ⟨u, hu, rfl⟩ := Status.answer_embed h
    rw [status, Status.closing?_embed] at same
    exact Release.clears_of_answer hu same was
  | close session =>
    cases reply with
    | closed outcome =>
      cases h
      obtain ⟨cl, rfl, midway⟩ := was
      cases outcome with
      | value _ =>
        -- nothing is to be counted, and nobody is to be told
        have last := midway.next same
        refine Through.some (.inl ?_)
        rw [last.own]
        exact last.settled fun _ => rfl
      | error e => exact e.elim
      | panic text => exact Through.some (.inr (midway.brokenOff same))
    | _ => cases h
  | _ => cases h

theorem Transfer.clears_of_answer {task : Interleaving.Task S} {t t' : Transfer S}
    (h : t.status.answer reply = some t') (same : task.closing? = t.status.closing?)
    (was : t.Clears clearance) :
    t'.Clears (clearance.map (.heard task reply)) := by
  cases t with
  | done => cases reply <;> cases h
  | _ =>
    obtain ⟨u, hu, rfl⟩ := Status.answer_embed h
    rw [status, Status.closing?_embed] at same
    exact Return.clears_of_answer hu same was

theorem Heartbeat.clears_of_answer {task : Interleaving.Task S} {b b' : Heartbeat S}
    (h : b.status.answer reply = some b') (same : task.closing? = b.status.closing?)
    (was : b.Clears clearance) :
    b'.Clears (clearance.map (.heard task reply)) := by
  cases b with
  | probe statement todo verdicts =>
    cases todo with
    | nil => cases h
    | cons head rest =>
      cases reply with
      | queried outcome =>
        cases h
        show Through (clearance.map id)
        rw [Option.map_id]
        exact was
      | _ => cases h
  | evict verdicts evicted todo =>
    cases todo with
    | nil => cases h
    | cons session rest =>
      cases reply with
      | closed outcome =>
        cases h
        obtain ⟨cl, rfl, sessions, length, midway⟩ := was
        cases outcome with
        | value _ => exact ⟨_, rfl, sessions, length, midway.next same⟩
        | error e => exact e.elim
        | panic text => exact Through.some (.inr (midway.brokenOff same))
      | _ => cases h
  | _ => cases h

theorem Worker.clears_of_answer {task : Interleaving.Task S} {w w' : Worker S}
    (h : w.status.answer reply = some w') (same : task.closing? = w.status.closing?)
    (was : w.Clears clearance) :
    w'.Clears (clearance.map (.heard task reply)) := by
  cases w with
  | cycle nominal busy heartbeat =>
    obtain ⟨u, hu, rfl⟩ := Status.answer_embed h
    rw [status, Status.closing?_embed] at same
    exact Heartbeat.clears_of_answer hu same was
  | _ => cases h

theorem Shutdown.clears_of_answer {task : Interleaving.Task S} {d d' : Shutdown S}
    (h : d.status.answer reply = some d') (same : task.closing? = d.status.closing?)
    (was : d.Clears clearance) :
    d'.Clears (clearance.map (.heard task reply)) := by
  cases d with
  | closeIdle n todo =>
    cases todo with
    | nil => cases h
    | cons session rest =>
      cases reply with
      | closed outcome =>
        cases h
        obtain ⟨cl, rfl, sessions, length, midway⟩ := was
        cases outcome with
        | value _ => exact ⟨_, rfl, sessions, length, midway.next same⟩
        | error e => exact e.elim
        | panic text =>
          rintro _ ⟨⟩
          exact midway.brokenOff same
      | _ => cases h
  | _ => cases h

namespace Interleaving

/-! ## Calls -/

theorem Task.clears_of_step {t t' : Task S} (h : t.step v p = some (p', t'))
    (was : t.Clears clearance) :
    t'.Clears (Clearance.renew past e p p' clearance (t.haul? v p)) := by
  cases t with
  | giveBack kept r =>
    obtain ⟨u, hu, rfl⟩ := exists_of_map_step h
    exact Return.clears_of_step hu was
  | transfer t =>
    obtain ⟨u, hu, rfl⟩ := exists_of_map_step h
    exact Transfer.clears_of_step hu was
  | cycle b =>
    obtain ⟨u, hu, rfl⟩ := exists_of_map_step h
    exact Heartbeat.clears_of_step hu was
  | work w =>
    obtain ⟨u, hu, rfl⟩ := exists_of_map_step h
    exact Worker.clears_of_step hu was
  | shutDown d | drop d =>
    obtain ⟨u, hu, rfl⟩ := exists_of_map_step h
    exact Shutdown.clears_of_step hu was
  | acquire | surrender | resize =>
    obtain ⟨u, -, rfl⟩ := exists_of_map_step h
    cases was
    rfl
  | returned => cases h

theorem Task.clears_of_answer {t t' : Task S} (h : t.answer reply = some t')
    (was : t.Clears clearance) : t'.Clears (clearance.map (.heard t reply)) := by
  cases t with
  | giveBack kept r =>
    obtain ⟨u, hu, rfl⟩ := Option.map_eq_some_iff.1 h
    exact Return.clears_of_answer hu rfl was
  | transfer t =>
    obtain ⟨u, hu, rfl⟩ := Option.map_eq_some_iff.1 h
    exact Transfer.clears_of_answer hu rfl was
  | cycle b =>
    obtain ⟨u, hu, rfl⟩ := Option.map_eq_some_iff.1 h
    exact Heartbeat.clears_of_answer hu rfl was
  | work w =>
    obtain ⟨u, hu, rfl⟩ := Option.map_eq_some_iff.1 h
    exact Worker.clears_of_answer hu rfl was
  | shutDown d | drop d =>
    obtain ⟨u, hu, rfl⟩ := Option.map_eq_some_iff.1 h
    exact Shutdown.clears_of_answer hu rfl was
  | acquire | surrender =>
    obtain ⟨u, -, rfl⟩ := Option.map_eq_some_iff.1 h
    cases was
    rfl
  | resize | returned => cases h

/-- A call that has ended is through with the sessions that it took. -/
theorem Task.through_of_isEnded {t : Task S} (h : t.isEnded = true) (was : t.Clears clearance) :
    Through clearance := by
  cases ended_of_isEnded h with
  | shutDown outcome | drop outcome =>
    intro cl hcl
    cases outcome with
    | value _ =>
      obtain ⟨settled, owes⟩ := was cl hcl
      exact .inl (owes ▸ settled)
    | error e => exact e.elim
    | panic text => exact .inr (was cl hcl)
  | acquire | surrender | resize =>
    cases was
    exact .none
  | _ => exact was

/-! ## In every run -/

variable {s s' : State S} {c : Choice S} {i : Nat} {call : Call S}

/-- A call that does not go on by a choice is as it was, or it has just begun. -/
theorem same_of_caller_ne (act : s.act c = some s') (other : c.caller? ≠ some i) {call' : Call S}
    (is : s'.calls[i]? = some call') : s.calls[i]? = some call' ∨ s.calls[i]? = none := by
  cases was : s.calls[i]? with
  | none => exact .inr rfl
  | some call =>
    left
    cases came_of_act act is with
    | stays same => exact was.symm.trans same
    | begins new => cases was.symm.trans new
    | steps | hears | ends => exact absurd rfl other

/-- A call that has not begun has taken nothing. -/
theorem Run.clearance_unbegun (run : Run past s) (new : s.calls[i]? = none) :
    Interleaving.clearance i past = none := by
  induction run with
  | start => rfl
  | @next past s s' c run fresh act ih =>
    have before : s.calls[i]? = none := by
      by_contra h
      obtain ⟨call, was⟩ := Option.ne_none_iff_exists'.1 h
      obtain ⟨call', is⟩ := exists_call_of_act act was
      cases new.symm.trans is
    have other : c.caller? ≠ some i := by
      intro h
      cases happens_of_act act with
      | step atWork | answer atWork | finish atWork =>
        cases h
        cases before.symm.trans atWork
      | _ => cases h
    rw [clearance_of_caller_ne other]
    exact ih before

theorem Begins.clears {call : Call S} (h : Begins s c call) : call.task.Clears none := by
  cases h with
  | transfer =>
    rw [Transfer.start]
    split <;> exact Lease.clears_giveBack .none
  | giveBack => exact Lease.clears_giveBack .none
  | acquire | surrender | resize | shutDown | drop => rfl
  | cycle | work => exact .none

/-- The phase of every call tells its clearance. -/
theorem Run.clears (run : Run past s) (was : s.calls[i]? = some call) :
    call.task.Clears (Interleaving.clearance i past) := by
  induction run generalizing call with
  | start => simp at was
  | @next past s s' c run fresh act ih =>
    by_cases mine : c.caller? = some i
    · cases happens_of_act act with
      | @step j connected contended old site p' t' atWork found did =>
        cases mine
        rw [clearance_of_step atWork found act]
        have hlt := (List.getElem?_eq_some_iff.1 atWork).1
        rw [State.put, List.getElem?_set_self hlt] at was
        cases was
        exact Task.clears_of_step did (ih atWork)
      | @answer j reply old site t' atWork found did =>
        cases mine
        rw [clearance_of_answer atWork]
        have hlt := (List.getElem?_eq_some_iff.1 atWork).1
        rw [State.put, List.getElem?_set_self hlt] at was
        cases was
        exact Task.clears_of_answer did (ih atWork)
      | @finish j old atWork ended =>
        cases mine
        rw [clearance_of_finish]
        have hlt := (List.getElem?_eq_some_iff.1 atWork).1
        rw [List.getElem?_set_self hlt] at was
        cases was
        exact Task.through_of_isEnded ended (ih atWork)
      | pass | build | adjust | begin | drop => cases mine
    · rw [clearance_of_caller_ne mine]
      rcases same_of_caller_ne act mine was with same | new
      · exact ih same
      · rw [run.clearance_unbegun new]
        exact (begins_of_act act new was).clears

/-! ## The section -/

/-- How a call has come by its haul: in a section of its own. If anybody was told, it was
afterwards. -/
structure Origin (home : PoolId) (past : List (State S × Choice S)) (cl : Clearance S) : Prop where
  entered : ∃ later, past = later ++ cl.entered :: cl.past ∧
    (cl.told = true → ∃ e ∈ later, e.1.notifies home e.2 = true)
  removed : cl.haul.removes = true → ∃ p s₁ p₁, cl.entered.1.pool? home = some p ∧
    cl.entered.1.act cl.entered.2 = some s₁ ∧ s₁.pool? home = some p₁ ∧
    p.sessions.Perm (cl.haul.sessions ++ p₁.sessions)

theorem Origin.cons {home : PoolId} (h : Origin home past cl) (e : State S × Choice S) :
    Origin home (e :: past) cl := by
  obtain ⟨later, split, told⟩ := h.entered
  refine ⟨⟨e :: later, by rw [split]; rfl, fun h => ?_⟩, h.removed⟩
  obtain ⟨e', he', notifies⟩ := told h
  exact ⟨e', List.mem_cons_of_mem _ he', notifies⟩

theorem Origin.stepped {home : PoolId} (h : Origin home past cl)
    (raised : p'.epoch ≠ p.epoch → e.1.notifies home e.2 = true) :
    Origin home (e :: past) (cl.stepped p p') := by
  obtain ⟨⟨later, split, told⟩, removed⟩ := h.cons e
  obtain ⟨older, before, -⟩ := h.entered
  refine ⟨⟨e :: older, by rw [before]; rfl, fun after => ?_⟩, removed⟩
  rcases Bool.or_eq_true_iff.1 after with earlier | now
  · obtain ⟨e', he', notifies⟩ := told earlier
    refine ⟨e', ?_, notifies⟩
    have same : later = e :: older := by
      rw [before] at split
      exact (List.append_cancel_right (by simpa using split)).symm
    rwa [same] at he'
  · exact ⟨e, List.mem_cons_self, raised (bne_iff_ne.1 now)⟩

theorem Origin.heard {home : PoolId} (h : Origin home past cl) (t : Task S) (reply : Reply S) :
    Origin home past (cl.heard t reply) := by
  cases reply with
  | closed outcome => exact ⟨h.entered, h.removed⟩
  | _ => exact h

theorem Run.origin (run : Run past s) (was : s.calls[i]? = some call)
    (is : cl ∈ Interleaving.clearance i past) : Origin call.home past cl := by
  induction run generalizing call cl with
  | start => cases is
  | @next past s s' c run fresh act ih =>
    by_cases mine : c.caller? = some i
    · cases happens_of_act act with
      | @step j connected contended old site p' t' atWork found did =>
        cases mine
        obtain ⟨same, -⟩ := same_of_act act atWork was
        rw [same]
        rw [clearance_of_step atWork found act] at is
        have built := State.pool?_of_site found
        have built' : (s.put i old site p' t').pool? old.home = some p' := by
          rw [State.pool?_put found, if_pos rfl]
        cases takes : old.task.haul? (s.view old connected contended) site.pool with
        | some haul =>
          rw [takes] at is
          cases is
          refine ⟨⟨[], rfl, nofun⟩, fun removes => ⟨site.pool, _, p', built, act, built', ?_⟩⟩
          exact Task.perm_sessions_of_haul did takes removes
        | none =>
          rw [takes] at is
          obtain ⟨before, hb, rfl⟩ := Option.map_eq_some_iff.1 is
          refine (ih atWork hb).stepped fun raised => ?_
          simp only [State.notifies, built, act, Option.bind_some, built', bne_iff_ne]
          exact raised
      | @answer j reply old site t' atWork found did =>
        cases mine
        obtain ⟨same, -⟩ := same_of_act act atWork was
        rw [same]
        rw [clearance_of_answer atWork] at is
        obtain ⟨before, hb, rfl⟩ := Option.map_eq_some_iff.1 is
        exact ((ih atWork hb).cons _).heard old.task reply
      | @finish j old atWork ended =>
        cases mine
        obtain ⟨same, -⟩ := same_of_act act atWork was
        rw [same]
        exact (ih atWork is).cons _
      | pass | build | adjust | begin | drop => cases mine
    · rw [clearance_of_caller_ne mine] at is
      rcases same_of_caller_ne act mine was with same | new
      · exact (ih same is).cons _
      · rw [run.clearance_unbegun new] at is
        cases is

end Interleaving

end ConnectionPool
