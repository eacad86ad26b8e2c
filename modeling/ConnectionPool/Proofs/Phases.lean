import ConnectionPool.Proofs.Moves

set_option autoImplicit false

/-! # What phases tell

A phase tells whether its call keeps the pool in existence, which lease the session of a transfer is
still to be taken from, and what the call has in its hands when it ends. Some roles belong to a
single phase. -/

namespace ConnectionPool

open Interleaving (Reply Task)

variable {S : Type} {v : View S} {p p' : Pool S} {reply : Reply S}

/-! ## Keeping a pool in existence

A call that does not keep its pool comes to keep it only while the pool exists: pools never come
back. -/

theorem Return.keeps_of_step {r r' : Return S} (h : r.step v p = some (p', r'))
    (keeps : r'.holdsPool = true) : r.holdsPool = true ∨ v.alive = true := by
  cases r with
  | reach session key =>
    cases h
    split at keeps
    · next ha => exact .inr ha
    · cases keeps
  | release r => exact .inl rfl
  | close | done => cases h

theorem Return.keeps_of_answer {r r' : Return S} (h : r.status.answer reply = some r')
    (keeps : r'.holdsPool = true) : r.holdsPool = true := by
  cases r with
  | release r => rfl
  | close session =>
    cases reply with
    | closed outcome =>
      cases h
      cases outcome with
      | error e => exact e.elim
      | _ => cases keeps
    | _ => cases h
  | _ => cases h

theorem Surrender.keeps_of_step {d d' : Surrender S} (h : d.step v p = some (p', d'))
    (keeps : d'.holdsPool = true) : d.holdsPool = true ∨ v.alive = true := by
  cases d with
  | reach session key =>
    cases h
    split at keeps
    · next ha => exact .inr ha
    · cases keeps
  | detach session d => exact .inl rfl
  | done => cases h

theorem Worker.keeps_of_step {w w' : Worker S} (h : w.step v p = some (p', w'))
    (keeps : w'.holdsPool = true) : w.holdsPool = true ∨ v.alive = true := by
  cases w with
  | reach =>
    cases h
    split at keeps
    · next ha => exact .inr ha
    · cases keeps
  | start =>
    cases h
    split at keeps <;> cases keeps
  | pause length =>
    cases h
    split at keeps <;> cases keeps
  | asleep until? =>
    simp only [Worker.step] at h
    split at h
    · cases h
      cases keeps
    · split at h <;> cases h
      cases keeps
  | checkOpen | readSettings | cycle => exact .inl rfl
  | stop =>
    cases h
    cases keeps
  | done => cases h

theorem Transfer.keeps_of_step {t t' : Transfer S} (h : t.step v p = some (p', t'))
    (keeps : t'.holdsPool = true) : t.holdsPool = true ∨ v.alive = true := by
  cases steps_of_step h with
  | giving around did => cases around <;> exact Return.keeps_of_step did keeps
  | @replaced old source given =>
    cases given with
    | panic text =>
      simp only [afterReplace, holdsPool, Lease.giveBack] at keeps
      split at keeps <;> cases keeps
    | _ => cases keeps
  | @refused target given => cases given <;> cases keeps
  | abandoned => cases keeps

namespace Interleaving

namespace Task

theorem keeps_of_step {t t' : Task S} (h : t.step v p = some (p', t')) (keeps : t'.keeps = true) :
    t.keeps = true ∨ v.alive = true := by
  cases t with
  | giveBack kept r =>
    obtain ⟨u, hu, rfl⟩ := exists_of_map_step h
    exact Return.keeps_of_step hu keeps
  | transfer t =>
    obtain ⟨u, hu, rfl⟩ := exists_of_map_step h
    exact Transfer.keeps_of_step hu keeps
  | surrender d =>
    obtain ⟨u, hu, rfl⟩ := exists_of_map_step h
    exact Surrender.keeps_of_step hu keeps
  | work w =>
    obtain ⟨u, hu, rfl⟩ := exists_of_map_step h
    exact Worker.keeps_of_step hu keeps
  | cycle | drop => exact .inl rfl
  | acquire | resize | shutDown =>
    obtain ⟨u, hu, rfl⟩ := exists_of_map_step h
    cases keeps
  | returned => cases h

theorem keeps_of_answer {t t' : Task S} (h : t.answer reply = some t') (keeps : t'.keeps = true) :
    t.keeps = true := by
  cases t with
  | giveBack kept r =>
    obtain ⟨u, hu, rfl⟩ := Option.map_eq_some_iff.1 h
    exact Return.keeps_of_answer hu keeps
  | transfer t =>
    obtain ⟨u, hu, rfl⟩ := Option.map_eq_some_iff.1 h
    cases t with
    | done => cases reply <;> cases hu
    | _ =>
      obtain ⟨r, hr, rfl⟩ := Status.answer_embed hu
      exact Return.keeps_of_answer hr keeps
  | surrender d =>
    obtain ⟨u, hu, rfl⟩ := Option.map_eq_some_iff.1 h
    exact (Surrender.not_answer hu).elim
  | work w =>
    obtain ⟨u, hu, rfl⟩ := Option.map_eq_some_iff.1 h
    cases w with
    | cycle => rfl
    | _ => cases hu
  | cycle | drop => rfl
  | acquire | shutDown =>
    obtain ⟨u, hu, rfl⟩ := Option.map_eq_some_iff.1 h
    cases keeps
  | resize | returned => cases h

/-! ## Phases with a role -/

/-- Only acquirers ask, hold slots, make sessions and are lent any. -/
theorem exists_acquire_of_role {t : Task S} (h : t.role.acquires = true) :
    ∃ a, t = .acquire a ∧ t.role = a.role := by
  have giving {r : Return S} (h : r.role.acquires = true) : False := by
    cases r with
    | release r => cases r <;> cases h
    | _ => cases h
  cases t with
  | acquire a => exact ⟨a, rfl, rfl⟩
  | giveBack kept r => exact (giving h).elim
  | transfer t =>
    cases t with
    | done => cases h
    | _ => exact (giving h).elim
  | surrender d =>
    cases d with
    | detach x d => cases d <;> cases h
    | _ => cases h
  | cycle b => cases b <;> cases h
  | work w =>
    cases w with
    | cycle nominal busy b => cases b <;> cases h
    | _ => cases h
  | resize c => cases c <;> cases h
  | shutDown d | drop d => cases d <;> cases h
  | returned => cases h

/-- Only an acquirer whose session is open draws a key. -/
theorem eq_enrol_of_role {t : Task S} {session : S} (h : t.role = .opened session) :
    t = .acquire (.enrol session) := by
  obtain ⟨a, rfl, -⟩ := exists_acquire_of_role (by rw [h]; rfl)
  cases a with
  | enrol x =>
    cases h
    rfl
  | countFailure reason slot => cases slot <;> cases h
  | done outcome =>
    cases outcome with
    | value loan? => cases loan? <;> cases h
    | _ => cases h
  | _ => cases h

/-- Only an acquirer is about to have its request decided. -/
theorem eq_choose_of_role {t : Task S} {epoch : UInt64} {cap : UInt32}
    (h : t.role = .poised epoch cap) : ∃ patience, t = .acquire (.choose patience epoch cap) := by
  obtain ⟨a, rfl, -⟩ := exists_acquire_of_role (by rw [h]; rfl)
  cases a with
  | choose patience e c =>
    cases h
    exact ⟨patience, rfl⟩
  | countFailure reason slot => cases slot <;> cases h
  | done outcome =>
    cases outcome with
    | value loan? => cases loan? <;> cases h
    | _ => cases h
  | _ => cases h

/-- A key is drawn in a step, not with an answer. -/
theorem enrolment_of_answer {t t' : Task S} (h : t.answer reply = some t') :
    t.role.enrolment t'.role = [] := by
  cases hr : t.role with
  | opened session =>
    rw [eq_enrol_of_role hr] at h
    cases h
  | _ => rfl

/-- The last phases of the operations. -/
inductive Ended : Task S → Prop
  | acquire (outcome : Outcome Error (Option (Record S))) : Ended (.acquire (.done outcome))
  | giveBack (kept : Option (Lease S)) (outcome : Outcome Error Unit) :
      Ended (.giveBack kept (.done outcome))
  | transfer (target : Lease S) (outcome : Outcome Error Unit) :
      Ended (.transfer (.done target outcome))
  | surrender (outcome : Outcome Error S) : Ended (.surrender (.done outcome))
  | cycle (outcome : Outcome Empty CycleReport) : Ended (.cycle (.done outcome))
  | work : Ended (.work .done)
  | resize (outcome : Outcome Error Unit) : Ended (.resize (.done outcome))
  | shutDown (outcome : Outcome Empty Unit) : Ended (.shutDown (.done outcome))
  | drop (outcome : Outcome Empty Unit) : Ended (.drop (.done outcome))

theorem ended_of_isEnded {t : Task S} (h : t.isEnded = true) : t.Ended := by
  -- an operation with another one inside has not ended while that goes on
  have going {τ σ ε ε' α α' : Type} {inside : τ → σ} {status : Status S τ ε α}
      (h : (status.embed inside fun _ => (.running : Status S σ ε' α')).isEnded = true) :
      False := by
    cases status <;> cases h
  cases t with
  | acquire a =>
    cases a with
    | done outcome => exact .acquire outcome
    | _ => cases h
  | giveBack kept r =>
    cases r with
    | done outcome => exact .giveBack kept outcome
    | release r => exact (going h).elim
    | _ => cases h
  | transfer t =>
    cases t with
    | done target outcome => exact .transfer target outcome
    | _ => exact (going h).elim
  | surrender d =>
    cases d with
    | done outcome => exact .surrender outcome
    | detach session d => exact (going h).elim
    | _ => cases h
  | cycle b =>
    cases b with
    | done outcome => exact .cycle outcome
    | probe statement todo verdicts => cases todo <;> cases h
    | evict verdicts evicted todo => cases todo <;> cases h
    | _ => cases h
  | work w =>
    cases w with
    | done => exact .work
    | cycle nominal busy b => exact (going h).elim
    | _ => cases h
  | resize c =>
    cases c with
    | done outcome => exact .resize outcome
    | _ => cases h
  | shutDown d =>
    cases d with
    | done outcome => exact .shutDown outcome
    | closeIdle n todo => cases todo <;> cases h
    | _ => cases h
  | drop d =>
    cases d with
    | done outcome => exact .drop outcome
    | closeIdle n todo => cases todo <;> cases h
    | _ => cases h
  | returned => cases h

/-- Whoever has ended has nothing in its hands but a loan. -/
theorem role_of_isEnded {t : Task S} (h : t.isEnded = true) :
    t.role.toList = t.loan?.toList.map .loan := by
  cases ended_of_isEnded h with
  | acquire outcome =>
    cases outcome with
    | value loan? => cases loan? <;> rfl
    | _ => rfl
  | _ => rfl

/-- The lease that a transfer is still to take the session from. -/
def source? : Task S → Option (Lease S)
  | transfer (.replace _ source _) => some source
  | _ => none

theorem source?_of_step {t t' : Task S} {source : Lease S} (h : t.step v p = some (p', t'))
    (hs : t'.source? = some source) : t.source? = some source := by
  cases t with
  | transfer t =>
    obtain ⟨u, hu, rfl⟩ := exists_of_map_step h
    cases Transfer.steps_of_step hu with
    | giving around did =>
      cases around with
      | replace => exact hs
      | _ => cases hs
    | @replaced old source given => cases given <;> cases hs
    | @refused target given => cases given <;> cases hs
    | abandoned => cases hs
  | acquire | giveBack | surrender | cycle | work | resize | shutDown | drop =>
    obtain ⟨u, -, rfl⟩ := exists_of_map_step h
    cases hs
  | returned => cases h

theorem source?_of_answer {t t' : Task S} (h : t.answer reply = some t') :
    t'.source? = t.source? := by
  cases t with
  | transfer t =>
    obtain ⟨u, hu, rfl⟩ := Option.map_eq_some_iff.1 h
    cases t with
    | done => cases reply <;> cases hu
    | _ =>
      obtain ⟨r, -, rfl⟩ := Status.answer_embed hu
      rfl
  | acquire | giveBack | surrender | cycle | work | shutDown | drop =>
    obtain ⟨u, -, rfl⟩ := Option.map_eq_some_iff.1 h
    rfl
  | resize | returned => cases h

end Task

/-- Whoever passes the source of a transfer on acquires nothing. -/
theorem HandsOver.acquires {t t' : Task S} (h : HandsOver t t') :
    t.role.acquires = false ∧ t'.role.acquires = false := by
  have giving {t : Transfer S} : (Task.transfer t).role.acquires = false := by
    refine Bool.eq_false_iff.2 fun acquires => ?_
    obtain ⟨a, task, -⟩ := Task.exists_acquire_of_role acquires
    cases task
  cases h <;> exact ⟨giving, giving⟩

end Interleaving

end ConnectionPool
