import ConnectionPool.Proofs.Makings

set_option autoImplicit false

/-! # Where a new session comes from

An acquirer that has got a slot asks the source that it finds in the pool, and no other
(`Leads.asks`). The key of the session that it makes is drawn by one of its own steps, after it got
the slot (`Leads.drawn`). -/

namespace ConnectionPool

variable {S : Type} {v : View S} {p p' : Pool S}

namespace Acquire

open Interleaving (Reply)

variable {a a' : Acquire S} {reply : Reply S}

/-- An acquirer that is about to ask a source has just found it in the pool. -/
theorem source_of_step {source : Source} (did : a.step v p = some (p', create source)) :
    p' = p ∧ p.source = some source := by
  cases a with
  | readSource =>
    simp only [step, Option.some.injEq, Prod.mk.injEq] at did
    obtain ⟨rfl, found⟩ := did
    split at found <;> cases found
    exact ⟨rfl, ‹_›⟩
  | choose patience epoch cap =>
    simp only [step, Option.some.injEq, Prod.mk.injEq] at did
    cases decision : (p.lend cap v.now).2 with
    | reuse | reserve => cases decision ▸ did.2
    | full => cases patience <;> cases decision ▸ did.2
  | checkOpen | inspect | install | countFailure =>
    simp only [step, Option.some.injEq, Prod.mk.injEq] at did
    obtain ⟨-, other⟩ := did
    split at other <;> cases other
  | wait patience epoch =>
    simp only [step] at did
    split at did
    · cases did
    · split at did <;> cases did
  | _ => cases did

/-- The record that an acquirer has written for the session that it made. -/
def recruit? : Acquire S → Option (Record S)
  | install loan | countNew loan | done (.value (some loan)) => some loan
  | _ => none

/-- The record is written when the key is drawn. -/
theorem recruit_of_step {es : List (Pool S × Pool S)}
    {cs : List (Interleaving.Contact S)} {loan : Record S} (did : a.step v p = some (p', a'))
    (since : a.Since es cs) (written : a'.recruit? = some loan) :
    a.recruit? = some loan ∨ ∃ session, a = enrol session ∧
      loan = .lent p.nextKey session v.now := by
  cases a with
  | enrol session =>
    cases did
    cases written
    exact .inr ⟨session, rfl, rfl⟩
  | install loan' =>
    simp only [step, Option.some.injEq, Prod.mk.injEq] at did
    obtain ⟨-, rfl⟩ := did
    split at written
    · exact .inl written
    · cases written
  | countNew loan' =>
    cases did
    exact .inl written
  | readSource | inspect | countFailure =>
    simp only [step, Option.some.injEq, Prod.mk.injEq] at did
    obtain ⟨-, rfl⟩ := did
    split at written <;> cases written
  | announceSlot failure =>
    cases did
    cases failure with
    | value e => exact e.elim
    | error | panic => cases written
  | announceUnused | countUnused | giveBack =>
    cases did
    cases written
  | create | openNew | closeUnused | done => cases did
  | readTimeout | start | checkOpen | readEpoch | readCap | choose | countReuse | wait =>
    exact since.elim

theorem recruit?_of_answer (did : a.status.answer reply = some a') : a'.recruit? = none := by
  cases a with
  | create | openNew =>
    cases reply <;> cases did
    rename_i outcome
    cases outcome <;> rfl
  | closeUnused =>
    cases reply <;> cases did
    rename_i outcome
    cases outcome with
    | value | panic => rfl
    | error e => exact e.elim
  | _ => cases did

end Acquire

namespace Interleaving

variable {past later : List (State S × Choice S)} {s₁ s : State S} {i : Nat}
  {call₁ call : Call S} {loan : Record S}

/-- The source that a call is about to ask, or has asked. -/
def Task.Asks (source : Source) (cs : List (Contact S)) (t : Task S) : Prop :=
  t = .acquire (.create source) ∨ ∃ outcome, .created source outcome ∈ cs

def Task.recruit? : Task S → Option (Record S)
  | .acquire a => a.recruit?
  | _ => none

/-- Whoever asks a source has found it in the pool. -/
theorem Leads.asks {source : Source} (run : Run past s₁) (was₁ : s₁.calls[i]? = some call₁)
    (reserved : call₁.task = .acquire .readSource) (leads : Leads s₁ later s)
    (was : s.calls[i]? = some call)
    (asks : call.task.Asks source (contacts (moves i later))) :
    ∃ q, (q, q) ∈ effects (moves i later) ∧ q.source = some source := by
  refine (Leads.conduct (Q := fun _ ms t => t.Asks source (contacts ms) →
    ∃ q, (q, q) ∈ effects ms ∧
    q.source = some source) was₁ ?first id ?step ?hear ?ends leads was).2 asks
  case first =>
    rintro (asks | ⟨outcome, told⟩)
    · cases reserved.symm.trans asks
    · cases told
  case step =>
    intro since s call p p' t' connected contended atWork built did q asks
    rw [effects_step]
    rcases asks with rfl | ⟨outcome, told⟩
    · obtain ⟨a, -, did'⟩ := Task.acquire_of_step did
      obtain ⟨rfl, found⟩ := Acquire.source_of_step did'
      exact ⟨_, List.mem_cons_self, found⟩
    · rw [contacts_step] at told
      rcases List.mem_append.1 told with told | told
      · generalize call.task = t at told
        cases t with
        | acquire a => cases a <;> simp [Task.finding?, Acquire.finding?] at told
        | _ => cases told
      · obtain ⟨pool, done, has⟩ := q (.inr ⟨outcome, told⟩)
        exact ⟨pool, List.mem_cons_of_mem _ done, has⟩
  case hear =>
    intro since s call t' reply contact atWork did learned q asks
    have since := atWork.leads.making run was₁ reserved atWork.was
    generalize call.task = t at did learned since q
    cases t with
    | acquire a =>
      obtain ⟨a', did', rfl⟩ := Option.map_eq_some_iff.1 did
      cases a with
      | create source' =>
        cases reply <;> cases did'
        cases learned
        rename_i outcome
        rcases asks with asks | ⟨outcome', told⟩
        · cases outcome <;> cases asks
        · rcases List.mem_cons.1 told with asked | told
          · cases asked
            exact q (.inl rfl)
          · exact q (.inr ⟨outcome', told⟩)
      | openNew session =>
        cases reply <;> cases did'
        cases learned
        rename_i outcome
        rcases asks with asks | ⟨outcome', told⟩
        · cases outcome <;> cases asks
        · exact q (.inr ⟨outcome', by simpa using told⟩)
      | closeUnused session =>
        cases reply <;> cases did'
        cases learned
        rename_i outcome
        rcases asks with asks | ⟨outcome', told⟩
        · cases outcome with
          | value | panic => cases asks
          | error e => exact e.elim
        · exact q (.inr ⟨outcome', by simpa using told⟩)
      | _ => cases did'
    | returned => cases did
    | _ => exact since.elim
  case ends =>
    intro since s call atWork ended q asks
    rcases asks with asks | told
    · cases asks
    · exact q (.inr told)

/-- The session of an acquirer that has made one was given its key since the acquirer got the
slot. -/
theorem Leads.drawn (run : Run past s₁) (was₁ : s₁.calls[i]? = some call₁)
    (reserved : call₁.task = .acquire .readSource) (leads : Leads s₁ later s)
    (was : s.calls[i]? = some call)
    (made : call.task.recruit? = some loan) :
    (loan.info.key, loan.session) ∈ enrolled call₁.home later := by
  refine (Leads.conduct (Q := fun since _ t => t.recruit? = some loan →
    (loan.info.key, loan.session) ∈
    enrolled call₁.home since) was₁ ?first ?rest ?step ?hear ?ends leads was).2 made
  case first =>
    rw [reserved]
    intro made
    cases made
  case rest => exact fun q made => List.mem_append_right _ (q made)
  case step =>
    intro since s call p p' t' connected contended atWork built did q made
    have phase := atWork.leads.making run was₁ reserved atWork.was
    obtain ⟨at_, byWorker, t⟩ := call
    obtain rfl := atWork.home
    cases t with
    | acquire a =>
      obtain ⟨a', did', rfl⟩ := exists_of_map_step did
      rcases Acquire.recruit_of_step did' phase.1 made with before | ⟨session, rfl, rfl⟩
      · exact List.mem_append_right _ (q before)
      · refine List.mem_append_left _ ?_
        simp [State.enrolment, atWork.was, built, Record.lent, Metadata.new]
    | returned => cases did
    | _ => exact phase.elim
  case hear =>
    intro since s call t' reply contact atWork did learned q made
    have phase := atWork.leads.making run was₁ reserved atWork.was
    generalize call.task = t at did phase
    cases t with
    | acquire a =>
      obtain ⟨a', did', rfl⟩ := Option.map_eq_some_iff.1 did
      cases (Acquire.recruit?_of_answer did').symm.trans made
    | returned => cases did
    | _ => exact phase.elim
  case ends =>
    intro since s call atWork ended q made
    cases made

end Interleaving

end ConnectionPool
