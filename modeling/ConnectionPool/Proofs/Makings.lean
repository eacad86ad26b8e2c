import ConnectionPool.Proofs.Conduct

set_option autoImplicit false

/-! # Making a session

An acquirer that was answered with a slot makes a session for it. It asks the source, opens what it
gets unless that is connected already, draws a key and puts the session into the pool; or something
goes wrong, and the slot is given back. Between two of these steps anything may happen to the pool.

Each phase tells what the acquirer has had to do with the source and the session since it got the
slot, and what its own steps have done to the pool (`Acquire.Since`). There are four ways in which
it can end (`Finished`), and in each of them the slot is used up or given back, once. -/

namespace ConnectionPool

namespace Interleaving

variable {S : Type}

/-! ## How sessions are made -/

/-- How the making of a session fails, and what the acquirer has had to do with the source and the
session then, the latest first. -/
inductive Failed : Outcome Error Empty → List (Contact S) → Prop
  | sourceless : Failed (.error .noSource) [.sourceless]
  | refused (source : Source) (cause : Cause) :
      Failed (.error (.creationFailed cause)) [.created source (.error cause)]
  | sourceBroke (source : Source) (text : String) :
      Failed (.panic text) [.created source (.panic text)]
  | unopened (source : Source) (session : S) (cause : Cause) :
      Failed (.error (.creationFailed cause))
        [.opened session (.error cause), .inspected session false, .created source (.value session)]
  | sessionBroke (source : Source) (session : S) (text : String) : Failed (.panic text)
      [.opened session (.panic text), .inspected session false, .created source (.value session)]

/-- How a session is made: a source creates it, and it is opened unless it is connected already. -/
inductive Made (session : S) : List (Contact S) → Prop
  | connected (source : Source) :
      Made session [.inspected session true, .created source (.value session)]
  | opened (source : Source) : Made session
      [.opened session (.value ()), .inspected session false, .created source (.value session)]

/-- Some steps leave the pool as it is. -/
def Still (es : List (Pool S × Pool S)) : Prop := ∀ e ∈ es, e.2 = e.1

/-- Nothing has changed but the count of failures, which goes up if the acquirer is to return. -/
def CountsFailure (failure : Outcome Error Empty) (es : List (Pool S × Pool S)) : Prop :=
  match failure with
  | .panic _ => Still es
  | _ => ∃ q es',
      es = (q, q.count fun t => { t with checkoutFailures := t.checkoutFailures + 1 }) :: es' ∧
      Still es'

/-- The slot is given back, and it was among those that are reserved. -/
def GivesBack (failure : Outcome Error Empty) (es : List (Pool S × Pool S)) : Prop :=
  ∃ q es', es = (q, q.unreserve) :: es' ∧ 0 < q.reserved.toNat ∧ CountsFailure failure es'

/-- A key is drawn for a session that was made. -/
def Enrols (loan : Record S) (es : List (Pool S × Pool S)) (cs : List (Contact S)) : Prop :=
  ∃ q es' session now, loan = .lent q.nextKey session now ∧ es = (q, q.drawKey.1) :: es' ∧
    Still es' ∧ Made session cs

/-- The session takes the place of the slot in an open pool. -/
def Installs (loan : Record S) (es : List (Pool S × Pool S)) (cs : List (Contact S)) : Prop :=
  ∃ q es', es = (q, { q.unreserve with active := q.active.insert loan.info.key loan }) :: es' ∧
    q.closed = false ∧ 0 < q.reserved.toNat ∧ Enrols loan es' cs

/-- The pool was closed while the session was made, and the slot is given back. -/
def ComesTooLate (session : S) (es : List (Pool S × Pool S)) (cs : List (Contact S)) : Prop :=
  ∃ q es' loan, es = (q, q.unreserve) :: es' ∧ q.closed = true ∧ 0 < q.reserved.toNat ∧
    loan.session = session ∧ Enrols loan es' cs

/-- What was made has not failed. -/
theorem Made.not_failed {session : S} {failure : Outcome Error Empty} {cs : List (Contact S)}
    (made : Made session cs) (failed : Failed failure cs) : False := by
  cases made <;> cases failed

theorem Failed.unique {failure failure' : Outcome Error Empty} {cs : List (Contact S)}
    (failed : Failed failure cs) (failed' : Failed failure' cs) : failure = failure' := by
  cases failed <;> cases failed' <;> rfl

theorem ComesTooLate.exists_made {session : S} {es : List (Pool S × Pool S)} {cs : List (Contact S)}
    (late : ComesTooLate session es cs) : ∃ session, Made session cs := by
  obtain ⟨q, es', loan, -, -, -, -, q', es'', session, now, -, -, -, made⟩ := late
  exact ⟨session, made⟩

theorem Installs.exists_made {loan : Record S} {es : List (Pool S × Pool S)} {cs : List (Contact S)}
    (installs : Installs loan es cs) : ∃ session, Made session cs := by
  obtain ⟨q, es', -, -, -, q', es'', session, now, -, -, -, made⟩ := installs
  exact ⟨session, made⟩

/-- How an acquirer with a slot can end. -/
inductive Finished : Outcome Error (Option (Record S)) → List (Pool S × Pool S) →
    List (Contact S) → Prop
  /-- No session could be made. The slot is given back, and then those who wait are told. -/
  | failed {failure : Outcome Error Empty} {q : Pool S} {es : List (Pool S × Pool S)}
      {cs : List (Contact S)} (gives : GivesBack failure es) (fails : Failed failure cs) :
      Finished (failure.map Empty.elim) ((q, q.notify) :: es) cs
  /-- The session is counted, and lent. -/
  | lent {loan : Record S} {q : Pool S} {es : List (Pool S × Pool S)} {cs : List (Contact S)}
      (installs : Installs loan es cs) :
      Finished (.value (some loan))
        ((q, q.count fun t => { t with
          created := t.created + 1, checkouts := t.checkouts + 1 }) :: es) cs
  /-- The pool was closed meanwhile, and the session is closed. -/
  | tooLate {session : S} {q q' : Pool S} {es : List (Pool S × Pool S)} {cs : List (Contact S)}
      (late : ComesTooLate session es cs) :
      Finished (.error .poolClosed)
        ((q', q'.count fun t => { t with
          created := t.created + 1, closed := t.closed + 1
          checkoutFailures := t.checkoutFailures + 1 }) :: (q, q.notify) :: es)
        (.closed session (.value ()) :: cs)
  /-- It breaks off while it is closed. -/
  | brokenOff {session : S} {text : String} {q : Pool S} {es : List (Pool S × Pool S)}
      {cs : List (Contact S)} (late : ComesTooLate session es cs) :
      Finished (.panic text) ((q, q.notify) :: es) (.closed session (.panic text) :: cs)

/-- Whoever could make no session ends with the failure, and with the slot given back. -/
theorem Finished.of_failed {outcome : Outcome Error (Option (Record S))}
    {failure : Outcome Error Empty} {es : List (Pool S × Pool S)} {cs : List (Contact S)}
    (h : Finished outcome es cs) (failed : Failed failure cs) :
    outcome = failure.map Empty.elim ∧ ∃ q es', es = (q, q.notify) :: es' ∧
      GivesBack failure es' := by
  cases h with
  | failed gives fails =>
    cases fails.unique failed
    exact ⟨rfl, _, _, rfl, gives⟩
  | lent installs =>
    obtain ⟨session, made⟩ := installs.exists_made
    exact (made.not_failed failed).elim
  | tooLate | brokenOff => cases failed

section

variable {es : List (Pool S × Pool S)} {cs : List (Contact S)}
  {outcome : Outcome Error (Option (Record S))} {loan : Record S}

def Contact.creates : Contact S → Bool
  | .created _ _ => true
  | _ => false

/-- The source is asked once, unless there is none. -/
theorem Finished.asked_once (h : Finished outcome es cs) :
    cs = [.sourceless] ∨ cs.countP Contact.creates = 1 := by
  have made {session : S} {cs : List (Contact S)} (made : Made session cs) :
      cs.countP Contact.creates = 1 := by
    cases made <;> rfl
  cases h with
  | failed gives fails =>
    cases fails with
    | sourceless => exact .inl rfl
    | _ => exact .inr rfl
  | lent installs =>
    obtain ⟨session, h⟩ := installs.exists_made
    exact .inr (made h)
  | tooLate late | brokenOff late =>
    obtain ⟨session, h⟩ := late.exists_made
    exact .inr ((List.countP_cons_of_neg (by simp [Contact.creates])).trans (made h))

/-- A session that is opened was found not to be connected. -/
theorem Finished.inspected (h : Finished outcome es cs) {session : S}
    {opening : Outcome Cause Unit} (opened : .opened session opening ∈ cs) :
    .inspected session false ∈ cs := by
  have made {session' : S} {cs : List (Contact S)} (made : Made session' cs)
      (opened : .opened session opening ∈ cs) : .inspected session false ∈ cs := by
    cases made <;> simp_all
  cases h with
  | failed gives fails => cases fails <;> simp_all
  | lent installs =>
    obtain ⟨session', h⟩ := installs.exists_made
    exact made h opened
  | tooLate late | brokenOff late =>
    obtain ⟨session', h⟩ := late.exists_made
    exact List.mem_cons_of_mem _ (made h (by simpa using opened))

/-- A session that is lent as new is active, lent for the first time, and was made as sessions are
made. -/
theorem Installs.lent (installs : Installs loan es cs) :
    loan.standing = .active ∧ loan.info.checkouts = 1 ∧ Made loan.session cs := by
  obtain ⟨q, es', -, -, -, q', es'', session, now, rfl, -, -, made⟩ := installs
  exact ⟨rfl, rfl, made⟩

theorem Finished.installs (h : Finished outcome es cs)
    (lent : outcome = .value (some loan)) : ∃ es', Installs loan es' cs := by
  cases h with
  | @failed failure =>
    cases failure with
    | value e => exact e.elim
    | error | panic => cases lent
  | lent installs =>
    cases lent
    exact ⟨_, installs⟩
  | tooLate | brokenOff => cases lent

end

end Interleaving

open Interleaving

variable {S : Type} {v : View S} {p p' : Pool S} {es : List (Pool S × Pool S)}
  {cs : List (Contact S)} {a a' : Acquire S} {reply : Reply S} {contact : Contact S}

namespace Acquire

/-! ## From phase to phase -/

/-- What an acquirer has done to the pool since it got a slot, and what it has had to do with
sources and sessions, the latest first. -/
def Since (es : List (Pool S × Pool S)) (cs : List (Contact S)) : Acquire S → Prop
  | readSource => Still es ∧ cs = []
  | create _ => Still es ∧ cs = []
  | inspect session => Still es ∧ ∃ source, cs = [.created source (.value session)]
  | openNew session =>
    Still es ∧ ∃ source, cs = [.inspected session false, .created source (.value session)]
  | enrol session => Still es ∧ Made session cs
  | install loan => Enrols loan es cs
  | countNew loan => Installs loan es cs
  | announceUnused session => ComesTooLate session es cs
  | closeUnused session => ∃ q es', es = (q, q.notify) :: es' ∧ ComesTooLate session es' cs
  | countUnused => ∃ q es' session cs', es = (q, q.notify) :: es' ∧
      cs = .closed session (.value ()) :: cs' ∧ ComesTooLate session es' cs'
  | countFailure reason slot => slot = true ∧ Still es ∧ Failed (.error reason) cs
  | giveBack failure => CountsFailure failure es ∧ Failed failure cs
  | announceSlot failure => GivesBack failure es ∧ Failed failure cs
  | done outcome => Finished outcome es cs
  | _ => False

/-- The number of steps that an acquirer with a slot has left at most. -/
def left : Acquire S → Nat
  | readSource => 6
  | create _ | inspect _ => 5
  | openNew _ | enrol _ => 4
  | install _ | countFailure _ _ => 3
  | announceUnused _ | giveBack _ => 2
  | countNew _ | closeUnused _ | countUnused | announceSlot _ => 1
  | _ => 0

theorem still_cons (still : Still es) : Still ((p, p) :: es) := by
  rintro e he
  rcases List.mem_cons.1 he with rfl | he
  · rfl
  · exact still e he

theorem since_of_step (did : a.step v p = some (p', a')) (held : a.role.slots ≤ p.reserved.toNat)
    (since : a.Since es cs) :
    a'.Since ((p, p') :: es) ((a.finding? v p).toList ++ cs) ∧ a'.left < a.left := by
  cases a with
  | readSource =>
    cases did
    obtain ⟨still, rfl⟩ := since
    cases found : p.source with
    | none => simpa [finding?, found, left] using ⟨rfl, still_cons still, .sourceless⟩
    | some source => simpa [finding?, found, left] using ⟨still_cons still, rfl⟩
  | inspect session =>
    cases did
    obtain ⟨still, source, rfl⟩ := since
    cases connected : v.connected session with
    | true => simpa [finding?, connected, left] using ⟨still_cons still, .connected source⟩
    | false => simpa [finding?, connected, left] using ⟨still_cons still, source, rfl⟩
  | enrol session =>
    cases did
    exact ⟨⟨p, es, session, v.now, rfl, rfl, since.1, since.2⟩, by simp [left]⟩
  | install loan =>
    have reserved : 0 < p.reserved.toNat := held
    simp only [step, Option.some.injEq, Prod.mk.injEq] at did
    obtain ⟨rfl, rfl⟩ := did
    cases closed : p.closed with
    | true =>
      simpa [Pool.install, closed, finding?, left]
        using ⟨p, es, loan, rfl, closed, reserved, rfl, since⟩
    | false =>
      simpa [Pool.install, closed, finding?, left] using ⟨p, es, rfl, closed, reserved, since⟩
  | countNew loan =>
    cases did
    exact ⟨.lent since, by simp [left]⟩
  | announceUnused session =>
    cases did
    exact ⟨⟨p, es, rfl, since⟩, by simp [left]⟩
  | countUnused =>
    cases did
    obtain ⟨q, es', session, cs', rfl, rfl, late⟩ := since
    exact ⟨.tooLate late, by simp [left]⟩
  | countFailure reason slot =>
    obtain ⟨rfl, still, failed⟩ := since
    cases did
    exact ⟨⟨⟨p, es, rfl, still⟩, failed⟩, by simp [left]⟩
  | giveBack failure =>
    cases did
    exact ⟨⟨⟨p, es, rfl, held, since.1⟩, since.2⟩, by simp [left]⟩
  | announceSlot failure =>
    cases did
    exact ⟨.failed since.1 since.2, by simp [left]⟩
  | create | openNew | closeUnused | done => cases did
  | readTimeout | start | checkOpen | readEpoch | readCap | choose | countReuse | wait =>
    exact since.elim

theorem since_of_answer (did : a.status.answer reply = some a')
    (learned : a.status.contact? reply = some contact) (since : a.Since es cs) :
    a'.Since es (contact :: cs) ∧ a'.left ≤ a.left := by
  cases a with
  | create source =>
    cases reply <;> cases did
    rename_i outcome
    cases learned
    obtain ⟨still, rfl⟩ := since
    cases outcome with
    | value session => exact ⟨⟨still, source, rfl⟩, by simp [left]⟩
    | error cause => exact ⟨⟨rfl, still, .refused source cause⟩, by simp [left]⟩
    | panic text => exact ⟨⟨still, .sourceBroke source text⟩, by simp [left]⟩
  | openNew session =>
    cases reply <;> cases did
    rename_i outcome
    cases learned
    obtain ⟨still, source, rfl⟩ := since
    cases outcome with
    | value _ => exact ⟨⟨still, .opened source⟩, by simp [left]⟩
    | error cause => exact ⟨⟨rfl, still, .unopened source session cause⟩, by simp [left]⟩
    | panic text => exact ⟨⟨still, .sessionBroke source session text⟩, by simp [left]⟩
  | closeUnused session =>
    cases reply <;> cases did
    rename_i outcome
    cases learned
    obtain ⟨q, es', rfl, late⟩ := since
    cases outcome with
    | value _ => exact ⟨⟨q, es', session, cs, rfl, rfl, late⟩, by simp [left]⟩
    | error e => exact e.elim
    | panic text => exact ⟨.brokenOff late, by simp [left]⟩
  | _ => cases did

/-- How far an acquirer has come after a failure. -/
inductive GivingUp (failure : Outcome Error Empty) (es : List (Pool S × Pool S)) : Acquire S → Prop
  | counts {reason : Error} (same : failure = .error reason) (still : Still es) :
      GivingUp failure es (countFailure reason true)
  | givesBack (counted : CountsFailure failure es) : GivingUp failure es (giveBack failure)
  | announces (gives : GivesBack failure es) : GivingUp failure es (announceSlot failure)
  | gaveUp {q : Pool S} {es' : List (Pool S × Pool S)} (all : es = (q, q.notify) :: es')
      (gives : GivesBack failure es') : GivingUp failure es (done (failure.map Empty.elim))

theorem givingUp_of_failed {failure : Outcome Error Empty} (since : a.Since es cs)
    (failed : Failed failure cs) : a.GivingUp failure es := by
  -- a session that was made has not failed
  have absurd (made : ∃ session, Made session cs) : a.GivingUp failure es := by
    obtain ⟨session, made⟩ := made
    exact (made.not_failed failed).elim
  cases a with
  | readSource | create =>
    obtain ⟨-, rfl⟩ := since
    cases failed
  | inspect | openNew =>
    obtain ⟨-, source, rfl⟩ := since
    cases failed
  | enrol session => exact absurd ⟨session, since.2⟩
  | install loan =>
    obtain ⟨q, es', session, now, -, -, -, made⟩ := since
    exact absurd ⟨session, made⟩
  | countNew loan => exact absurd since.exists_made
  | announceUnused session => exact absurd since.exists_made
  | closeUnused session =>
    obtain ⟨q, es', -, late⟩ := since
    exact absurd late.exists_made
  | countUnused =>
    obtain ⟨q, es', session, cs', -, rfl, -⟩ := since
    cases failed
  | countFailure reason slot =>
    obtain ⟨rfl, still, failed'⟩ := since
    exact .counts (failed.unique failed') still
  | giveBack failure' =>
    cases since.2.unique failed
    exact .givesBack since.1
  | announceSlot failure' =>
    cases since.2.unique failed
    exact .announces since.1
  | done outcome =>
    obtain ⟨rfl, q, es', all, gives⟩ := Finished.of_failed since failed
    exact .gaveUp all gives
  | readTimeout | start | checkOpen | readEpoch | readCap | choose | countReuse | wait =>
    exact since.elim

/-- An acquirer with a slot never waits for anybody but the source and the session. -/
theorem prompt_of_since (since : a.Since es cs) :
    a.status.isEnded = true ∨ (∃ reply a', a.status.answer reply = some a') ∨
      ∀ v p, ∃ p' a', a.step v p = some (p', a') := by
  cases a with
  | create => exact .inr (.inl ⟨.created (.panic ""), _, rfl⟩)
  | openNew => exact .inr (.inl ⟨.opened (.panic ""), _, rfl⟩)
  | closeUnused => exact .inr (.inl ⟨.closed (.panic ""), _, rfl⟩)
  | done => exact .inl rfl
  | readTimeout | start | checkOpen | readEpoch | readCap | choose | countReuse | wait =>
    exact since.elim
  | _ => exact .inr (.inr fun v p => ⟨_, _, rfl⟩)

end Acquire

namespace Interleaving

/-! ## Calls -/

/-- What a call has done since it got a slot. -/
def Task.Since (es : List (Pool S × Pool S)) (cs : List (Contact S)) : Task S → Prop
  | .acquire a => a.Since es cs ∧ a.left + es.length ≤ 6
  | .returned => (∃ outcome, Finished outcome es cs) ∧ es.length ≤ 6
  | _ => False

variable {past since : List (State S × Choice S)} {s₀ s₁ s : State S} {i : Nat}
  {call₁ call : Call S}

namespace Task

variable {t t' : Task S}

theorem prompt_of_since (since : t.Since es cs) : t.Prompt := by
  cases t with
  | acquire a =>
    rcases Acquire.prompt_of_since since.1 with ended | ⟨reply, a', hears⟩ | steps
    · exact .inl (.inr ended)
    · exact .inr (.inl ⟨reply, .acquire a', by simp [answer, hears]⟩)
    · refine .inr (.inr fun v p => ?_)
      obtain ⟨p', a', did⟩ := steps v p
      exact ⟨p', .acquire a', by simp [step, did]⟩
  | returned => exact .inl (.inl rfl)
  | _ => exact since.elim

theorem since_of_step (did : t.step v p = some (p', t')) (held : t.role.slots ≤ p.reserved.toNat)
    (since : t.Since es cs) : t'.Since ((p, p') :: es) ((t.finding? v p).toList ++ cs) := by
  cases t with
  | acquire a =>
    obtain ⟨a', did', rfl⟩ := exists_of_map_step did
    obtain ⟨since, few⟩ := since
    obtain ⟨since', less⟩ := Acquire.since_of_step did' held since
    exact ⟨since', by rw [List.length_cons]; omega⟩
  | returned => cases did
  | _ => exact since.elim

theorem since_of_answer (did : t.answer reply = some t') (learned : t.contact? reply = some contact)
    (since : t.Since es cs) : t'.Since es (contact :: cs) := by
  cases t with
  | acquire a =>
    obtain ⟨a', did', rfl⟩ := Option.map_eq_some_iff.1 did
    obtain ⟨since, few⟩ := since
    obtain ⟨since', less⟩ := Acquire.since_of_answer did' learned since
    exact ⟨since', by omega⟩
  | returned => cases did
  | _ => exact since.elim

/-- An acquirer with a slot that has ended has ended in one of the four ways. -/
theorem finished_of_isEnded (ended : t.isEnded = true) (since : t.Since es cs) :
    ∃ outcome, t = .acquire (.done outcome) ∧ Finished outcome es cs := by
  cases ended_of_isEnded ended with
  | acquire outcome => exact ⟨outcome, rfl, since.1⟩
  | _ => exact since.elim

theorem since_of_end (ended : t.isEnded = true) (since : t.Since es cs) :
    (returned : Task S).Since es cs := by
  obtain ⟨outcome, rfl, finished⟩ := finished_of_isEnded ended since
  exact ⟨⟨outcome, finished⟩, by have := since.2; omega⟩

/-- Nobody takes more than six steps to make a session, or to fail. -/
theorem length_le_of_since (since : t.Since es cs) : es.length ≤ 6 := by
  cases t with
  | acquire a => exact Nat.le_trans (Nat.le_add_left _ _) since.2
  | returned => exact since.2
  | _ => exact since.elim

end Task

/-- Whatever happens meanwhile, an acquirer that has got a slot goes on as its phases tell. -/
theorem Leads.making (run : Run past s₁) (was₁ : s₁.calls[i]? = some call₁)
    (reserved : call₁.task = .acquire .readSource) (leads : Leads s₁ since s)
    (was : s.calls[i]? = some call) :
    call.task.Since (effects (moves i since)) (contacts (moves i since)) := by
  refine (Leads.conduct
    (Q := fun _ ms t => t.Since (effects ms) (contacts ms)) was₁ ?first id ?step ?hear
    ?ends leads was).2
  case first =>
    rw [reserved]
    exact ⟨⟨by simp [Still], rfl⟩, Nat.le_refl _⟩
  case step =>
    intro since s call p p' t' connected contended atWork built did q
    have held := ((run.append atWork.leads).counted built).slots_le atWork.was
    rw [contacts_step, effects_step]
    exact Task.since_of_step did held q
  case hear =>
    intro since s call t' reply contact atWork did learned q
    exact Task.since_of_answer did learned q
  case ends =>
    intro since s call atWork ended q
    exact Task.since_of_end ended q

end Interleaving

end ConnectionPool
