import ConnectionPool.Proofs.Makings

set_option autoImplicit false

/-! # A session that cannot be made leaves no trace

An acquirer that has got a slot may find nothing that makes sessions; the source may refuse, or
break off; and so may the session when it is opened. In each of these cases the acquirer gives the
slot back before it tells those who wait, and it has touched neither the sessions of the pool nor
the counter of keys. So if nobody else was at work meanwhile, a request is decided as before. -/

namespace ConnectionPool

variable {S : Type}

/-- The pool after an acquirer has failed, if it was the only one at work: those who wait were told,
and the failure is counted if the acquirer has returned. -/
def Pool.afterFailure (p : Pool S) (failure : Outcome Error Empty) : Pool S :=
  { p with
    epoch := p.epoch + 1
    tally := match failure with
      | .panic _ => p.tally
      | _ => { p.tally with checkoutFailures := p.tally.checkoutFailures + 1 } }

/-- A failure makes no difference to a decision. -/
theorem Pool.lend_afterFailure (p : Pool S) (failure : Outcome Error Empty)
    (cap : UInt32) (now : Instant) :
    ((p.afterFailure failure).lend cap now).2 = (p.lend cap now).2 := by
  simp only [lend, afterFailure, total]
  split
  · rfl
  · by_cases room : p.active.size + p.idle.size + p.reserved.toNat < cap.toNat <;> simp [room]

namespace Interleaving

variable {p₀ p₁ p q : Pool S} {es : List (Pool S × Pool S)} {cs : List (Contact S)}
  {failure : Outcome Error Empty}

/-! ## What the steps touch -/

/-- Some steps leave the sessions and the counter of keys alone. -/
def Untouched (es : List (Pool S × Pool S)) : Prop :=
  ∀ e ∈ es, e.2.active = e.1.active ∧ e.2.idle = e.1.idle ∧ e.2.nextKey = e.1.nextKey

theorem Untouched.cons {e : Pool S × Pool S}
    (here : e.2.active = e.1.active ∧ e.2.idle = e.1.idle ∧ e.2.nextKey = e.1.nextKey)
    (rest : Untouched es) :
    Untouched (e :: es) :=
  List.forall_mem_cons.2 ⟨here, rest⟩

theorem Still.untouched (still : Still es) : Untouched es := by
  intro e he
  rw [still e he]
  exact ⟨rfl, rfl, rfl⟩

theorem CountsFailure.untouched (counted : CountsFailure failure es) : Untouched es := by
  unfold CountsFailure at counted
  split at counted
  · exact counted.untouched
  · obtain ⟨q, es', rfl, still⟩ := counted
    exact still.untouched.cons ⟨rfl, rfl, rfl⟩

theorem GivesBack.untouched (gives : GivesBack failure es) : Untouched es := by
  obtain ⟨q, es', rfl, -, counted⟩ := gives
  exact counted.untouched.cons ⟨rfl, rfl, rfl⟩

/-! ## What the steps come to when nobody else is at work -/

theorem Still.eq_of_chained (still : Still es) (chained : Chained p₁ es q) : q = p₁ := by
  induction es generalizing q with
  | nil => exact chained
  | cons e es ih =>
    obtain ⟨rfl, chained⟩ := chained
    exact (still e List.mem_cons_self).trans
      (ih (fun e he => still e (List.mem_cons_of_mem _ he)) chained)

/-- The slot that was taken and the slot that is given back cancel out. -/
theorem GivesBack.eq_of_chained (gives : GivesBack failure es)
    (chained : Chained { p₀ with reserved := p₀.reserved + 1 } es q) :
    q.notify = p₀.afterFailure failure := by
  obtain ⟨_, es', rfl, -, counted⟩ := gives
  obtain ⟨rfl, chained⟩ := chained
  have back : p₀.reserved + 1 - 1 = p₀.reserved := UInt32.add_sub_cancel _ _
  unfold CountsFailure at counted
  split at counted
  · obtain rfl := counted.eq_of_chained chained
    simp [Pool.notify, Pool.unreserve, Pool.afterFailure, back]
  · obtain ⟨_, es'', rfl, still⟩ := counted
    obtain ⟨rfl, chained⟩ := chained
    obtain rfl := still.eq_of_chained chained
    simp [Pool.notify, Pool.unreserve, Pool.count, Pool.afterFailure, back]

/-! ## How far the acquirer has come -/

/-- How far a call has come that could make no session. -/
def Task.GivingUp (failure : Outcome Error Empty) (es : List (Pool S × Pool S)) : Task S → Prop
  | .acquire a => a.GivingUp failure es
  | .returned => ∃ q es', es = (q, q.notify) :: es' ∧ GivesBack failure es'
  | _ => False

namespace Task

variable {t : Task S}

theorem givingUp_of_failed (since : t.Since es cs) (failed : Failed failure cs) :
    t.GivingUp failure es := by
  cases t with
  | acquire a => exact Acquire.givingUp_of_failed since.1 failed
  | returned =>
    obtain ⟨⟨outcome, finished⟩, -⟩ := since
    exact (finished.of_failed failed).2
  | _ => exact since.elim

theorem GivingUp.untouched (h : t.GivingUp failure es) : Untouched es := by
  have gaveUp {q : Pool S} {es' : List (Pool S × Pool S)} (gives : GivesBack failure es') :
      Untouched ((q, q.notify) :: es') := gives.untouched.cons ⟨rfl, rfl, rfl⟩
  cases t with
  | acquire a =>
    cases h with
    | counts same still => exact still.untouched
    | givesBack counted => exact counted.untouched
    | announces gives => exact gives.untouched
    | gaveUp all gives => exact all ▸ gaveUp gives
  | returned =>
    obtain ⟨q, es', rfl, gives⟩ := h
    exact gaveUp gives
  | _ => exact h.elim

/-- From a failure on the call waits for nobody. -/
theorem GivingUp.not_answer (h : t.GivingUp failure es) (reply : Reply S) :
    t.answer reply = none := by
  cases t with
  | acquire a => cases h <;> rfl
  | returned => rfl
  | _ => exact h.elim

theorem GivingUp.of_isOver (h : t.GivingUp failure es) (ending : t.IsOver) :
    ∃ q es', es = (q, q.notify) :: es' ∧ GivesBack failure es' := by
  rcases ending with rfl | ended
  · exact h
  · cases ended_of_isEnded ended with
    | acquire outcome =>
      cases h with
      | gaveUp all gives => exact ⟨_, _, all, gives⟩
    | _ => exact h.elim

theorem GivingUp.result (h : t.GivingUp failure es) (ended : t.isEnded = true) :
    t = .acquire (.done (failure.map Empty.elim)) := by
  cases ended_of_isEnded ended with
  | acquire outcome =>
    cases h with
    | gaveUp => rfl
  | _ => exact h.elim

end Task

/-! ## Main result -/

/-- What has come of a slot for which no session could be made. -/
structure LeavesNoTrace (home : PoolId) (i : Nat) (failure : Outcome Error Empty) (p₀ p₁ : Pool S)
    (later : List (State S × Choice S)) (s : State S) (call : Call S) : Prop where
  /-- The slot was all that the decision has changed. -/
  reserved : p₁ = { p₀ with reserved := p₀.reserved + 1 } ∧
    p₁.reserved.toNat = p₀.reserved.toNat + 1
  /-- The acquirer's own steps have left the sessions and the counter of keys alone. -/
  untouched : Untouched (effects (moves i later))
  /-- It waits for nobody any more, and so few steps are left. -/
  prompt : call.task.IsOver ∨
    ∀ connected contended, (s.act (.step i connected contended)).isSome = true
  few : (effects (moves i later)).length ≤ 6
  /-- When it is over, the slot was given back, once, and then those who wait were told. Before that
  the failure was counted if the acquirer returns, and nothing else has changed. -/
  ending : call.task.IsOver → ∃ q q' es,
    effects (moves i later) = (q', q'.notify) :: (q, q.unreserve) :: es ∧
      q.unreserve.reserved.toNat + 1 = q.reserved.toNat ∧ CountsFailure failure es
  /-- It ends with the failure. -/
  result : call.task.isEnded = true → call.task = .acquire (.done (failure.map Empty.elim))
  /-- If nobody else has changed the pool meanwhile, whoever asks again is answered as the acquirer
  was. -/
  again : LeftAlone home i later → call.task.IsOver →
    ∀ p, s.pool? home = some p → p = p₀.afterFailure failure ∧
      ∀ cap now, (p.lend cap now).2 = (p₀.lend cap now).2

variable {past later : List (State S × Choice S)} {s₀ s₁ s : State S} {i : Nat}
  {call₀ call : Call S}

/-- Whatever happens meanwhile, an acquirer that was answered with a slot and could make no session
leaves the pool as it was. -/
theorem failed_creation_leaves_no_trace {patience : Option Patience} {epoch : UInt64} {cap : UInt32}
    {connected : S → Bool} {contended : Bool} (run : Run past s₀) (was₀ : s₀.calls[i]? = some call₀)
    (deciding : call₀.task = .acquire (.choose patience epoch cap))
    (built₀ : s₀.pool? call₀.home = some p₀)
    (reserves : p₀.lend cap s₀.now = (p₁, .reserve))
    (act : s₀.act (.step i connected contended) = some s₁)
    (leads : Leads s₁ later s) (was : s.calls[i]? = some call)
    (failed : Failed failure (contacts (moves i later))) :
    LeavesNoTrace call₀.home i failure p₀ p₁ later s call := by
  have run₁ : Run ((s₀, .step i connected contended) :: past) s₁ := .next run trivial act
  -- the decision
  obtain ⟨call₁, was₁, home, task₁, built₁⟩ : ∃ call₁, s₁.calls[i]? = some call₁ ∧
      call₁.home = call₀.home ∧ call₁.task = .acquire .readSource ∧
      s₁.pool? call₀.home = some p₁ := by
    have did : call₀.task.step (s₀.view call₀ connected contended) p₀ =
        some (p₁, .acquire .readSource) := by
      simp [deciding, Task.step, Acquire.step, State.view, reserves, Acquire.follow]
    obtain ⟨s', act', is, built'⟩ := State.exists_act_step was₀ built₀ did
    cases act.symm.trans act'
    exact ⟨_, is, rfl, rfl, built'⟩
  obtain ⟨room, rfl⟩ := Pool.lend_eq_reserve reserves
  have since := leads.making run₁ was₁ task₁ was
  have givingUp := Task.givingUp_of_failed since failed
  have at_ : call.home = call₀.home := (leads.same_home was₁ was).trans home
  obtain ⟨p, built⟩ := leads.exists_pool? built₁
  refine ⟨⟨rfl, toNat_add_one_of_lt (Nat.lt_of_le_of_lt (Nat.le_add_left _ _) room)⟩,
    givingUp.untouched, ?prompt, Task.length_le_of_since since, fun ending => ?ending,
    givingUp.result, fun alone ending p built => ?again⟩
  case prompt =>
    rcases GoesOn.of_prompt (Task.prompt_of_since since) was (at_ ▸ built) with
      ended | ⟨reply, t', hears⟩ | steps
    · exact .inl ended
    · cases (givingUp.not_answer reply).symm.trans hears
    · exact .inr steps
  case ending =>
    obtain ⟨q', es', all, q, es, rfl, some, counted⟩ := givingUp.of_isOver ending
    refine ⟨q, q', es, all, ?_, counted⟩
    have less : (q.reserved - 1).toNat = q.reserved.toNat - 1 := toNat_sub_one_of_pos some
    show (q.reserved - 1).toNat + 1 = q.reserved.toNat
    omega
  case again =>
    obtain ⟨q, es', all, gives⟩ := givingUp.of_isOver ending
    rw [← home] at alone built built₁
    have chained := leads.chained was₁ built₁ alone built
    rw [all] at chained
    obtain ⟨rfl, chained⟩ := chained
    have after := gives.eq_of_chained chained
    exact ⟨after, fun cap now => after ▸ Pool.lend_afterFailure p₀ failure cap now⟩

/-- An acquirer is about to be answered. -/
def asking : List (Choice Nat) :=
  List.flatten [[.build { settings := { maxConnections := 1 }, source := some .server },
    .begin (.tryAcquire 0)], steps 1 4]

/-- It gets a slot, but the session that it is given cannot be opened. -/
def failingToOpen : List (Choice Nat) :=
  [.step 1 (fun _ => false) false, .answer 1 (.created (.value 10)), .pass (.ofSeconds 1),
    .step 1 (fun _ => false) false, .answer 1 (.opened (.error ⟨"gone", []⟩))] ++ steps 1 3

theorem failed_creation_leaves_no_trace_of_failingToOpen :
    ∃ past s₀ call₀ p₀ p₁ s₁ later s call, Run (S := Nat) past s₀ ∧ s₀.calls[1]? = some call₀ ∧
      call₀.task = .acquire (.choose none 0 1) ∧ s₀.pool? call₀.home = some p₀ ∧
      p₀.lend 1 s₀.now = (p₁, .reserve) ∧ s₀.act (.step 1 (fun _ => true) false) = some s₁ ∧
      Leads s₁ later s ∧
      s.calls[1]? = some call ∧ call.task.isEnded = true ∧ LeftAlone call₀.home 1 later ∧
      LeavesNoTrace call₀.home 1 (.error (.creationFailed ⟨"gone", []⟩)) p₀ p₁ later s call := by
  have h : ((play asking).any fun r => (r.2.act (.step 1 (fun _ => true) false)).any fun s₁ =>
      (follow [] s₁ failingToOpen).any fun r' => decide (∃ call₀ ∈ r.2.calls[1]?,
        call₀.task = .acquire (.choose none 0 1) ∧
        (∃ p₀ ∈ r.2.pool? call₀.home, (p₀.lend 1 r.2.now).2 = .reserve) ∧
        LeftAlone call₀.home 1 r'.1 ∧ (∃ call ∈ r'.2.calls[1]?, call.task.isEnded = true) ∧
        contacts (moves 1 r'.1) = [.opened 10 (.error ⟨"gone", []⟩), .inspected 10 false,
          .created .server (.value 10)])) = true := by
    decide +kernel
  obtain ⟨⟨past, s₀⟩, played, h⟩ := (Option.any_eq_true _ _).1 h
  obtain ⟨s₁, act, h⟩ := (Option.any_eq_true _ _).1 h
  obtain ⟨⟨later, s⟩, followed, h⟩ := (Option.any_eq_true _ _).1 h
  obtain ⟨call₀, was₀, deciding, ⟨p₀, built₀, reserves⟩, alone, ⟨call, was, ended⟩, told⟩ :=
    of_decide_eq_true h
  obtain ⟨since, rfl, leads⟩ := leads_of_follow followed
  rw [List.append_nil] at alone told
  have reserves' : p₀.lend 1 s₀.now = ((p₀.lend 1 s₀.now).1, .reserve) := Prod.ext rfl reserves
  have failed : Failed (.error (.creationFailed ⟨"gone", []⟩)) (contacts (moves 1 since)) :=
    told ▸ .unopened _ _ _
  exact ⟨past, s₀, call₀, p₀, _, s₁, since, s, call, run_of_play played, was₀, deciding, built₀,
    reserves', act, leads, was, ended, alone,
    failed_creation_leaves_no_trace (run_of_play played) was₀ deciding built₀ reserves' act leads
      was failed⟩

end Interleaving

end ConnectionPool
