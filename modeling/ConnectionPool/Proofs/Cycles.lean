import ConnectionPool.Proofs.Rounds

set_option autoImplicit false

/-! # A heartbeat cycle from end to end

A cycle that nobody interferes with runs as foreseen: it probes the idle sessions that are due,
closes those that fail, makes the others available again, and tells those who wait. Whatever the
queries end with, it can run to its end. -/

namespace ConnectionPool

variable {S : Type}

namespace Interleaving

/-! ## The call that runs the cycle -/

namespace Task

variable {v : View S} {p p' : Pool S} {t t' : Task S} {b b' : Heartbeat S} {reply : Reply S}
  {contact : Contact S}

theorem not_isEnded_of_heartbeat? (runs : t.heartbeat? = some b)
    (going : b.status.isEnded = false) : t.isEnded = false := by
  cases t with
  | cycle =>
    cases runs
    exact going
  | work w =>
    cases h : (Task.work w).isEnded with
    | false => rfl
    | true =>
      cases ended_of_isEnded h
      cases runs
  | _ => cases runs

/-- The call takes the steps of its cycle. -/
theorem heartbeat?_of_step (runs : t.heartbeat? = some b) (going : b.status.isEnded = false)
    (did : t.step v p = some (p', t')) :
    t.finding? v p = none ∧ ∃ b', b.step v p = some (p', b') ∧ t'.heartbeat? = some b' := by
  cases t with
  | cycle =>
    cases runs
    obtain ⟨b', hb, rfl⟩ := exists_of_map_step did
    exact ⟨rfl, b', hb, rfl⟩
  | work w =>
    cases w with
    | cycle nominal busy =>
      cases runs
      obtain ⟨w', hw, rfl⟩ := exists_of_map_step did
      rcases Worker.cycle_of_step hw with ⟨outcome, rfl, -⟩ | ⟨b', hb, rfl⟩
      · cases going
      · exact ⟨rfl, b', hb, rfl⟩
    | _ => cases runs
  | _ => cases runs

theorem heartbeat?_of_answer (runs : t.heartbeat? = some b) (did : t.answer reply = some t') :
    t.contact? reply = b.status.contact? reply ∧ ∃ b', b.status.answer reply = some b' ∧
      t'.heartbeat? = some b' := by
  cases t with
  | cycle =>
    cases runs
    obtain ⟨b', hb, rfl⟩ := Option.map_eq_some_iff.1 did
    exact ⟨rfl, b', hb, rfl⟩
  | work w =>
    cases w with
    | cycle nominal busy =>
      cases runs
      obtain ⟨w', hw, rfl⟩ := Option.map_eq_some_iff.1 did
      obtain ⟨b', hb, rfl⟩ := Status.answer_embed hw
      exact ⟨Status.contact?_embed _ _ _, b', hb, rfl⟩
    | _ => cases runs
  | _ => cases runs

theorem exists_step_of_heartbeat? (runs : t.heartbeat? = some b)
    (did : b.step v p = some (p', b')) :
    ∃ t', t.step v p = some (p', t') ∧ t'.heartbeat? = some b' := by
  cases t with
  | cycle =>
    cases runs
    exact ⟨.cycle b', by simp [step, did], rfl⟩
  | work w =>
    cases w with
    | cycle nominal busy heartbeat =>
      cases runs
      refine ⟨.work (.cycle nominal busy b'), ?_, rfl⟩
      cases b with
      | done => cases did
      | _ => simp [step, Worker.step, did]
    | _ => cases runs
  | _ => cases runs

theorem exists_answer_of_heartbeat? (runs : t.heartbeat? = some b)
    (did : b.status.answer reply = some b') :
    ∃ t', t.answer reply = some t' ∧ t'.heartbeat? = some b' := by
  cases t with
  | cycle =>
    cases runs
    exact ⟨.cycle b', by simp [answer, did], rfl⟩
  | work w =>
    cases w with
    | cycle nominal busy heartbeat =>
      cases runs
      exact ⟨.work (.cycle nominal busy b'),
        by simp [answer, Worker.status, Status.embed_answer, did], rfl⟩
    | _ => cases runs
  | _ => cases runs

end Task

/-! ## Cycles that are left alone -/

variable {past since later : List (State S × Choice S)} {s₀ s₁ s s' : State S}
  {i : Nat} {home : PoolId} {call call₀ call₁ : Call S} {p₀ p₁ p : Pool S} {b b₁ : Heartbeat S}

/-- A call runs its cycle, and has not come to the end of it before; nobody else changes the pool,
sessions answer as foreseen, and none breaks off while it is closed. -/
structure OnItsOwn (c : Round S) (home : PoolId) (i : Nat) (s₁ : State S)
    (later : List (State S × Choice S)) (s : State S) : Prop where
  leads : Leads s₁ later s
  going : ∀ e ∈ later, ∃ call b, e.1.calls[i]? = some call ∧ call.task.heartbeat? = some b ∧
    b.status.isEnded = false
  alone : LeftAlone home i later
  expected : ∀ contact ∈ contacts (moves i later), c.Expects contact

/-- A cycle that is left alone runs as foreseen. -/
theorem OnItsOwn.ran {c : Round S} (h : OnItsOwn c call₁.home i s₁ later s)
    (sound : ∀ key r, c.pool.idle.find? key = some r → r.standing ≠ .canceled)
    (was₁ : s₁.calls[i]? = some call₁)
    (built₁ : s₁.pool? call₁.home = some p₁) (runs : call₁.task.heartbeat? = some b₁)
    (start : c.Ran [] [] p₁ b₁)
    (was : s.calls[i]? = some call) (built : s.pool? call₁.home = some p) :
    ∃ b, call.task.heartbeat? = some b ∧ c.Ran later (contacts (moves i later)) p b := by
  have chained := h.leads.chained was₁ built₁ h.alone built
  refine (Leads.conduct
    (Q := fun since ms t =>
      (∀ e ∈ since, ∃ call b, e.1.calls[i]? = some call ∧ call.task.heartbeat? = some b ∧
        b.status.isEnded = false) →
      (∀ contact ∈ contacts ms, c.Expects contact) →
      ∀ q, Chained p₁ (effects ms) q → ∃ b, t.heartbeat? = some b ∧ c.Ran since (contacts ms) q b)
    was₁ ?first ?rest ?step ?hear ?ends h.leads was).2 h.going h.expected p chained
  case first =>
    rintro - - _ ⟨⟩
    exact ⟨b₁, runs, start⟩
  case rest =>
    intro since e ms t q going expected p chained
    obtain ⟨b, runs, ran⟩ := q (fun e he => going e (List.mem_cons_of_mem _ he)) expected p chained
    exact ⟨b, runs, ran.mono⟩
  case step =>
    intro since s call p p' t' connected contended atWork built did q going expected p'' chained
    obtain ⟨_, b, was', runs, unended⟩ := going _ List.mem_cons_self
    cases atWork.was.symm.trans was'
    obtain ⟨silent, b', did', runs'⟩ := Task.heartbeat?_of_step runs unended did
    rw [silent] at expected chained ⊢
    obtain ⟨rfl, chained⟩ := chained
    obtain ⟨_, same, ran⟩ := q (fun e he => going e (List.mem_cons_of_mem _ he)) expected p chained
    cases runs.symm.trans same
    exact ⟨b', runs', Round.ran_of_step sound rfl did' ran⟩
  case hear =>
    intro since s call t' reply contact atWork did learned q going expected p chained
    obtain ⟨_, b, was', runs, unended⟩ := going _ List.mem_cons_self
    cases atWork.was.symm.trans was'
    obtain ⟨same, b', did', runs'⟩ := Task.heartbeat?_of_answer runs did
    rw [contacts_hear] at expected ⊢
    obtain ⟨_, again, ran⟩ := q (fun e he => going e (List.mem_cons_of_mem _ he))
      (fun x hx => expected x (List.mem_cons_of_mem _ hx)) p chained
    cases runs.symm.trans again
    exact ⟨b', runs', Round.ran_of_answer did' (same.symm.trans learned)
      (expected _ List.mem_cons_self) ran⟩
  case ends =>
    intro since s call atWork ended q going
    obtain ⟨_, b, was', runs, unended⟩ := going _ List.mem_cons_self
    cases atWork.was.symm.trans was'
    rw [Task.not_isEnded_of_heartbeat? runs unended] at ended
    cases ended

/-- A call that has not come to its end before is still where it was, if it was at its end
already. -/
theorem OnItsOwn.eq_of_ended {c : Round S} {outcome : Outcome Empty CycleReport}
    (h : OnItsOwn c home i s₁ later s) (was₁ : s₁.calls[i]? = some call₁)
    (ended : call₁.task.heartbeat? = some (.done outcome)) :
    later = [] ∧ s = s₁ := by
  rcases later.eq_nil_or_concat' with rfl | ⟨since, e, rfl⟩
  · cases h.leads
    exact ⟨rfl, rfl⟩
  · obtain ⟨first, rfl⟩ : ∃ c, e = (s₁, c) := h.leads.first
    obtain ⟨_, b, was, runs, going⟩ := h.going _ (List.mem_append_right _ List.mem_cons_self)
    cases was₁.symm.trans was
    cases ended.symm.trans runs
    cases going

/-! ## A cycle can run to its end -/

/-- A call has come to a phase of its cycle. -/
def At (s : State S) (i : Nat) (home : PoolId) (b : Heartbeat S) : Prop :=
  ∃ call p, s.calls[i]? = some call ∧ call.home = home ∧ s.pool? home = some p ∧
    call.task.heartbeat? = some b

/-- The cycle of a call can run to its end on its own. -/
def Concludes (c : Round S) (home : PoolId) (i : Nat) (s : State S) : Prop :=
  ∃ later s' outcome, OnItsOwn c home i s later s' ∧ At s' i home (.done outcome)

variable {c : Round S}

theorem Concludes.of_done {outcome : Outcome Empty CycleReport} (h : At s i home (.done outcome)) :
    Concludes c home i s :=
  ⟨[], s, outcome, ⟨.here, by simp, by simp [LeftAlone], by simp [moves]⟩, h⟩

/-- One thing that the call does comes before the rest. -/
theorem Concludes.of_next {ch : Choice S} (h : At s i home b) (going : b.status.isEnded = false)
    (mine : ch.caller? = some i) (fresh : ch.Fresh s) (act : s.act ch = some s')
    (expected : ∀ contact ∈ contacts (moves i [(s, ch)]), c.Expects contact)
    (rest : Concludes c home i s') :
    Concludes c home i s := by
  obtain ⟨call, p, was, -, -, runs⟩ := h
  obtain ⟨later, s'', outcome, own, ends⟩ := rest
  refine ⟨later ++ [(s, ch)], s'', outcome, ⟨own.leads.after fresh act, ?_, ?_, ?_⟩, ends⟩
  · intro e he
    rcases List.mem_append.1 he with he | he
    · exact own.going e he
    · obtain rfl := List.mem_singleton.1 he
      exact ⟨call, b, was, runs, going⟩
  · intro e he other
    rcases List.mem_append.1 he with he | he
    · exact own.alone e he other
    · obtain rfl := List.mem_singleton.1 he
      exact absurd mine other
  · intro contact hc
    rw [moves_append, contacts_append] at hc
    exact (List.mem_append.1 hc).elim (own.expected contact) (expected contact)

theorem Concludes.of_step (h : At s i home b)
    (does : ∀ v p, ∃ p' b', b.step v p = some (p', b') ∧ ∀ s', At s' i home b' →
      Concludes c home i s') :
    Concludes c home i s := by
  obtain ⟨call, p, was, rfl, built, runs⟩ := h
  obtain ⟨p', b', did, rest⟩ := does (s.view call (fun _ => true) false) p
  obtain ⟨t', did', runs'⟩ := Task.exists_step_of_heartbeat? runs did
  obtain ⟨s', act, is, built'⟩ := State.exists_act_step was built did'
  have going : b.status.isEnded = false := by
    cases b with
    | done => cases did
    | probe _ todo _ | evict _ _ todo => cases todo <;> rfl
    | _ => rfl
  have fresh : (Choice.step i (fun _ : S => true) false).Fresh s := trivial
  refine .of_next ⟨call, p, was, rfl, built, runs⟩ going rfl fresh act ?_
    (rest s' ⟨_, p', is, rfl, built', runs'⟩)
  rw [moves_of_step was built did', (Task.heartbeat?_of_step runs going did').1]
  simp [moves]

theorem Concludes.of_answer (reply : Reply S) {b' : Heartbeat S} {contact : Contact S}
    (h : At s i home b) (did : b.status.answer reply = some b')
    (learned : b.status.contact? reply = some contact)
    (expected : c.Expects contact) (bare : reply.delivery = none)
    (rest : ∀ s', At s' i home b' → Concludes c home i s') : Concludes c home i s := by
  obtain ⟨call, p, was, rfl, built, runs⟩ := h
  obtain ⟨t', did', runs'⟩ := Task.exists_answer_of_heartbeat? runs did
  obtain ⟨s', act, is, built'⟩ := State.exists_act_answer was built did'
  have going : b.status.isEnded = false := by
    cases hb : b.status with
    | ended =>
      rw [hb] at did
      cases did
    | _ => rfl
  have fresh : (Choice.answer i reply).Fresh s := by simp [Choice.Fresh, bare]
  refine .of_next ⟨call, p, was, rfl, built, runs⟩ going rfl fresh act ?_
    (rest s' ⟨_, p, is, rfl, built', runs'⟩)
  rw [moves_of_answer was ((Task.heartbeat?_of_answer runs did').1.trans learned)]
  simpa [moves] using expected

/-- The sessions that were thrown out are closed one after the other, and then everything is
counted. -/
theorem Concludes.of_evict {verdicts : List (SessionKey × Verdict)} {evicted : Nat} {todo : List S}
    (h : At s i home (.evict verdicts evicted todo)) : Concludes c home i s := by
  induction todo generalizing s with
  | nil =>
    refine .of_step h fun v p => ⟨_, _, rfl, fun s' h' => ?_⟩
    refine .of_step h' fun v p => ⟨_, _, rfl, fun s' h' => ?_⟩
    exact .of_step h' fun v p => ⟨_, _, rfl, fun s' h' => .of_done h'⟩
  | cons session todo ih =>
    exact .of_answer (.closed (.value ())) h rfl rfl rfl rfl fun s' h' => ih h'

/-- The successes are counted one after the other, and then the verdicts are settled. -/
theorem Concludes.of_credit {todo verdicts : List (SessionKey × Verdict)}
    (h : At s i home (.credit todo verdicts)) : Concludes c home i s := by
  induction todo generalizing s with
  | nil =>
    refine .of_step h fun v p => ⟨_, _, rfl, fun s' h' => ?_⟩
    exact .of_step h' fun v p => ⟨_, _, rfl, fun s' h' => .of_evict h'⟩
  | cons head todo ih =>
    obtain ⟨key, verdict⟩ := head
    exact .of_step h fun v p => ⟨_, _, rfl, fun s' h' => ih h'⟩

/-- The sessions are queried one after the other. -/
theorem Concludes.of_probe {statement : String} {todo : List (SessionKey × S)}
    {verdicts : List (SessionKey × Verdict)} (h : At s i home (.probe statement todo verdicts)) :
    Concludes c home i s := by
  induction todo generalizing s verdicts with
  | nil => exact .of_step h fun v p => ⟨_, _, rfl, fun s' h' => .of_credit h'⟩
  | cons head todo ih =>
    obtain ⟨key, session⟩ := head
    exact .of_answer (.queried (c.answers session)) h rfl rfl rfl rfl fun s' h' => ih h'

/-! ## Main result -/

/-- A cycle has run as foreseen, and has settled its verdicts at the given time. -/
structure Cycled (c : Round S) (now : Instant) (cs : List (Contact S)) (p : Pool S)
    (outcome : Outcome Empty CycleReport) : Prop where
  /-- Due are the idle sessions that were left alone for longer than the interval. -/
  due : ∀ key r, c.due.find? key = some r ↔
    c.pool.idle.find? key = some r ∧ r.info.standing = .idle ∧
      c.interval < c.now.since r.info.lastHeartbeat
  ascending : c.due.entries.Pairwise fun a b => a.1 < b.1
  /-- They were queried one after the other, in that order; then those that had failed were
  closed. -/
  contacts : cs.reverse =
    c.due.values.map (fun r => .queried r.session c.statement (c.answers r.session)) ++
      (c.due.values.filter fun r => c.fails r.session).map fun r => .closed r.session (.value ())
  /-- Those that had failed are idle no more, those that had passed were seen well just now, and the
  others are as they were. -/
  idle : ∀ key, p.idle.find? key =
    match c.pool.idle.find? key with
    | none => none
    | some r =>
      if r.isDue c.interval c.now = false then some r
      else if c.fails r.session = true then none
      else some { r with info := { r.info with lastHeartbeat := now } }
  /-- Successes, probes and failures are counted, and those who wait are told if anything was
  probed. Nothing else has changed. -/
  rest : p = { c.pool with
    idle := p.idle
    heartbeats := c.pool.heartbeats + .ofNat c.good.size
    tally := { c.pool.tally with
      probes := c.pool.tally.probes + .ofNat c.due.size
      probeFailures := c.pool.tally.probeFailures + .ofNat c.bad.size
      evictions := c.pool.tally.evictions + .ofNat c.bad.size
      closed := c.pool.tally.closed + .ofNat c.bad.size }
    epoch := if c.due.size = 0 then c.pool.epoch else c.pool.epoch + 1 }
  report : outcome = .value (.completed c.due.size c.bad.size)

theorem find?_due_iff (c : Round S) (key : SessionKey) (r : Record S) : c.due.find? key = some r ↔
    c.pool.idle.find? key = some r ∧ r.info.standing = .idle ∧
    c.interval < c.now.since r.info.lastHeartbeat := by
  rw [Round.find?_due, Option.filter_eq_some_iff, Record.isDue, Bool.and_eq_true, beq_iff_eq,
    decide_eq_true_iff]
  rfl

theorem contacts_eq (c : Round S) : c.contacts =
    c.due.values.map (fun r => .queried r.session c.statement (c.answers r.session)) ++
      (c.due.values.filter fun r => c.fails r.session).map fun r =>
      .closed r.session (.value ()) := by
  simp only [Round.contacts, Round.queries, Round.closings, Round.bad, Roster.values,
    Roster.filter, List.map_map, List.filter_map]
  rfl

/-- A cycle that has found something to probe. -/
theorem cycled_of_ran (sound : ∀ key r, c.pool.idle.find? key = some r → r.standing ≠ .canceled)
    (some : c.due.size ≠ 0) {cs : List (Contact S)} {outcome : Outcome Empty CycleReport}
    (ran : c.Ran later cs p (.done outcome)) : ∃ e ∈ later, Cycled c e.1.now cs p outcome := by
  obtain ⟨rfl, told, e, he, rfl⟩ := ran
  refine ⟨e, he, find?_due_iff c, c.due.ordered, told.trans (contacts_eq c),
    Round.find?_settled sound, ?_, rfl⟩
  rw [if_neg some]
  rfl

/-- A cycle that finds nothing to probe leaves everything as it is. -/
theorem cycled_of_nothing_due (none : c.due.size = 0) (now : Instant) :
    c.marked = c.pool ∧ Cycled c now [] c.pool (.value (.completed 0 0)) := by
  have bare : c.due = .empty := Roster.eq_empty_of_size none
  have resting (key : SessionKey) (r : Record S) (found : c.pool.idle.find? key = some r) :
      r.isDue c.interval c.now = false := by
    have absent := c.find?_due key
    rw [bare, found] at absent
    simpa [Option.filter] using absent
  have noBad : c.bad = .empty := by rw [Round.bad, bare]; rfl
  have noGood : c.good = .empty := by rw [Round.good, bare]; rfl
  refine ⟨?_, find?_due_iff c, c.due.ordered,
    by rw [bare]; rfl, fun key => ?_, ?_, by rw [none, noBad]; rfl⟩
  · have same : c.marked.idle = c.pool.idle := by
      refine Roster.ext_find? fun key => ?_
      rw [Round.find?_marked]
      cases found : c.pool.idle.find? key with
      | none => rfl
      | some r => simp [resting key r found]
    show { c.pool with idle := c.marked.idle } = c.pool
    rw [same]
  · cases found : c.pool.idle.find? key with
    | none => rfl
    | some r => simp [resting key r found]
  · simp [bare, noBad, noGood]

/-- What a cycle is from end to end, from the step on in which it marks the sessions that are
due. -/
structure EndToEnd (home : PoolId) (i : Nat) (interval : Duration) (statement : String)
    (contended : Bool) (s₀ : State S) (p₀ : Pool S) (s₁ : State S) : Prop where
  /-- With a zero interval it is over at once, and nothing has changed. -/
  off : interval.isZero = true → At s₁ i home (.done (.value .disabled)) ∧ s₁.pool? home = some p₀
  /-- It is over at once, and nothing has changed, if somebody else has the rosters. -/
  busy : interval.isZero = false → contended = true →
    At s₁ i home (.done (.value .busy)) ∧ s₁.pool? home = some p₀
  /-- Else it can run to its end, however its queries end. -/
  concludes : interval.isZero = false → contended = false → ∀ answers,
    Concludes ⟨p₀, interval, statement, s₀.now, answers⟩ home i s₁
  /-- And when it has done so on its own, this is what it has done. -/
  cycled : interval.isZero = false → contended = false → ∀ answers later s p outcome,
    OnItsOwn ⟨p₀, interval, statement, s₀.now, answers⟩ home i s₁ later s → s.pool? home = some p →
      At s i home (.done outcome) → ∃ now ∈ s₀.now :: later.map (·.1.now),
        Cycled ⟨p₀, interval, statement, s₀.now, answers⟩ now (contacts (moves i later)) p outcome

/-- A heartbeat cycle from end to end, in every state that a run can reach. -/
theorem heartbeat_cycle {interval : Duration} {statement : String} {connected : S → Bool}
    {contended : Bool} (run : Run past s₀) (was₀ : s₀.calls[i]? = some call₀)
    (selects : call₀.task.heartbeat? = some (.select interval statement))
    (built₀ : s₀.pool? call₀.home = some p₀)
    (act : s₀.act (.step i connected contended) = some s₁) :
    EndToEnd call₀.home i interval statement contended s₀ p₀ s₁ := by
  -- the first step
  obtain ⟨call₁, b₁, was₁, home, runs, p₁, built₁, first⟩ : ∃ call₁ b₁, s₁.calls[i]? = some call₁ ∧
      call₁.home = call₀.home ∧ call₁.task.heartbeat? = some b₁ ∧
      ∃ p₁, s₁.pool? call₀.home = some p₁ ∧
        Heartbeat.step (s₀.view call₀ connected contended) p₀ (.select interval statement) =
          some (p₁, b₁) := by
    cases happens_of_act act with
    | @step _ _ _ call site p' t' atWork found did =>
    cases was₀.symm.trans atWork
    cases built₀.symm.trans (State.pool?_of_site found)
    obtain ⟨-, b₁, did', runs⟩ := Task.heartbeat?_of_step selects rfl did
    have hlt := (List.getElem?_eq_some_iff.1 atWork).1
    exact ⟨_, b₁, List.getElem?_set_self hlt, rfl, runs, p',
      by rw [State.pool?_put found, if_pos rfl], did'⟩
  have at₁ : At s₁ i call₀.home b₁ := ⟨call₁, p₁, was₁, home, built₁, runs⟩
  rw [← home] at built₁
  have sound (key : SessionKey) (r : Record S) (found : p₀.idle.find? key = some r) :
      r.standing ≠ .canceled := by
    rcases ((run.filed built₀).idle key r found).standing with h | h <;> simp [h]
  refine ⟨fun zero => ?off, fun nonzero busy => ?busy, fun nonzero free answers => ?concludes,
    fun nonzero free answers later s p outcome own built ends => ?cycled⟩
  case off =>
    simp only [Heartbeat.step, zero, if_true] at first
    cases first
    exact ⟨at₁, home ▸ built₁⟩
  case busy =>
    simp only [Heartbeat.step, nonzero, State.view, busy, if_true, Bool.false_eq_true,
      if_false] at first
    cases first
    exact ⟨at₁, home ▸ built₁⟩
  case concludes =>
    obtain ⟨-, rfl⟩ := Round.begins ⟨p₀, interval, statement, s₀.now,
      answers⟩ nonzero free rfl first
    split at at₁
    · exact .of_done at₁
    · exact .of_probe at₁
  case cycled =>
    obtain ⟨rfl, rfl⟩ :=
      Round.begins ⟨p₀, interval, statement, s₀.now, answers⟩ nonzero free rfl first
    rw [← home] at own built ends
    by_cases none : (Round.due ⟨p₀, interval, statement, s₀.now, answers⟩).size = 0
    · -- the cycle is over already
      rw [if_pos none] at runs
      obtain ⟨rfl, rfl⟩ := own.eq_of_ended was₁ runs
      obtain ⟨_, _, was, -, -, again⟩ := ends
      cases was₁.symm.trans was
      cases runs.symm.trans again
      cases built₁.symm.trans built
      obtain ⟨same, cycled⟩ := cycled_of_nothing_due none s₀.now
      exact ⟨s₀.now, List.mem_cons_self, same ▸ cycled⟩
    · rw [if_neg none] at runs
      obtain ⟨call, _, was, -, -, done⟩ := ends
      obtain ⟨b, again, ran⟩ :=
        own.ran sound was₁ built₁ runs ⟨rfl, [], _, rfl, rfl, rfl, rfl, rfl⟩ was built
      cases done.symm.trans again
      obtain ⟨e, he, cycled⟩ := cycled_of_ran sound none ran
      exact ⟨e.1.now, List.mem_cons_of_mem _ (List.mem_map_of_mem he), cycled⟩

/-- Three sessions are idle, and the third one was given back just now, when a cycle begins. -/
def cycling : List (Choice Nat) :=
  List.flatten [
    [.build { settings := { maxConnections := 3 }, source := some .server }],
    lending 1 10, lending 2 20,
    lending 3 30, [.begin (.dropLease 0)], steps 4 4, [.begin (.dropLease 0)], steps 5 4,
    [.pass (.ofSeconds 1), .begin (.dropLease 0)], steps 6 4,
    [.begin (.cycle 0 .moment "SELECT 1")]]

theorem heartbeat_cycle_of_cycling :
    ∃ past s₀ call₀ p₀ s₁, Run (S := Nat) past s₀ ∧ s₀.calls[7]? = some call₀ ∧
      call₀.task.heartbeat? = some (.select .moment "SELECT 1") ∧ s₀.pool? call₀.home = some p₀ ∧
      s₀.act (.step 7 (fun _ => true) false) = some s₁ ∧ p₀.idle.keys = [⟨1⟩, ⟨2⟩, ⟨3⟩] ∧
      (∀ answers, (Round.due ⟨p₀, .moment, "SELECT 1", s₀.now, answers⟩).keys = [⟨1⟩, ⟨2⟩]) ∧
      EndToEnd call₀.home 7 .moment "SELECT 1" false s₀ p₀ s₁ := by
  have h : ((play cycling).any fun r => decide (∃ call₀ ∈ r.2.calls[7]?,
      call₀.task.heartbeat? = some (.select .moment "SELECT 1") ∧ ∃ p₀ ∈ r.2.pool? call₀.home,
      (∃ s₁ ∈ r.2.act (.step 7 (fun _ => true) false), s₁.calls.length = 8) ∧
      p₀.idle.keys = [⟨1⟩, ⟨2⟩, ⟨3⟩] ∧
      (p₀.idle.filter fun _ r' => r'.isDue .moment r.2.now).keys = [⟨1⟩, ⟨2⟩])) = true := by
    decide +kernel
  obtain ⟨⟨past, s₀⟩, played, h⟩ := (Option.any_eq_true _ _).1 h
  obtain ⟨call₀, was₀, selects, p₀, built₀, ⟨s₁, act, -⟩, idle, due⟩ := of_decide_eq_true h
  have run := run_of_play played
  exact ⟨past, s₀, call₀, p₀, s₁, run, was₀, selects, built₀, act, idle, fun _ => due,
    heartbeat_cycle run was₀ selects built₀ act⟩

end Interleaving

end ConnectionPool
