import ConnectionPool.Proofs.Waiting

set_option autoImplicit false

/-! # Waiting on a closed pool

A shutdown closes its pool, and later tells those who wait, once. Whoever waits by then wakes up and
finds the pool closed. Whoever comes later looks whether the pool is open before it does anything
else.

Between the two there is a gap. An acquirer that has seen the pool open, and then is held up until
the shutdown has given its notice, reads the new epoch and waits for one that is newer still. It
sleeps on a closed pool (`exists_asleep_on_closed`) until some session is given back, or until its
deadline. No other acquirer does (`asleep_of_announced`). -/

namespace ConnectionPool

namespace Interleaving

variable {S : Type} {home : PoolId} {past : List (State S × Choice S)} {s : State S} {p : Pool S}

/-- Whether a choice is the notice of a shutdown of the pool. -/
def announces (home : PoolId) (e : State S × Choice S) : Bool :=
  match e.2 with
  | .step i _ _ =>
    match e.1.calls[i]? with
    | some ⟨at_, _, .shutDown .announce⟩ | some ⟨at_, _, .drop .announce⟩ => at_ == home
    | _ => false
  | _ => false

/-- A shutdown of the pool has told those who wait. -/
def Announced (home : PoolId) (past : List (State S × Choice S)) : Prop :=
  ∃ e ∈ past, announces home e = true

instance : Decidable (Announced home past) :=
  inferInstanceAs (Decidable (∃ e ∈ past, announces home e = true))

theorem notifies_of_announces {s' : State S} {c : Choice S} (act : s.act c = some s')
    (h : announces home (s, c) = true) : s.notifies home c = true := by
  have raised {i : Nat} {connected : S → Bool} {contended : Bool} {call : Call S}
      (act : s.act (.step i connected contended) = some s') (was : s.calls[i]? = some call)
      (at_ : call.home = home) (task : call.task = .shutDown .announce ∨
        call.task = .drop .announce) :
      s.notifies home (.step i connected contended) = true := by
    cases happens_of_act act with
    | @step _ _ _ _ site p' t' atWork found did =>
    cases was.symm.trans atWork
    have told : p' = site.pool.notify := by
      rcases task with task | task <;> rw [task] at did <;> cases did <;> rfl
    subst at_
    simp only [State.notifies, State.pool?_of_site found, act, Option.bind_some,
      State.pool?_put found, if_true, told, Pool.notify, bne_iff_ne, ne_eq]
    exact Ledger.succ_epoch_ne _
  cases c with
  | step i connected contended =>
    simp only [announces] at h
    split at h
    · next was => exact raised act was (beq_iff_eq.1 h) (.inl rfl)
    · next was => exact raised act was (beq_iff_eq.1 h) (.inr rfl)
    · cases h
  | _ => cases h

/-- An acquirer that waits although a shutdown has told those who wait saw the pool open, and read
the epoch when they had been told. -/
theorem asleep_of_announced (run : Run past s) (built : s.pool? home = some p)
    (few : notices home past < UInt64.size) (announced : Announced home past)
    {i : Nat} {call : Call S}
    {patience : Patience} (atWork : s.calls[i]? = some call) (at_ : call.home = home)
    (task : call.task = .acquire (.wait patience p.epoch)) :
    ∃ refused weighed saw looked before,
      trail i past = refused :: weighed :: saw :: looked :: before ∧
      Looked home patience looked ∧ Saw home patience p.epoch saw ∧ Announced home saw.past := by
  obtain ⟨refused, weighed, saw, looked, before, since, htrail, look, see, rfl, silent⟩ :=
    run.saw_of_waiting built few atWork at_ task
  refine ⟨refused, weighed, saw, looked, before, htrail, look, see, ?_⟩
  -- the notice was not given since the epoch was read, so it was given before
  obtain ⟨e, he, told⟩ := announced
  rcases List.mem_append.1 he with hsince | hbefore
  · obtain ⟨-, -, s', -, -, act⟩ := run.of_mem he
    have := List.countP_eq_zero.1 silent e hsince
    exact absurd (notifies_of_announces act told) this
  · exact ⟨e, hbefore, told⟩

/-- The only session is lent. An acquirer sees the pool open, the pool is shut down as far as the
notice, and the acquirer goes on. -/
def lateness : List (Choice Nat) :=
  [.build { settings := { maxConnections := 1 }, source := some .server }] ++ lending 1 10 ++
    [.begin (.acquireWithin 0 .moment)] ++ List.replicate 2 (.step 2 (fun _ => true) false) ++
    [.begin (.shutDown 0 false)] ++ List.replicate 2 (.step 3 (fun _ => true) false) ++
    List.replicate 3 (.step 0 (fun _ => true) false) ++
    List.replicate 2 (.step 3 (fun _ => true) false) ++
    List.replicate 3 (.step 2 (fun _ => true) false)

theorem exists_asleep_on_closed : ∃ past s p, Run (S := Nat) past s ∧ s.pool? 0 = some p ∧
    p.closed = true ∧ Announced 0 past ∧ .waiting p.epoch ∈ s.roles 0 := by
  have h : ((play lateness).bind fun r => if Announced 0 r.1 ∧ .waiting 1 ∈ r.2.roles 0
      then (r.2.pool? 0).map fun p => (p.closed, p.epoch) else none) = some (true, 1) := by
    decide +kernel
  obtain ⟨⟨past, s⟩, played, h⟩ := Option.bind_eq_some_iff.1 h
  split at h
  · next hfacts =>
    obtain ⟨p, built, seen⟩ := Option.map_eq_some_iff.1 h
    obtain ⟨closed, epoch⟩ := Prod.mk.inj seen
    exact ⟨past, s, p, run_of_play played, built, closed, hfacts.1, epoch ▸ hfacts.2⟩
  · cases h

end Interleaving

end ConnectionPool
