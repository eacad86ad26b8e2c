import ConnectionPool.Proofs.Waiting

set_option autoImplicit false

/-! # No wake-up is lost

An acquirer that waits relies on two promises. Nobody lets it sleep next to a session or a slot that
it could have: if there is one, somebody is about to tell it. And it does not give up because it has
looked at the wrong moment: when it says that it has timed out, the pool was full when its request
was decided last, no notice was given from the time it read the epoch for that decision, and its
deadline is over.

The first promise is about what calls do to each other (`Ledger.Watchful`). The second one is about
what one call has done (`TimedOut`). -/

namespace ConnectionPool

namespace Interleaving

variable {S : Type} {home : PoolId} {past : List (State S × Choice S)} {s : State S} {p : Pool S}

/-- A call that owes a notice goes on owing it until it gives it. -/
theorem notice_of_act {s' : State S} {c : Choice S} {i : Nat} {call call' : Call S} {p' : Pool S}
    (act : s.act c = some s') (calm : c.breaksOff = false) (built : s.pool? home = some p)
    (built' : s'.pool? home = some p') (was : s.calls[i]? = some call) (at_ : call.home = home)
    (owed : call.task.role = .notice) (still : s'.calls[i]? = some call') :
    call'.task.role = .notice ∨ p'.epoch = p.epoch + 1 := by
  cases came_of_act act still with
  | stays same idle =>
    cases was.symm.trans same
    exact .inl owed
  | begins new idle first => cases was.symm.trans new
  | ends same ended last =>
    cases was.symm.trans same
    have none := Task.role_of_isEnded ended
    -- a call does not end while it owes a notice
    rw [owed] at none
    cases hloan : call.task.loan? <;> simp [hloan, Role.toList] at none
  | @steps connected contended old site q same at_' found did =>
    cases was.symm.trans same
    subst at_
    -- the epoch that the step leaves is the one of the state after it
    have after : s'.pool? call.home = some q := by
      cases happens_of_act act with
      | step atWork found' did' =>
      cases was.symm.trans atWork
      cases found.symm.trans found'
      cases did.symm.trans did'
      rw [State.pool?_put found, if_pos rfl]
    cases built'.symm.trans after
    cases built.symm.trans (State.pool?_of_site found)
    rcases Task.moves_of_step did with ⟨-, moves⟩ | ⟨-, hands⟩
    · rw [owed] at moves
      exact (moves.owes (by simp)).imp And.left And.right
    · rw [hands.role] at owed
      cases owed
  | @hears reply old same at_' did =>
    cases was.symm.trans same
    have moves := (@Task.moves_of_answer _ (s.view call (fun _ => false) false) p _ _ _ did).2
    rw [owed] at moves
    have calmly (text : String) : some reply ≠ some (.closed (.panic text)) := by
      intro hreply
      cases hreply
      cases calm
    rcases moves.owes calmly with ⟨is, -⟩ | ⟨-, raised⟩
    · exact .inl is
    · exact absurd raised.symm (Ledger.succ_epoch_ne _)

/-- What acquirers that wait can rely on, at some moment of a run. -/
structure NoLostWakeUp (home : PoolId) (past : List (State S × Choice S))
    (s : State S) (p : Pool S) : Prop where
  /-- While the pool is open, an acquirer that waits for a newer epoch than the present one waits
  rightly, or another call has still to give a notice. -/
  awake : p.closed = false → ∀ (i : Nat) (call : Call S) (patience : Patience),
    s.calls[i]? = some call → call.home = home → call.task = .acquire (.wait patience p.epoch) →
      p.lend p.settings.maxConnections s.now = (p, .full) ∨
      ∃ (j : Nat) (other : Call S), j ≠ i ∧ s.calls[j]? = some other ∧ other.home = home ∧
        other.task.role = .notice
  /-- A call that has still to give a notice does so before it goes on to anything else. -/
  told : ∀ (c : Choice S) (s' : State S) (p' : Pool S) (j : Nat) (other other' : Call S),
    s.act c = some s' → c.breaksOff = false → s'.pool? home = some p' →
    s.calls[j]? = some other → other.home = home → other.task.role = .notice →
    s'.calls[j]? = some other' → other'.task.role = .notice ∨ p'.epoch = p.epoch + 1
  /-- A request that has timed out has done so for good reason. -/
  honest : ∀ (i : Nat) (call : Call S) (limit : Duration), s.calls[i]? = some call →
    call.home = home → call.task = .acquire (.done (.error (.timedOut limit))) →
      TimedOut home limit (trail i past)

/-- No wake-up is lost and no timeout is reported without reason, in every run in which no session
breaks off while it is closed, and in which fewer than `2 ^ 64` notices were given and fewer than
`2 ^ 64` keys were drawn. With a key that comes round again a new session would take the place of a
lent one, and the pool would have room of which nobody is told. -/
theorem no_lost_wake_up (run : Run past s) (built : s.pool? home = some p) (calm : Calm past)
    (few : notices home past < UInt64.size) (fewer : (enrolled home past).length < UInt64.size) :
    NoLostWakeUp home past s p where
  awake isOpen i call patience atWork at_ task := by
    have watchful := run.watchful built calm few fewer
    by_cases owed : .notice ∈ s.roles home
    · right
      obtain ⟨j, other, atWork', home', role⟩ :=
        (State.mem_roles_iff (r := .notice) (by simp)).1 owed
      refine ⟨j, other, ?_, atWork', home', role⟩
      rintro rfl
      cases atWork.symm.trans atWork'
      rw [task] at role
      cases role
    · left
      refine Pool.lend_eq_full_iff.2 (watchful.waits isOpen owed ?_)
      exact (State.mem_roles_iff (r := .waiting p.epoch) (by simp)).2 ⟨i, call, atWork, at_,
        by rw [task]; rfl⟩
  told _ _ _ _ _ _ act calm built' was at_ owed still :=
    notice_of_act act calm built built' was at_ owed still
  honest _ _ _ atWork at_ task := run.timedOut few atWork at_ task

/-- One session, which is lent. A request for it times out, another one waits, and the session has
just been given back, but nobody was told. -/
def waiting : List (Choice Nat) :=
  [.build { settings := { maxConnections := 1 }, source := some .server }] ++ lending 1 10 ++
    [.begin (.acquireWithin 0 .moment)] ++ List.replicate 5 (.step 2 (fun _ => true) false) ++
    [.pass .moment] ++ List.replicate 2 (.step 2 (fun _ => true) false) ++
    [.begin (.acquireWithin 0 .moment)] ++ List.replicate 5 (.step 3 (fun _ => true) false) ++
    [.begin (.release 0)] ++ List.replicate 2 (.step 4 (fun _ => true) false)

theorem no_lost_wake_up_of_waiting :
    ∃ past s p, Run (S := Nat) past s ∧ s.pool? 0 = some p ∧ Calm past ∧
      notices 0 past < UInt64.size ∧ (enrolled 0 past).length < UInt64.size ∧
      s.roles 0 = [.waiting p.epoch, .notice] ∧ NoLostWakeUp 0 past s p := by
  have h : ((play waiting).bind fun r =>
      if (∀ e ∈ r.1, e.2.breaksOff = false) ∧ notices 0 r.1 < UInt64.size ∧
      (enrolled 0 r.1).length < UInt64.size ∧ r.2.roles 0 = [.waiting 0, .notice]
      then (r.2.pool? 0).map Pool.epoch else none) = some 0 := by decide +kernel
  obtain ⟨⟨past, s⟩, played, h⟩ := Option.bind_eq_some_iff.1 h
  split at h
  · next hfacts =>
    obtain ⟨calm, few, fewer, roles⟩ := hfacts
    obtain ⟨p, built, epoch⟩ := Option.map_eq_some_iff.1 h
    have run := run_of_play played
    exact ⟨past, s, p, run, built, calm, few, fewer, epoch ▸ roles,
      no_lost_wake_up run built calm few fewer⟩
  · cases h

end Interleaving

end ConnectionPool
