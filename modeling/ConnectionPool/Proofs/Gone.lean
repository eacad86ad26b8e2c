import ConnectionPool.Proofs.Shrinking

set_option autoImplicit false

/-! # Pools that are gone

The owner of a pool gives it up once, and the call that does so shuts the pool down before it ends.
So a pool that is gone has no idle sessions: they were taken, to be closed (`Run.swept_of_gone`).

There is one exception. Whoever gives a pool up on its own heartbeat worker would have to wait for
that worker, and the shutdown breaks off before it has come to the idle sessions. -/

namespace ConnectionPool

variable {S : Type} {v : View S} {p p' : Pool S}

/-- Only a shutdown on the pool's own heartbeat worker breaks off by itself. -/
theorem Shutdown.byWorker_of_step {d : Shutdown S} {text : String}
    (h : d.step v p = some (p', .done (.panic text))) : v.byWorker = true := by
  cases d with
  | awaitWorker =>
    simp only [step] at h
    split at h
    · assumption
    · split at h <;> cases h
  | close =>
    simp only [step, Option.some.injEq, Prod.mk.injEq] at h
    obtain ⟨-, h⟩ := h
    split at h <;> cases h
  | awaitFirst | asleep =>
    simp only [step] at h
    split at h <;> cases h
  | closeIdle n todo => cases todo <;> cases h
  | look since pause limit =>
    simp only [step, Option.some.injEq, Prod.mk.injEq] at h
    obtain ⟨-, h⟩ := h
    split at h
    · cases h
    · split at h <;> cases h
  | _ => cases h

theorem Shutdown.breaksOff_of_answer {d : Shutdown S} {reply : Interleaving.Reply S} {text : String}
    (h : d.status.answer reply = some (.done (.panic text))) : reply = .closed (.panic text) := by
  cases d with
  | closeIdle n todo =>
    cases todo with
    | nil => cases h
    | cons session rest =>
      cases reply with
      | closed outcome =>
        cases outcome with
        | value _ => cases h
        | error e => exact e.elim
        | panic text =>
          cases h
          rfl
      | _ => cases h
  | _ => cases h

namespace Interleaving

variable {home : PoolId} {past : List (State S × Choice S)} {s s' : State S} {c : Choice S}

/-- The pool was given up on its own heartbeat worker. -/
def GivenUpByWorker (home : PoolId) (past : List (State S × Choice S)) : Prop :=
  ∃ s, (s, Choice.drop home true) ∈ past

theorem GivenUpByWorker.cons {e : State S × Choice S} (h : GivenUpByWorker home past) :
    GivenUpByWorker home (e :: past) :=
  h.imp fun _ => List.mem_cons_of_mem e

/-! ## The call that gives a pool up -/

theorem Task.drop_of_step {t : Task S} {d' : Shutdown S} (h : t.step v p = some (p', .drop d')) :
    ∃ d, t = .drop d ∧ d.step v p = some (p', d') := by
  cases t with
  | drop d =>
    obtain ⟨u, hu, same⟩ := exists_of_map_step h
    cases same
    exact ⟨d, rfl, hu⟩
  | returned => cases h
  | _ =>
    obtain ⟨u, -, same⟩ := exists_of_map_step h
    cases same

theorem Task.drop_of_answer {t : Task S} {reply : Reply S} {d' : Shutdown S}
    (h : t.answer reply = some (.drop d')) :
    ∃ d, t = .drop d ∧ d.status.answer reply = some d' := by
  cases t with
  | drop d =>
    obtain ⟨u, hu, same⟩ := Option.map_eq_some_iff.1 h
    cases same
    exact ⟨d, rfl, hu⟩
  | resize | returned => cases h
  | _ =>
    obtain ⟨u, -, same⟩ := Option.map_eq_some_iff.1 h
    cases same

/-- Who makes a call that gives a pool up, as far as the past and its phase tell. -/
theorem Run.byWorker (run : Run past s) (calm : Calm past) {i : Nat}
    {call : Call S} {d : Shutdown S} (atWork : s.calls[i]? = some call)
    (task : call.task = .drop d) :
    (call.byWorker = true → GivenUpByWorker call.home past) ∧
      ∀ text, d = .done (.panic text) → call.byWorker = true := by
  induction run generalizing i call d with
  | start => simp at atWork
  | @next past s s' c run fresh act ih =>
    have calm' := calm.of_cons
    cases came_of_act act atWork with
    | stays was =>
      obtain ⟨given, breaks⟩ := ih calm' was task
      exact ⟨fun h => (given h).cons, breaks⟩
    | begins new =>
      cases begins_of_act act new atWork with
      | drop =>
        cases task
        refine ⟨?_, nofun⟩
        rintro rfl
        exact ⟨s, List.mem_cons_self⟩
      | giveBack | transfer | surrender | acquire | cycle | work | resize | shutDown => cases task
    | @steps connected contended old site q was at_ found did =>
      obtain ⟨-, worker⟩ := same_of_act act was atWork
      rw [task] at did
      obtain ⟨before, old', stepped⟩ := Task.drop_of_step did
      obtain ⟨given, -⟩ := ih calm' was old'
      rw [worker, at_]
      refine ⟨fun h => (given h).cons, ?_⟩
      rintro text rfl
      exact Shutdown.byWorker_of_step stepped
    | @hears reply old was at_ did =>
      obtain ⟨-, worker⟩ := same_of_act act was atWork
      rw [task] at did
      obtain ⟨before, old', answered⟩ := Task.drop_of_answer did
      obtain ⟨given, -⟩ := ih calm' was old'
      rw [worker, at_]
      refine ⟨fun h => (given h).cons, ?_⟩
      rintro text rfl
      obtain rfl := Shutdown.breaksOff_of_answer answered
      exact absurd (calm _ List.mem_cons_self) (by simp [Choice.breaksOff])
    | ends was ended last =>
      rw [last] at task
      cases task

/-- A pool that is there keeps its owner, unless it is given up. -/
theorem owned_of_act (act : s.act c = some s') (built : s.pool? home = some p) :
    s'.owned home = s.owned home ∨
      ∃ byWorker, c = .drop home byWorker ∧
      s'.calls = s.calls ++ [⟨home, byWorker, .drop .close⟩] := by
  have kept {at_ : PoolId} {site site' : Site S} {leases : List (Lease S)} {calls : List (Call S)}
      {delivered : List S} (found : s.sites[at_]? = some site) (same : site'.owned = site.owned) :
      (State.mk s.now (s.sites.set at_ site') leases calls delivered).owned home =
        s.owned home := by
    unfold State.owned
    rw [List.getElem?_set]
    split
    · next here =>
      subst here
      rw [if_pos (List.getElem?_eq_some_iff.1 found).1, found]
      exact same
    · rfl
  cases happens_of_act act with
  | pass | begin | finish => exact .inl rfl
  | build =>
    left
    simp only [State.owned, List.getElem?_append_left (State.lt_of_pool? built)]
  | adjust found => exact .inl (kept found rfl)
  | step atWork found did => exact .inl (kept found rfl)
  | answer atWork found did => exact .inl (kept found rfl)
  | @drop at_ byWorker site found owned free =>
    by_cases here : at_ = home
    · subst here
      exact .inr ⟨byWorker, rfl, rfl⟩
    · left
      simp only [State.owned, List.getElem?_set_ne here]

theorem Task.done_of_isEnded {d : Shutdown S} (h : (Task.drop d).isEnded = true) :
    ∃ outcome, d = .done outcome := by
  cases ended_of_isEnded h
  exact ⟨_, rfl⟩

/-- A call that gives a pool up goes on to do so until its shutdown is done. -/
theorem drops_of_act (act : s.act c = some s') {i : Nat} {call : Call S} {d : Shutdown S}
    (was : s.calls[i]? = some call) (task : call.task = .drop d) :
    (∃ (call' : Call S) (d' : Shutdown S), s'.calls[i]? = some call' ∧ call'.home = call.home ∧
      call'.task = .drop d') ∨ ∃ outcome, d = .done outcome := by
  obtain ⟨call', is⟩ := exists_call_of_act act was
  obtain ⟨at_, -⟩ := same_of_act act was is
  cases came_of_act act is with
  | stays same =>
    cases was.symm.trans same
    exact .inl ⟨call, d, is, rfl, task⟩
  | begins new => cases was.symm.trans new
  | steps same at' found did =>
    cases was.symm.trans same
    rw [task] at did
    obtain ⟨d', -, task'⟩ := exists_of_map_step did
    exact .inl ⟨call', d', is, at_, task'⟩
  | hears same at' did =>
    cases was.symm.trans same
    rw [task] at did
    obtain ⟨d', -, task'⟩ := Option.map_eq_some_iff.1 did
    exact .inl ⟨call', d', is, at_, task'.symm⟩
  | ends same ended =>
    cases was.symm.trans same
    exact .inr (Task.done_of_isEnded (task ▸ ended))

/-- A pool without an owner is being given up, or has been shut down. -/
theorem Run.unowned (run : Run past s) (calm : Calm past) (built : s.pool? home = some p)
    (h : s.owned home = false) :
    (∃ (i : Nat) (call : Call S) (d : Shutdown S), s.calls[i]? = some call ∧ call.home = home ∧
      call.task = .drop d) ∨ Drained home past ∨ GivenUpByWorker home past := by
  induction run generalizing p with
  | start now => simp [State.pool?] at built
  | @next past s s' c run fresh act ih =>
    have calm' := calm.of_cons
    have older : past ⊆ (s, c) :: past := List.subset_cons_self _ _
    cases old : s.pool? home with
    | none =>
      -- whoever builds a pool owns it
      obtain ⟨builder, made, rfl, rfl⟩ := exists_build act old built
      cases happens_of_act act with
      | build => simp [State.owned] at h
    | some q =>
      rcases owned_of_act act old with same | ⟨byWorker, rfl, calls⟩
      · rcases ih calm' old (same ▸ h) with ⟨i, call, d, was, rfl, task⟩ | drained | given
        · rcases drops_of_act act was task with ⟨call', d', is, at_, task'⟩ | ⟨outcome, rfl⟩
          · exact .inl ⟨i, call', d', is, at_, task'⟩
          · right
            cases outcome with
            | value _ =>
              have done : Concluded call.home past :=
                run.accounted.phases i call (.done (.value ())) q was (by rw [task]; rfl) old
              exact .inl (done.drained.mono older)
            | error e => exact e.elim
            | panic text =>
              -- it has broken off, which it does on the worker only
              obtain ⟨given, breaks⟩ := run.byWorker calm' was task
              exact .inr (given (breaks text rfl)).cons
        · exact .inr (.inl (drained.mono older))
        · exact .inr (.inr given.cons)
      · refine .inl ⟨s.calls.length, ⟨home, byWorker, .drop .close⟩, .close, ?_, rfl, rfl⟩
        rw [calls, List.getElem?_concat_length]

/-- A pool that is gone has no idle sessions, unless it was given up on its own worker. -/
theorem Run.swept_of_gone (run : Run past s) (calm : Calm past) (built : s.pool? home = some p)
    (gone : s.alive home = false) : Swept p ∨ GivenUpByWorker home past := by
  have unowned : s.owned home = false := by
    cases h : s.owned home with
    | false => rfl
    | true => rw [State.alive_of_owned h] at gone; cases gone
  rcases run.unowned calm built unowned with ⟨i, call, d, was, at_, task⟩ | drained | given
  · -- the call that gives it up would keep it
    have alive : s.alive home = true :=
      State.alive_iff.2 (.inr ⟨call, List.mem_of_getElem? was, at_, by rw [task]; rfl⟩)
    rw [gone] at alive
    cases alive
  · exact .inl (drained.swept run built)
  · exact .inr given

end Interleaving

end ConnectionPool
