import ConnectionPool.Proofs.Clearances
import ConnectionPool.Proofs.Gone

set_option autoImplicit false

/-! # The first shutdown

The first shutdown of a pool does all the work, and the others wait for the mark that it leaves in
its last step. It leaves it only if it comes that far. A session that breaks off while it is closed
ends the shutdown on the spot, and so does a shutdown on the pool's own heartbeat worker.

So the first shutdown ends in one of three ways (`end_of_first_shutdown`). It has closed all the
sessions that were idle, and whoever waits for it can go on, now and later; or it has broken off at
one of them, or before it has taken any, and then no other shutdown of the pool ever returns
(`exists_barred`). -/

namespace ConnectionPool

open Interleaving (Clearance Task)

variable {S : Type} {v : View S} {p p' : Pool S}

namespace Interleaving

variable {home : PoolId} {past : List (State S × Choice S)} {s : State S} {c : Choice S} {i : Nat}

/-- A shutdown that comes to its end marks the pool. -/
theorem Task.marks_of_finish {t t' : Task S} (h : t.step v p = some (p', t'))
    (about : t.shutdown? = some .finish) : p'.drained = true := by
  obtain ⟨d', -, did⟩ := Task.shutdown_step about h
  cases did
  rfl

/-! ## Who comes first -/

/-- The call that closes the pool by a choice. -/
def closer? (home : PoolId) (e : State S × Choice S) : Option Nat :=
  match shutdownPhase? home e, e.1.pool? home with
  | some .close, some p => if p.closed then none else e.2.caller?
  | _, _ => none

/-- The call that has closed the pool. -/
def firstShutdown? (home : PoolId) : List (State S × Choice S) → Option Nat
  | [] => none
  | e :: past => (firstShutdown? home past).or (closer? home e)

theorem closer?_eq_some {e : State S × Choice S} : closer? home e = some i ↔
    shutdownPhase? home e = some .close ∧ (∃ p, e.1.pool? home = some p ∧ p.closed = false) ∧
    e.2.caller? = some i := by
  unfold closer?
  split
  · next p phase built =>
    simp [phase, built]
  · next other =>
    constructor
    · rintro ⟨⟩
    · rintro ⟨phase, ⟨p, built, -⟩, -⟩
      exact (other p phase built).elim

theorem closer?_of_phase_ne {e : State S × Choice S} (h : shutdownPhase? home e ≠ some .close) :
    closer? home e = none := by
  cases hc : closer? home e with
  | none => rfl
  | some i => exact absurd (closer?_eq_some.1 hc).1 h

theorem first_cons {e : State S × Choice S} : firstShutdown? home (e :: past) = some i ↔
    firstShutdown? home past = some i ∨ firstShutdown? home past = none ∧
    closer? home e = some i := by
  rw [firstShutdown?, Option.or_eq_some_iff]

theorem first_of_caller_ne (other : c.caller? ≠ some i) :
    firstShutdown? home ((s, c) :: past) = some i ↔ firstShutdown? home past = some i := by
  rw [first_cons, or_iff_left]
  rintro ⟨-, closes⟩
  exact other (closer?_eq_some.1 closes).2.2

theorem first_of_phase_ne {e : State S × Choice S} (h : shutdownPhase? home e ≠ some .close) :
    firstShutdown? home (e :: past) = firstShutdown? home past := by
  rw [firstShutdown?, closer?_of_phase_ne h, Option.or_none]

theorem first_append (since : List (State S × Choice S)) (h : firstShutdown? home past = some i) :
    firstShutdown? home (since ++ past) = some i := by
  induction since with
  | nil => exact h
  | cons e since ih => exact first_cons.2 (.inl ih)

/-- The pool of a first shutdown is closed, and the call is on it. -/
theorem Run.closed_of_first (run : Run past s) (first : firstShutdown? home past = some i) :
    (∃ p, s.pool? home = some p ∧ p.closed = true) ∧ ∃ call, s.calls[i]? = some call ∧
      call.home = home := by
  induction run with
  | start => cases first
  | @next past s s' c run fresh act ih =>
    have goesOn {call : Call S} (was : s.calls[i]? = some call) (at_ : call.home = home) :
        ∃ call', s'.calls[i]? = some call' ∧ call'.home = home := by
      obtain ⟨call', is⟩ := exists_call_of_act act was
      exact ⟨call', is, (same_of_act act was is).1.trans at_⟩
    rcases first_cons.1 first with before | ⟨-, closes⟩
    · obtain ⟨⟨p, built, closed⟩, call, was, at_⟩ := ih before
      obtain ⟨p', built', -⟩ := alters_of_act act built
      exact ⟨⟨p', built', closed_of_act run fresh act built built' closed⟩, goesOn was at_⟩
    · obtain ⟨phase, -, caller⟩ := closer?_eq_some.1 closes
      obtain ⟨j, connected, contended, call, rfl, was, rfl, about⟩ := exists_shutdown_of_phase phase
      cases caller
      refine ⟨?_, goesOn was rfl⟩
      cases happens_of_act act with
      | @step _ _ _ _ site p' t' atWork found did =>
      cases was.symm.trans atWork
      refine ⟨p', by rw [State.pool?_put found, if_pos rfl], ?_⟩
      obtain ⟨d', -, did⟩ := Task.shutdown_step about did
      cases did
      rfl

theorem Run.no_first_of_open (run : Run past s) (built : s.pool? home = some p)
    (isOpen : p.closed = false) : firstShutdown? home past = none := by
  cases first : firstShutdown? home past with
  | none => rfl
  | some i =>
    obtain ⟨⟨q, built', closed⟩, -⟩ := run.closed_of_first first
    cases built.symm.trans built'
    rw [isOpen] at closed
    cases closed

/-- A pool that is open is not marked. -/
theorem Run.unmarked_of_open (run : Run past s) (built : s.pool? home = some p)
    (isOpen : p.closed = false) : p.drained = false := by
  by_contra marked
  have concluded := run.accounted.marks home p built (Bool.of_not_eq_false marked)
  have closed := (concluded.drained.swept run built).closed
  rw [isOpen] at closed
  cases closed

/-! ## How it ends -/

/-- The sessions are those that were idle in the pool. -/
def Clearance.OfIdle (home : PoolId) (cl : Clearance S) : Prop :=
  ∃ p, cl.entered.1.pool? home = some p ∧ cl.haul = .drained p.drain.2

/-- How a first shutdown ends, with what it has taken, and whether it leaves a mark. -/
inductive FirstEnd (home : PoolId) (byWorker marked : Bool) : Option (Clearance S) → Prop
  /-- All sessions are closed. -/
  | finished {cl : Clearance S} (own : cl.OfIdle home) (settled : cl.Settled false)
    (is : marked = true) : FirstEnd home byWorker marked (some cl)
  /-- A session has broken off while it was closed. -/
  | brokenOff {cl : Clearance S} (own : cl.OfIdle home) (broken : cl.BrokenOff)
    (is : marked = false) : FirstEnd home byWorker marked (some cl)
  /-- The worker would have to wait for itself. -/
  | deadlocked (own : byWorker = true) (is : marked = false) : FirstEnd home byWorker marked none

end Interleaving

open Interleaving (State Choice Reply FirstEnd)

variable {home : PoolId} {byWorker : Bool} {first first' : Prop} {o : Option (Clearance S)}

/-- What the phase of a shutdown tells about who comes first, and how far it has come. -/
def Shutdown.Stands (home : PoolId) (byWorker : Bool) (first : Prop) (marked : Bool)
    (o : Option (Clearance S)) : Shutdown S → Prop
  | close | awaitFirst => ¬first
  | done _ => (first → FirstEnd home byWorker marked o) ∧ (¬first → marked = true)
  | _ => first ∧ marked = false ∧ ∀ cl ∈ o, cl.OfIdle home

def Interleaving.Task.Stands (home : PoolId) (byWorker : Bool) (first : Prop) (marked : Bool)
    (o : Option (Clearance S)) : Task S → Prop
  | .shutDown d | .drop d => d.Stands home byWorker first marked o
  | .returned => first → FirstEnd home byWorker marked o
  | _ => ¬first

/-- The sessions stay the same ones when the call goes on. -/
theorem Interleaving.Clearance.ofIdle_map {f : Clearance S → Clearance S}
    (same : ∀ cl, (f cl).entered = cl.entered ∧ (f cl).haul = cl.haul)
    (h : ∀ cl ∈ o, cl.OfIdle home) :
    ∀ cl ∈ o.map f, cl.OfIdle home := by
  intro cl' hcl'
  obtain ⟨cl, hcl, rfl⟩ := Option.map_eq_some_iff.1 hcl'
  obtain ⟨p, built, haul⟩ := h cl hcl
  exact ⟨p, (same cl).1 ▸ built, (same cl).2.trans haul⟩

theorem Shutdown.stands_of_step {past : List (State S × Choice S)} {e : State S × Choice S}
    {d d' : Shutdown S} (h : d.step v p = some (p', d')) (built : e.1.pool? home = some p)
    (worker : v.byWorker = byWorker)
    (isOpen : p.closed = false → ¬first ∧ p.drained = false)
    (firsts : first' ↔ first ∨ d = close ∧ p.closed = false)
    (clears : d.Clears o) (was : d.Stands home byWorker first p.drained o) :
    d'.Stands home byWorker first' p'.drained (Clearance.renew past e p p' o (d.haul? p)) := by
  have kept : (∀ cl ∈ o, cl.OfIdle home) → ∀ cl ∈ o.map (Clearance.stepped p p'), cl.OfIdle home :=
    Clearance.ofIdle_map fun _ => ⟨rfl, rfl⟩
  by_cases closes : d = close
  · subst closes
    cases h
    cases clears
    split
    · next closed =>
      intro isFirst
      rcases firsts.1 isFirst with before | ⟨-, isOpen⟩
      · exact was before
      · rw [closed] at isOpen
        cases isOpen
    · next still =>
      have still := Bool.of_not_eq_true still
      refine ⟨firsts.2 (.inr ⟨rfl, still⟩), (isOpen still).2, ?_⟩
      rintro _ ⟨⟩
  -- no other step changes who comes first
  rw [firsts.trans (or_iff_left fun h => closes h.1)]
  cases d with
  | close => exact absurd rfl closes
  | awaitFirst =>
    simp only [step] at h
    split at h <;> cases h
    exact ⟨fun isFirst => (was isFirst).elim, fun _ => ‹_›⟩
  | awaitWorker =>
    obtain ⟨isFirst, unmarked, own⟩ := was
    cases clears
    simp only [step] at h
    split at h
    · next self =>
      cases h
      exact ⟨fun _ => .deadlocked (worker ▸ self) unmarked, fun isLater => (isLater isFirst).elim⟩
    · split at h <;> cases h
      exact ⟨isFirst, unmarked, kept own⟩
  | drain =>
    obtain ⟨isFirst, unmarked, -⟩ := was
    cases h
    refine ⟨isFirst, unmarked, ?_⟩
    rintro _ ⟨⟩
    exact ⟨p, built, rfl⟩
  | look since pause limit =>
    obtain ⟨isFirst, unmarked, own⟩ := was
    cases h
    split
    · exact ⟨isFirst, unmarked, kept own⟩
    · split <;> exact ⟨isFirst, unmarked, kept own⟩
  | asleep until? since pause limit =>
    obtain ⟨isFirst, unmarked, own⟩ := was
    simp only [step] at h
    split at h <;> cases h
    exact ⟨isFirst, unmarked, kept own⟩
  | closeIdle n todo =>
    obtain ⟨isFirst, unmarked, own⟩ := was
    cases todo <;> cases h
    exact ⟨isFirst, unmarked, kept own⟩
  | finish =>
    obtain ⟨isFirst, unmarked, own⟩ := was
    obtain ⟨cl, rfl, settled, -⟩ := clears
    cases h
    exact ⟨fun _ => .finished (kept own _ rfl) (settled.stepped ⟨rfl, rfl⟩) rfl, fun _ => rfl⟩
  | done => cases h
  | _ =>
    obtain ⟨isFirst, unmarked, own⟩ := was
    cases h
    exact ⟨isFirst, unmarked, kept own⟩

theorem Shutdown.stands_of_answer {task : Interleaving.Task S} {marked : Bool} {reply : Reply S}
    {d d' : Shutdown S} (h : d.status.answer reply = some d')
    (clears' : d'.Clears (o.map (.heard task reply))) (clears : d.Clears o)
    (was : d.Stands home byWorker first marked o) :
    d'.Stands home byWorker first marked (o.map (.heard task reply)) := by
  cases d with
  | closeIdle n todo =>
    cases todo with
    | nil => cases h
    | cons session rest =>
      cases reply with
      | closed outcome =>
        obtain ⟨isFirst, unmarked, own⟩ := was
        have own := Clearance.ofIdle_map (f := .heard task (.closed outcome))
          (fun _ => ⟨rfl, rfl⟩) own
        cases h
        cases outcome with
        | value _ => exact ⟨isFirst, unmarked, own⟩
        | error e => exact e.elim
        | panic text =>
          obtain ⟨cl, rfl, -⟩ := clears
          exact ⟨fun _ => .brokenOff (own _ rfl) (clears' _ rfl) unmarked,
            fun isLater => (isLater isFirst).elim⟩
      | _ => cases h
  | _ => cases h

namespace Interleaving

variable {past since : List (State S × Choice S)} {s₀ s s' : State S} {c : Choice S}
  {i : Nat} {call : Call S}

theorem Task.stands_of_step {e : State S × Choice S} {t t' : Task S}
    (h : t.step v p = some (p', t')) (built : e.1.pool? home = some p)
    (worker : v.byWorker = byWorker)
    (isOpen : p.closed = false → ¬first ∧ p.drained = false)
    (firsts : first' ↔ first ∨ t.shutdown? = some .close ∧ p.closed = false)
    (clears : t.Clears o) (was : t.Stands home byWorker first p.drained o) :
    t'.Stands home byWorker first' p'.drained (Clearance.renew past e p p' o (t.haul? v p)) := by
  cases t with
  | shutDown d | drop d =>
    obtain ⟨u, hu, rfl⟩ := exists_of_map_step h
    exact Shutdown.stands_of_step hu built worker isOpen
      (firsts.trans (by simp [shutdown?])) clears was
  | returned => cases h
  | _ =>
    obtain ⟨u, -, rfl⟩ := exists_of_map_step h
    exact fun isFirst => was ((firsts.1 isFirst).resolve_right (by simp [shutdown?]))

theorem Task.stands_of_answer {marked : Bool} {reply : Reply S} {t t' : Task S}
    (h : t.answer reply = some t') (clears : t.Clears o)
    (was : t.Stands home byWorker first marked o) :
    t'.Stands home byWorker first marked (o.map (.heard t reply)) := by
  have clears' := Task.clears_of_answer h clears
  cases t with
  | shutDown d | drop d =>
    obtain ⟨u, hu, rfl⟩ := Option.map_eq_some_iff.1 h
    exact Shutdown.stands_of_answer hu clears' clears was
  | resize | returned => cases h
  | _ =>
    obtain ⟨u, -, rfl⟩ := Option.map_eq_some_iff.1 h
    exact was

/-- What a call tells about the shutdown that it is. -/
theorem Task.Stands.shutdown {marked : Bool} {t : Task S} {d : Shutdown S}
    (h : t.Stands home byWorker first marked o) (about : t.shutdown? = some d) :
    d.Stands home byWorker first marked o := by
  cases t with
  | shutDown | drop =>
    cases about
    exact h
  | _ => cases about

/-- The call has ended, and may have returned to its caller. -/
def Task.Over (t : Task S) : Prop := t.isEnded = true ∨ t = .returned

theorem Task.Over.step {t : Task S} (h : t.Over) : t.step v p = none := by
  rcases h with ended | rfl
  · cases ended_of_isEnded ended <;> rfl
  · rfl

theorem Task.Over.answer {t : Task S} {reply : Reply S} (h : t.Over) : t.answer reply = none := by
  rcases h with ended | rfl
  · cases ended_of_isEnded ended <;> cases reply <;> rfl
  · rfl

theorem Task.Over.ne_finish {t : Task S} (h : t.Over) : t.shutdown? ≠ some .finish := by
  rcases h with ended | rfl
  · cases ended_of_isEnded ended <;> rintro ⟨⟩
  · rintro ⟨⟩

theorem Task.Stands.firstEnd {marked : Bool} {t : Task S}
    (h : t.Stands home byWorker first marked o) (isOver : t.Over) (isFirst : first) :
    FirstEnd home byWorker marked o := by
  rcases isOver with ended | rfl
  · cases ended_of_isEnded ended with
    | shutDown | drop => exact h.1 isFirst
    | _ => exact (h isFirst).elim
  · exact h isFirst

/-- A mark that another call leaves. -/
theorem Task.Stands.mark {t : Task S} {marked : Bool} (h : t.Stands home byWorker first marked o)
    (isLater : ¬first) : t.Stands home byWorker first true o := by
  cases t with
  | shutDown d | drop d =>
    cases d with
    | close | awaitFirst => exact h
    | done => exact ⟨fun isFirst => (isLater isFirst).elim, fun _ => rfl⟩
    | _ => exact (isLater h.1).elim
  | returned => exact fun isFirst => (isLater isFirst).elim
  | _ => exact h

/-- The mark of a pool changes only when a shutdown comes to its end. -/
theorem drained_of_act (act : s.act c = some s') (built : s.pool? home = some p)
    (built' : s'.pool? home = some p') :
    p'.drained = p.drained ∨ p'.drained = true ∧ ∃ j call, c.caller? = some j ∧
      s.calls[j]? = some call ∧ call.home = home ∧ call.task.shutdown? = some .finish := by
  obtain ⟨q, hq, alters⟩ := alters_of_act act built
  cases hq.symm.trans built'
  cases alters with
  | rests => exact .inl rfl
  | @adjusts change => exact .inl change.drained
  | @works j connected contended call p' t' was at_ did =>
    rcases Task.drained_of_step did with same | finishing
    · exact .inl same
    · exact .inr ⟨Task.marks_of_finish did finishing, j, call, rfl, was, at_, finishing⟩

/-- The phase of every call tells who comes first. -/
theorem Run.stands (run : Run past s) (was : s.calls[i]? = some call)
    (built : s.pool? call.home = some p) :
    call.task.Stands call.home call.byWorker (firstShutdown? call.home past = some i) p.drained
      (clearance i past) := by
  induction run generalizing i call p with
  | start => simp at was
  | @next past s s' c run fresh act ih =>
    by_cases mine : c.caller? = some i
    · cases happens_of_act act with
      | @step j connected contended old site p' t' atWork found did =>
        cases mine
        have before := State.pool?_of_site found
        have after : (s.put i old site p' t').pool? old.home = some p' := by
          rw [State.pool?_put found, if_pos rfl]
        have hlt := (List.getElem?_eq_some_iff.1 atWork).1
        rw [State.put, List.getElem?_set_self hlt] at was
        cases was
        cases built.symm.trans after
        rw [clearance_of_step atWork found act]
        refine Task.stands_of_step did before rfl (fun isOpen => ?_) ?_ (run.clears atWork)
          (ih atWork before)
        · refine ⟨?_, run.unmarked_of_open before isOpen⟩
          rw [run.no_first_of_open before isOpen]
          rintro ⟨⟩
        · have closes : closer? old.home (s, .step i connected contended) = some i ↔
              old.task.shutdown? = some .close ∧ site.pool.closed = false := by
            simp [closer?_eq_some, shutdownPhase?_of_step atWork, before, Choice.caller?]
          rw [first_cons, closes]
          refine or_congr_right (and_iff_right_of_imp fun closes => ?_)
          exact run.no_first_of_open before closes.2
      | @answer j reply old site t' atWork found did =>
        cases mine
        have before := State.pool?_of_site found
        have hlt := (List.getElem?_eq_some_iff.1 atWork).1
        rw [State.put, List.getElem?_set_self hlt] at was
        cases was
        rw [clearance_of_answer atWork, first_of_phase_ne (by rintro ⟨⟩)]
        have same : s.pool? old.home = some p :=
          (State.pool?_of_set_same found rfl).symm.trans built
        exact Task.stands_of_answer did (run.clears atWork) (ih atWork same)
      | @finish j old atWork ended =>
        cases mine
        have hlt := (List.getElem?_eq_some_iff.1 atWork).1
        rw [List.getElem?_set_self hlt] at was
        cases was
        rw [clearance_of_finish, first_of_phase_ne (by rintro ⟨⟩)]
        have stands := ih atWork built
        exact stands.firstEnd (.inl ended)
      | pass | build | adjust | begin | drop => cases mine
    · rw [clearance_of_caller_ne mine, first_of_caller_ne mine]
      rcases same_of_caller_ne act mine was with same | new
      · obtain ⟨q, before⟩ := run.grounded.exists_pool same
        have stands := ih same before
        rcases drained_of_act act before built with
          unchanged | ⟨marked, j, other, caller, atWork, at_, finishing⟩
        · rw [unchanged]
          exact stands
        · -- only the first shutdown comes that far
          rw [marked]
          refine stands.mark fun isFirst => mine ?_
          obtain ⟨first, -⟩ := (ih atWork (at_ ▸ before)).shutdown finishing
          rw [caller, ← first, at_, isFirst]
      · have later : firstShutdown? call.home past ≠ some i := by
          intro first
          obtain ⟨-, old, was, -⟩ := run.closed_of_first first
          cases new.symm.trans was
        cases begins_of_act act new was <;> exact later

/-! ## Those who come later -/

def Exited (i : Nat) (s : State S) : Prop := ∃ call, s.calls[i]? = some call ∧ call.task.Over

theorem Exited.next (h : Exited i s) (act : s.act c = some s') : Exited i s' := by
  obtain ⟨call, was, isOver⟩ := h
  obtain ⟨call', is⟩ := exists_call_of_act act was
  refine ⟨call', is, ?_⟩
  cases came_of_act act is with
  | stays same =>
    cases was.symm.trans same
    exact isOver
  | begins new => cases was.symm.trans new
  | steps same at_ found did =>
    cases was.symm.trans same
    cases isOver.step.symm.trans did
  | hears same at_ did =>
    cases was.symm.trans same
    cases isOver.answer.symm.trans did
  | ends same ended last => exact .inr last

/-- Nobody marks the pool after the first shutdown, and nobody takes the mark away. -/
theorem Leads.drained_of_exited (run₀ : Run past s₀) (leads : Leads s₀ since s)
    (exited : Exited i s₀) (first : firstShutdown? home past = some i) {p₀ p : Pool S}
    (built₀ : s₀.pool? home = some p₀)
    (built : s.pool? home = some p) : Exited i s ∧ p.drained = p₀.drained := by
  induction leads generalizing p with
  | here =>
    cases built₀.symm.trans built
    exact ⟨exited, rfl⟩
  | @next since s s' c leads fresh act ih =>
    obtain ⟨q, before⟩ := leads.exists_pool? built₀
    obtain ⟨exited', same⟩ := ih before
    refine ⟨exited'.next act, ?_⟩
    rcases drained_of_act act before built with unchanged | ⟨-, j, other, -, atWork, rfl, finishing⟩
    · exact unchanged.trans same
    · -- the call that comes to its end is the first one, which has exited
      have run := run₀.append leads
      obtain ⟨isFirst, -⟩ := (run.stands atWork before).shutdown finishing
      cases (first_append since first).symm.trans isFirst
      obtain ⟨call, was, isOver⟩ := exited'
      cases was.symm.trans atWork
      exact absurd finishing isOver.ne_finish

theorem Task.exists_step_of_awaitFirst {t : Task S} (about : t.shutdown? = some .awaitFirst)
    (marked : p.drained = true) :
    ∃ t', t.step v p = some (p, t') ∧ t'.shutdown? = some (.done (.value ())) := by
  cases t with
  | shutDown d =>
    cases about
    exact ⟨.shutDown (.done (.value ())), by simp [step, Shutdown.step, marked], rfl⟩
  | drop d =>
    cases about
    exact ⟨.drop (.done (.value ())), by simp [step, Shutdown.step, marked], rfl⟩
  | _ => cases about

/-- The shutdowns of the pool that wait for the first one cannot go on, and nobody else is past
it. -/
structure Barred (home : PoolId) (i : Nat) (s : State S) : Prop where
  unmarked : (s.pool? home).map (·.drained) = some false
  later : ∀ (j : Nat) (call : Call S) (d : Shutdown S), j ≠ i → s.calls[j]? = some call →
    call.home = home → call.task.shutdown? = some d → d = .close ∨ d = .awaitFirst
  asleep : ∀ (j : Nat) (call : Call S), s.calls[j]? = some call → call.home = home →
    call.task.shutdown? = some .awaitFirst →
    ∀ connected contended, s.act (.step j connected contended) = none

/-- Whoever waits for the first shutdown of the pool can go on, and returns. -/
structure Passable (home : PoolId) (s : State S) : Prop where
  marked : (s.pool? home).map (·.drained) = some true
  free : ∀ (j : Nat) (call : Call S), s.calls[j]? = some call → call.home = home →
    call.task.shutdown? = some .awaitFirst → ∀ connected contended, ∃ s' call',
      s.act (.step j connected contended) = some s' ∧ s'.calls[j]? = some call' ∧
      call'.task.shutdown? = some (.done (.value ()))

theorem Run.barred (run : Run past s) (first : firstShutdown? home past = some i)
    (built : s.pool? home = some p) (unmarked : p.drained = false) : Barred home i s where
  unmarked := by rw [built, Option.map_some, unmarked]
  later j call d other was at_ about := by
    subst at_
    have isLater : firstShutdown? call.home past ≠ some j := by
      rw [first]
      exact fun same => other (Option.some.inj same).symm
    have stands := (run.stands was built).shutdown about
    cases d with
    | close => exact .inl rfl
    | awaitFirst => exact .inr rfl
    | done outcome =>
      rw [stands.2 isLater] at unmarked
      cases unmarked
    | _ => exact absurd stands.1 isLater
  asleep j call was at_ about connected contended := by
    subst at_
    cases act : s.act (.step j connected contended) with
    | none => rfl
    | some s' =>
      cases happens_of_act act with
      | step atWork found did =>
      cases was.symm.trans atWork
      cases built.symm.trans (State.pool?_of_site found)
      obtain ⟨d', -, did⟩ := Task.shutdown_step about did
      simp [Shutdown.step, unmarked] at did

theorem State.passable (built : s.pool? home = some p) (marked : p.drained = true) :
    Passable home s where
  marked := by rw [built, Option.map_some, marked]
  free j call was at_ about connected contended := by
    subst at_
    simp only [State.pool?, Option.map_eq_some_iff] at built
    obtain ⟨site, found, rfl⟩ := built
    obtain ⟨t', did, about'⟩ :=
      Task.exists_step_of_awaitFirst (v := s.view call connected contended) about marked
    have hlt := (List.getElem?_eq_some_iff.1 was).1
    refine ⟨s.put j call site site.pool t', _, ?_, List.getElem?_set_self hlt, about'⟩
    simp [State.act, State.advance, was, found, did]

theorem Leads.barred (run₀ : Run past s₀) (leads : Leads s₀ since s) (exited : Exited i s₀)
    (first : firstShutdown? home past = some i) (built₀ : s₀.pool? home = some p)
    (unmarked : p.drained = false) :
    Barred home i s := by
  obtain ⟨q, built⟩ := leads.exists_pool? built₀
  obtain ⟨-, same⟩ := leads.drained_of_exited run₀ exited first built₀ built
  exact (run₀.append leads).barred (first_append since first) built (same.trans unmarked)

theorem Leads.passable (run₀ : Run past s₀) (leads : Leads s₀ since s) (exited : Exited i s₀)
    (first : firstShutdown? home past = some i) (built₀ : s₀.pool? home = some p)
    (marked : p.drained = true) :
    Passable home s := by
  obtain ⟨q, built⟩ := leads.exists_pool? built₀
  obtain ⟨-, same⟩ := leads.drained_of_exited run₀ exited first built₀ built
  exact State.passable built (same.trans marked)

/-! ## Main result -/

/-- What has become of the first shutdown of a pool, and what becomes of the others from then on. -/
structure FirstOver (home : PoolId) (i : Nat) (byWorker : Bool)
    (past : List (State S × Choice S)) (s : State S) (p : Pool S) : Prop where
  how : FirstEnd home byWorker p.drained (clearance i past)
  origin : ∀ cl ∈ clearance i past, Origin home past cl
  /-- If it has left its mark, nobody waits for it in vain. -/
  passable : p.drained = true → ∀ since s', Leads s since s' → Passable home s'
  /-- If it has not, no other shutdown of the pool ever returns. -/
  barred : p.drained = false → ∀ since s', Leads s since s' → Barred home i s'

/-- The first shutdown of a pool ends with all the sessions closed that were idle, and then it
leaves its mark; or it breaks off, at one of the sessions or on the pool's own worker, and then
nobody ever leaves one. -/
theorem end_of_first_shutdown (run : Run past s) (first : firstShutdown? home past = some i)
    (built : s.pool? home = some p) (was : s.calls[i]? = some call) (isOver : call.task.Over) :
    FirstOver home i call.byWorker past s p := by
  obtain ⟨-, call', was', rfl⟩ := run.closed_of_first first
  cases was.symm.trans was'
  have exited : Exited i s := ⟨call, was, isOver⟩
  exact ⟨(run.stands was built).firstEnd isOver first, fun _ is => run.origin was is,
    fun marked _ _ leads => leads.passable run exited first built marked,
    fun unmarked _ _ leads => leads.barred run exited first built unmarked⟩

/-- Two sessions are idle when the pool is shut down, and the first one breaks off while it is
closed. Then the owner gives the pool up. -/
def wedging : List (Choice Nat) :=
  List.flatten [
    [.build { settings := { maxConnections := 2 }, source := some .server }],
    lending 1 10, lending 2 20,
    [.begin (.dropLease 0)], steps 3 4, [.finish 3, .begin (.dropLease 0)], steps 4 4,
    [.finish 4, .begin (.shutDown 0 false)], steps 5 2, steps 0 3, steps 5 3,
    [.answer 5 (.closed (.panic "broken")), .finish 5, .drop 0 false], steps 6 1]

theorem end_of_first_shutdown_of_wedging :
    ∃ past s p call, Run (S := Nat) past s ∧ firstShutdown? 0 past = some 5 ∧ s.pool? 0 = some p ∧
      s.calls[5]? = some call ∧ call.task.Over ∧ FirstOver 0 5 call.byWorker past s p := by
  have h : ((play wedging).any fun r => decide (firstShutdown? 0 r.1 = some 5 ∧ ∃ p ∈ r.2.pool? 0,
      ∃ call ∈ r.2.calls[5]?, call.task = .returned)) = true := by decide +kernel
  obtain ⟨⟨past, s⟩, played, h⟩ := (Option.any_eq_true _ _).1 h
  obtain ⟨first, p, built, call, was, returned⟩ := of_decide_eq_true h
  have run := run_of_play played
  exact ⟨past, s, p, call, run, first, built, was, .inr returned,
    end_of_first_shutdown run first built was (.inr returned)⟩

/-- The first shutdown has returned to its caller, and neither are all the sessions closed that were
idle, nor is the pool marked. The call that gives the pool up waits for the mark, and it will wait
forever. -/
theorem exists_barred :
    ∃ past s p, Run (S := Nat) past s ∧ s.pool? 0 = some p ∧ firstShutdown? 0 past = some 5 ∧
      s.calls[5]?.map (·.task) = some .returned ∧
      (∃ cl ∈ clearance 5 past, cl.haul = .drained [10, 20]) ∧
      closings past s = [(0, 10)] ∧ p.drained = false ∧
      s.calls[6]?.map (·.task) = some (.drop .awaitFirst) ∧
      ∀ since s', Leads s since s' → Barred 0 5 s' := by
  have h : ((play wedging).any fun r => decide (∃ p ∈ r.2.pool? 0, firstShutdown? 0 r.1 = some 5 ∧
      r.2.calls[5]?.map (·.task) = some .returned ∧
      (∃ cl ∈ clearance 5 r.1, cl.haul = .drained [10, 20]) ∧
      closings r.1 r.2 = [(0, 10)] ∧ p.drained = false ∧
      r.2.calls[6]?.map (·.task) = some (.drop .awaitFirst))) = true := by
    decide +kernel
  obtain ⟨⟨past, s⟩, played, h⟩ := (Option.any_eq_true _ _).1 h
  obtain ⟨p, built, first, returned, taken, closed, unmarked, waits⟩ := of_decide_eq_true h
  have run := run_of_play played
  obtain ⟨call, was, task⟩ := Option.map_eq_some_iff.1 returned
  exact ⟨past, s, p, run, built, first, returned, taken, closed, unmarked, waits,
    fun since s' leads => leads.barred run ⟨call, was, .inr task⟩ first built unmarked⟩

end Interleaving

end ConnectionPool
