import ConnectionPool.Proofs.Following
import ConnectionPool.Proofs.Trail

set_option autoImplicit false

/-! # Later states

What is true from some moment on is said of the states that the moment leads to (`Leads`). A
relation between shared states of a pool that no change of a ledger breaks holds between a state and
all later ones (`Leads.kept`).

A call that was not there before has begun, and it has begun in the first phase of its operation
(`Begins`). -/

namespace ConnectionPool

namespace Interleaving

variable {S : Type} {home : PoolId} {past since : List (State S × Choice S)} {s₀ s s' : State S}
  {c : Choice S} {p₀ p : Pool S}

/-! ## From one state to a later one -/

/-- The states and choices that lead from one state to another, the latest first. -/
inductive Leads (s₀ : State S) : List (State S × Choice S) → State S → Prop
  | here : Leads s₀ [] s₀
  | next {since : List (State S × Choice S)} {s s' : State S} {c : Choice S}
      (leads : Leads s₀ since s) (fresh : c.Fresh s) (act : s.act c = some s') :
      Leads s₀ ((s, c) :: since) s'

theorem Run.append (run : Run past s₀) (leads : Leads s₀ since s) : Run (since ++ past) s := by
  induction leads with
  | here => exact run
  | next leads fresh act ih => exact .next ih fresh act

theorem Leads.after (fresh : c.Fresh s₀) (act : s₀.act c = some s') (leads : Leads s' since s) :
    Leads s₀ (since ++ [(s₀, c)]) s := by
  induction leads with
  | here => exact .next .here fresh act
  | next leads fresh' act' ih => exact .next ih fresh' act'

/-- What leads on from a state begins with a choice made there. -/
theorem Leads.of_append_singleton {later : List (State S × Choice S)}
    (leads : Leads s₀ (later ++ [(s₀, c)]) s) : ∃ s₁, s₀.act c = some s₁ ∧ Leads s₁ later s := by
  generalize hsince : later ++ [(s₀, c)] = since at leads
  induction leads generalizing later with
  | here => simp at hsince
  | @next since s s' c' leads fresh act ih =>
    cases later with
    | nil =>
      cases hsince
      cases leads
      exact ⟨s', act, .here⟩
    | cons e later =>
      cases hsince
      obtain ⟨s₁, act₁, leads₁⟩ := ih rfl
      exact ⟨s₁, act₁, .next leads₁ fresh act⟩

/-- A choice that a run has made led from one state of the run to all that came after. -/
theorem Run.exists_leads {e : State S × Choice S} (run : Run past s) (h : e ∈ past) :
    ∃ before later s₁, past = later ++ e :: before ∧ Run before e.1 ∧ e.2.Fresh e.1 ∧
      e.1.act e.2 = some s₁ ∧ Leads s₁ later s := by
  induction run with
  | start => simp at h
  | @next past s s' c run fresh act ih =>
    rcases List.mem_cons.1 h with rfl | h
    · exact ⟨past, [], s', rfl, run, fresh, act, .here⟩
    · obtain ⟨before, later, s₁, rfl, run₁, fresh₁, act₁, leads⟩ := ih h
      exact ⟨before, _ :: later, s₁, rfl, run₁, fresh₁, act₁, .next leads fresh act⟩

theorem leads_of_follow [DecidableEq S] {past' : List (State S × Choice S)}
    {script : List (Choice S)} (h : follow past s₀ script = some (past', s)) :
    ∃ since, past' = since ++ past ∧ Leads s₀ since s := by
  induction script generalizing past s₀ with
  | nil =>
    cases h
    exact ⟨[], rfl, .here⟩
  | cons c rest ih =>
    simp only [follow] at h
    split at h
    · next fresh =>
      split at h
      · next s₁ act =>
        obtain ⟨since, rfl, leads⟩ := ih h
        exact ⟨since ++ [(s₀, c)], by simp, leads.after fresh act⟩
      · cases h
    · cases h

instance : Decidable (Calm past) := inferInstanceAs (Decidable (∀ e ∈ past, e.2.breaksOff = false))

theorem Calm.of_cons {e : State S × Choice S} (calm : Calm (e :: past)) : Calm past :=
  fun e he => calm e (List.mem_cons_of_mem _ he)

/-! ## The clock -/

/-- The clock never goes back. -/
theorem now_le_of_act (act : s.act c = some s') : s.now ≤ s'.now := by
  cases happens_of_act act with
  | pass d =>
    simp only [Instant.le_def, Instant.after]
    omega
  | _ => exact Int.le_refl _

theorem Run.now_le (run : Run past s) : ∀ e ∈ past, e.1.now ≤ s.now := by
  induction run with
  | start => simp
  | @next past s s' c run fresh act ih =>
    intro e he
    rcases List.mem_cons.1 he with rfl | he
    · exact now_le_of_act act
    · exact Int.le_trans (ih e he) (now_le_of_act act)

/-! ## Pools in later states -/

/-- What a choice may do to the shared state of a pool that is there already. -/
inductive Alters (s : State S) (home : PoolId) (p : Pool S) : Choice S → Pool S → Prop
  | rests {c : Choice S} : Alters s home p c p
  | adjusts {change : Adjustment} : Alters s home p (.adjust home change) (change.apply p)
  | works {i : Nat} {connected : S → Bool} {contended : Bool} {call : Call S}
      {p' : Pool S} {t' : Task S} (was : s.calls[i]? = some call) (at_ : call.home = home)
      (did : call.task.step (s.view call connected contended) p = some (p', t')) :
      Alters s home p (.step i connected contended) p'

theorem alters_of_act (act : s.act c = some s') (built : s.pool? home = some p) :
    ∃ p', s'.pool? home = some p' ∧ Alters s home p c p' := by
  have rests (h : s'.pool? home = s.pool? home) :
      ∃ p', s'.pool? home = some p' ∧ Alters s home p c p' :=
    ⟨p, h.trans built, .rests⟩
  cases happens_of_act act with
  | pass | begin | finish => exact rests rfl
  | build =>
    refine rests ?_
    simp only [State.pool?, List.getElem?_append_left (State.lt_of_pool? built)]
  | drop found => exact rests (State.pool?_of_set_same found rfl)
  | answer atWork found did => exact rests (State.pool?_of_set_same found rfl)
  | @adjust at_ change site found =>
    by_cases hh : home = at_
    · subst hh
      cases built.symm.trans (State.pool?_of_site found)
      exact ⟨_, by rw [State.pool?_of_set found, if_pos rfl], .adjusts⟩
    · exact rests (by rw [State.pool?_of_set found, if_neg hh])
  | @step i connected contended call site p' t' atWork found did =>
    by_cases hh : home = call.home
    · subst hh
      cases built.symm.trans (State.pool?_of_site found)
      exact ⟨p', by rw [State.pool?_put found, if_pos rfl], .works atWork rfl did⟩
    · exact rests (by rw [State.pool?_put found, if_neg hh])

theorem Leads.exists_pool? (leads : Leads s₀ since s) (built₀ : s₀.pool? home = some p₀) :
    ∃ p, s.pool? home = some p := by
  induction leads with
  | here => exact ⟨p₀, built₀⟩
  | next leads fresh act ih =>
    obtain ⟨q, hq⟩ := ih
    obtain ⟨p, built, -⟩ := alters_of_act act hq
    exact ⟨p, built⟩

/-- What no change of a ledger breaks holds between a shared state and every later one. -/
theorem Leads.kept {R : Pool S → Pool S → Prop} (refl : ∀ p, R p p)
    (trans : ∀ p q r, R p q → R q r → R p r)
    (change : ∀ d d' : Ledger S, d.Change d' → R d.pool d'.pool) (run₀ : Run past s₀)
    (leads : Leads s₀ since s) (built₀ : s₀.pool? home = some p₀) (built : s.pool? home = some p) :
    R p₀ p := by
  induction leads generalizing p with
  | here =>
    cases built₀.symm.trans built
    exact refl p₀
  | next leads fresh act ih =>
    obtain ⟨q, hq⟩ := leads.exists_pool? built₀
    obtain ⟨p', built', moved⟩ := change_of_act past (run₀.append leads).grounded fresh act hq
    cases built.symm.trans built'
    exact trans _ _ _ (ih hq) (change _ _ moved)

/-- What holds of a pool that has just appeared, and is kept by everything that happens, holds in
every run. -/
theorem Run.pool_induction {motive : List (State S × Choice S) → State S → Pool S → Prop}
    (new : ∀ {past s s' p} {c : Choice S}, Run past s → s.act c = some s' → s.pool? home = none →
      s'.pool? home = some p → motive ((s, c) :: past) s' p)
    (next : ∀ {past s s' p p'} {c : Choice S}, Run past s → c.Fresh s → s.act c = some s' →
      s.pool? home = some p → s'.pool? home = some p' → motive past s p →
      motive ((s, c) :: past) s' p')
    (run : Run past s) (built : s.pool? home = some p) : motive past s p := by
  induction run generalizing p with
  | start now => simp [State.pool?] at built
  | @next past s s' c run fresh act ih =>
    cases old : s.pool? home with
    | none => exact new run act old built
    | some q => exact next run fresh act old built (ih old)

/-- A pool that is not there yet was not there before. -/
theorem Run.pool?_eq_none (run : Run past s) (h : s.pool? home = none) :
    ∀ e ∈ past, e.1.pool? home = none := by
  induction run with
  | start => simp
  | @next past s s' c run fresh act ih =>
    have old := run.pool?_eq_none_of_act fresh act h
    intro e he
    rcases List.mem_cons.1 he with rfl | he
    · exact old
    · exact ih old e he

/-! ## How calls begin, and that they stay -/

/-- A call keeps its number for good. -/
theorem exists_call_of_act (act : s.act c = some s') {i : Nat} {call : Call S}
    (was : s.calls[i]? = some call) : ∃ call', s'.calls[i]? = some call' := by
  have hlt := (List.getElem?_eq_some_iff.1 was).1
  have longer : s.calls.length ≤ s'.calls.length := by
    cases happens_of_act act with
    | pass | adjust => exact Nat.le_refl _
    | build | begin | drop => simp
    | step | answer | finish => simp [State.put]
  exact ⟨_, List.getElem?_eq_getElem (Nat.lt_of_lt_of_le hlt longer)⟩

/-- A call stays on its pool, and with whoever makes it. -/
theorem same_of_act (act : s.act c = some s') {i : Nat} {call call' : Call S}
    (was : s.calls[i]? = some call) (is : s'.calls[i]? = some call') :
    call'.home = call.home ∧ call'.byWorker = call.byWorker := by
  have hlt := (List.getElem?_eq_some_iff.1 was).1
  have added {new : Call S} (is : (s.calls ++ [new])[i]? = some call') :
      call'.home = call.home ∧ call'.byWorker = call.byWorker := by
    rw [List.getElem?_append_left hlt] at is
    cases was.symm.trans is
    exact ⟨rfl, rfl⟩
  have gone {j : Nat} {old : Call S} {task : Task S} (atWork : s.calls[j]? = some old)
      (is : (s.calls.set j { old with task })[i]? = some call') :
      call'.home = call.home ∧ call'.byWorker = call.byWorker := by
    rw [List.getElem?_set] at is
    split at is
    · next same =>
      subst same
      cases was.symm.trans atWork
      rw [if_pos hlt] at is
      cases is
      exact ⟨rfl, rfl⟩
    · cases was.symm.trans is
      exact ⟨rfl, rfl⟩
  cases happens_of_act act with
  | pass | adjust =>
    cases was.symm.trans is
    exact ⟨rfl, rfl⟩
  | build | begin | drop => exact added is
  | step atWork => exact gone atWork is
  | answer atWork => exact gone atWork is
  | finish atWork => exact gone atWork is

/-- The calls that a choice may add to those in progress. -/
inductive Begins (s : State S) : Choice S → Call S → Prop
  | acquire {c : Choice S} {home : PoolId} {a : Acquire S}
      (first : a = .readTimeout ∨ ∃ limit, a = .start limit) : Begins s c ⟨home, false, .acquire a⟩
  | giveBack {c : Choice S} {l : Lease S} {kept : Option (Lease S)} (own : l ∈ s.leases) :
      Begins s c ⟨l.home, false, .giveBack kept l.giveBack.2⟩
  | transfer {c : Choice S} {target source : Lease S} (own : target ∈ s.leases)
      (own' : source ∈ s.leases) : Begins s c ⟨source.home, false, .transfer (.start target source)⟩
  | surrender {c : Choice S} {l : Lease S} (own : l ∈ s.leases) :
      Begins s c ⟨l.home, false, .surrender (.start l)⟩
  | cycle {c : Choice S} {home : PoolId} {interval : Duration} {statement : String} :
      Begins s c ⟨home, false, .cycle (.select interval statement)⟩
  | work {c : Choice S} {home : PoolId} : Begins s c ⟨home, false, .work .start⟩
  | resize {c : Choice S} {home : PoolId} {count : UInt32} :
      Begins s c ⟨home, false, .resize (.write count)⟩
  | shutDown {c : Choice S} {home : PoolId} {byWorker : Bool} :
      Begins s c ⟨home, byWorker, .shutDown .close⟩
  | drop {home : PoolId} {byWorker : Bool} :
      Begins s (.drop home byWorker) ⟨home, byWorker, .drop .close⟩

/-- A call that begins has not acquired anything. -/
theorem Begins.acquires {call : Call S} (h : Begins s c call) :
    call.task.role.acquires = false := by
  refine Bool.eq_false_iff.2 fun acquires => ?_
  obtain ⟨a, task, -⟩ := Task.exists_acquire_of_role acquires
  cases h with
  | acquire first => rcases first with rfl | ⟨limit, rfl⟩ <;> cases acquires
  | _ => cases task

/-- A call that begins takes no part up that only acquirers play. -/
theorem Begins.mem_roles {call : Call S} (h : Begins s c call)
    (calls : s'.calls = s.calls ++ [call]) {r : Role S} (acquires : r.acquires = true)
    (mem : r ∈ s'.roles home) : r ∈ s.roles home := by
  rw [State.roles, calls, List.flatMap_append, List.flatMap_singleton] at mem
  rcases List.mem_append.1 mem with mem | mem
  · exact mem
  · unfold Call.roleAt at mem
    split at mem
    · rw [Role.eq_of_mem_toList mem, h.acquires] at acquires
      cases acquires
    · cases mem

theorem begins_of_enter {request : Request} {leases : List (Lease S)} {call : Call S}
    (h : s.enter request = some (leases, call)) : Begins s c call := by
  cases request with
  | acquire | acquireWithin | tryAcquire =>
    simp only [State.enter] at h
    split at h <;> cases h
    exact .acquire (by simp [Acquire.patient, Acquire.within, Acquire.impatient])
  | resize =>
    simp only [State.enter] at h
    split at h <;> cases h
    exact .resize
  | shutDown =>
    simp only [State.enter] at h
    split at h <;> cases h
    exact .shutDown
  | cycle =>
    simp only [State.enter] at h
    split at h <;> cases h
    exact .cycle
  | release | dropLease =>
    obtain ⟨l, found, h⟩ := Option.bind_eq_some_iff.1 h
    cases h
    exact .giveBack (List.mem_of_getElem? found)
  | surrender =>
    obtain ⟨l, found, h⟩ := Option.bind_eq_some_iff.1 h
    cases h
    exact .surrender (List.mem_of_getElem? found)
  | transfer =>
    obtain ⟨source, found, h⟩ := Option.bind_eq_some_iff.1 h
    obtain ⟨target, found', h⟩ := Option.bind_eq_some_iff.1 h
    cases h
    exact .transfer (List.mem_of_mem_eraseIdx (List.mem_of_getElem? found'))
      (List.mem_of_getElem? found)

/-- A call that was not there before was begun by the choice. -/
theorem began_of_act (act : s.act c = some s') {i : Nat} {call : Call S} (new : s.calls[i]? = none)
    (h : s'.calls[i]? = some call) :
    (∃ builder, c = .build builder ∧ call = ⟨s.sites.length, false, .work .start⟩) ∨
      (∃ request leases, c = .begin request ∧ s.enter request = some (leases, call)) ∨
      ∃ home byWorker, c = .drop home byWorker ∧ call = ⟨home, byWorker, .drop .close⟩ := by
  have added {call' : Call S} (h : (s.calls ++ [call'])[i]? = some call) : call = call' := by
    rw [List.getElem?_append_right (List.getElem?_eq_none_iff.1 new)] at h
    exact List.mem_singleton.1 (List.mem_of_getElem? h)
  -- a call that goes on was there before
  have gone {call' : Call S} {j : Nat} (h : (s.calls.set j call')[i]? = some call) : False := by
    rw [List.getElem?_eq_none_iff.2 (by simpa using List.getElem?_eq_none_iff.1 new)] at h
    cases h
  cases happens_of_act act with
  | pass | adjust => cases new.symm.trans h
  | build => exact .inl ⟨_, rfl, added h⟩
  | begin admitted =>
    obtain rfl := added h
    exact .inr (.inl ⟨_, _, rfl, admitted⟩)
  | drop => exact .inr (.inr ⟨_, _, rfl, added h⟩)
  | step | answer | finish => exact (gone h).elim

theorem begins_of_act (act : s.act c = some s') {i : Nat} {call : Call S} (new : s.calls[i]? = none)
    (h : s'.calls[i]? = some call) : Begins s c call := by
  rcases began_of_act act new h with ⟨builder, rfl, rfl⟩ | ⟨request, leases, rfl, admitted⟩ |
    ⟨home, byWorker, rfl, rfl⟩
  · exact .work
  · exact begins_of_enter admitted
  · exact .drop

end Interleaving

end ConnectionPool
