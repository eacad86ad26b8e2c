import ConnectionPool.Proofs.Exclusion
import ConnectionPool.Proofs.Shutdowns

set_option autoImplicit false

/-! # The worker is gone before the drain

The first shutdown of a pool waits for the heartbeat worker, and only then takes the idle sessions.
A pool has one worker, and a worker that has stopped does not begin anew. So where nobody else runs
cycles on the pool, no session is under probe when the idle ones are taken, none while they are
closed, and none ever after (`worker_gone_before_drain`). It does not matter what the worker was at
when it was told to stop, nor how the probes of its last cycle ended. -/

namespace ConnectionPool

/-- The session that is being queried. -/
def Status.querying? {S τ ε α : Type} : Status S τ ε α → Option S
  | .querying session _ _ => some session
  | _ => none

variable {S : Type} {v : View S} {p p' : Pool S}

/-- Whether a shutdown takes the idle sessions, or closes those that it has taken. -/
def Shutdown.sweeps : Shutdown S → Bool
  | drain | closeIdle _ _ => true
  | _ => false

/-- Whether a shutdown has waited for the worker. -/
def Shutdown.pastWorker : Shutdown S → Bool
  | announce | drain | closeIdle _ _ | count _ | readPauses | look _ _ _
  | asleep _ _ _ _ | finish => true
  | _ => false

theorem Shutdown.pastWorker_of_sweeps {d : Shutdown S} (h : d.sweeps = true) :
    d.pastWorker = true := by
  cases d with
  | drain | closeIdle => rfl
  | _ => cases h

/-- A shutdown goes on from the worker when the worker has stopped. -/
theorem Shutdown.pastWorker_of_step {d d' : Shutdown S} (h : d.step v p = some (p', d'))
    (past : d'.pastWorker = true) : d.pastWorker = true ∨ p.workerStopped = true ∧ p' = p := by
  cases d with
  | close =>
    cases h
    split at past <;> cases past
  | awaitFirst =>
    simp only [step] at h
    split at h <;> cases h
    cases past
  | awaitWorker =>
    simp only [step] at h
    split at h
    · cases h
      cases past
    · split at h <;> cases h
      exact .inr ⟨‹_›, rfl⟩
  | stopWorker =>
    cases h
    cases past
  | done => cases h
  | _ => exact .inl rfl

theorem Shutdown.pastWorker_of_answer {d d' : Shutdown S} {reply : Interleaving.Reply S}
    (h : d.status.answer reply = some d') : d.pastWorker = true := by
  cases d with
  | closeIdle => rfl
  | _ => cases h

/-- A session that is still marked when verdicts were settled was marked before, and none was its
own. -/
theorem Pool.find?_endProbes_of_probing {verdicts : List (SessionKey × Verdict)} {now : Instant}
    {key : SessionKey} {r : Record S} (found : (p.endProbes verdicts now).1.idle.find? key = some r)
    (marked : r.standing = .probing) :
    ∃ was, p.idle.find? key = some was ∧ was.standing = .probing ∧ key ∉ verdicts.map (·.1) := by
  obtain ⟨judged, -⟩ := Roster.find?_of_filter found
  simp only [Roster.find?_map, Option.map_eq_some_iff] at judged
  obtain ⟨was, before, rfl⟩ := judged
  unfold judge at marked
  split at marked
  · split at marked
    · next verdict _ _ =>
      -- a verdict makes an end of the mark
      cases healthy : verdict.isHealthy <;>
        simp [Record.endProbe, Record.standing, healthy] at marked
    · next other => exact (other marked).elim
  · next none => exact ⟨was, before, marked, Roster.lookup_eq_none_iff.1 none⟩

namespace Interleaving

/-- The session that a call is querying. -/
def Task.querying? : Task S → Option S
  | acquire a => a.status.querying?
  | giveBack _ r => r.status.querying?
  | transfer t => t.status.querying?
  | surrender d => d.status.querying?
  | cycle b => b.status.querying?
  | work w => w.status.querying?
  | shutDown d | drop d => d.status.querying?
  | resize _ | returned => none

/-- Whether a choice begins a cycle of the pool for a caller. -/
def Choice.cycles (home : PoolId) : Choice S → Bool
  | .begin (.cycle at_ _ _) => at_ == home
  | _ => false

/-- All cycles of the pool are those of its own worker. -/
def CyclesItself (home : PoolId) (past : List (State S × Choice S)) : Prop :=
  ∀ e ∈ past, e.2.cycles home = false

instance {home : PoolId} {past : List (State S × Choice S)} : Decidable (CyclesItself home past) :=
  inferInstanceAs (Decidable (∀ e ∈ past, e.2.cycles home = false))

variable {home : PoolId} {past since : List (State S × Choice S)} {s s' : State S} {c : Choice S}

/-! ## Who queries -/

theorem Status.querying?_embed {τ σ ε ε' α α' : Type} (inside : τ → σ) (status : Status S τ ε α) :
    (status.embed inside fun _ => (.running : Status S σ ε' α')).querying? = status.querying? := by
  cases status <;> rfl

/-- Only a cycle queries a session. -/
theorem Task.querying?_of_heartbeat? {t : Task S} (h : t.heartbeat? = none) :
    t.querying? = none := by
  have giving (r : Return S) : r.status.querying? = none := by
    cases r with
    | release r =>
      rw [Return.status, Status.querying?_embed]
      cases r <;> rfl
    | _ => rfl
  cases t with
  | acquire a => cases a <;> rfl
  | giveBack kept r => exact giving r
  | transfer t =>
    cases t with
    | done => rfl
    | _ =>
      rw [querying?, Transfer.status, Status.querying?_embed]
      exact giving _
  | surrender d =>
    cases d with
    | detach session d =>
      rw [querying?, Surrender.status, Status.querying?_embed]
      cases d <;> rfl
    | _ => rfl
  | cycle b => cases h
  | work w =>
    cases w with
    | cycle => cases h
    | _ => rfl
  | shutDown d | drop d =>
    cases d with
    | closeIdle n todo => cases todo <;> rfl
    | _ => rfl
  | resize | returned => rfl

/-! ## Who runs cycles -/

/-- Callers ask for cycles, and never begin a worker. -/
theorem cycles_of_enter {request : Request} {leases : List (Lease S)} {call : Call S}
    (h : s.enter request = some (leases, call)) : (∀ w, call.task ≠ .work w) ∧
      ∀ b, call.task = .cycle b → (Choice.begin request : Choice S).cycles call.home = true := by
  cases request with
  | cycle home interval statement =>
    simp only [State.enter] at h
    split at h <;> cases h
    exact ⟨by simp, fun _ _ => beq_self_eq_true home⟩
  | acquire | acquireWithin | tryAcquire | resize | shutDown =>
    simp only [State.enter] at h
    split at h <;> cases h
    exact ⟨by simp, by simp⟩
  | release | dropLease | surrender =>
    obtain ⟨l, -, h⟩ := Option.bind_eq_some_iff.1 h
    cases h
    exact ⟨by simp, by simp⟩
  | transfer =>
    obtain ⟨l, -, h⟩ := Option.bind_eq_some_iff.1 h
    obtain ⟨l', -, h⟩ := Option.bind_eq_some_iff.1 h
    cases h
    exact ⟨by simp, by simp⟩

theorem Task.cycle_of_step {t : Task S} {b' : Heartbeat S} (h : t.step v p = some (p', .cycle b')) :
    ∃ b, t = .cycle b := by
  cases t with
  | cycle b => exact ⟨b, rfl⟩
  | returned => cases h
  | _ =>
    obtain ⟨u, -, same⟩ := exists_of_map_step h
    cases same

theorem Task.cycle_of_answer {t : Task S} {reply : Reply S} {b' : Heartbeat S}
    (h : t.answer reply = some (.cycle b')) : ∃ b, t = .cycle b := by
  cases t with
  | cycle b => exact ⟨b, rfl⟩
  | resize | returned => cases h
  | _ =>
    obtain ⟨u, -, same⟩ := Option.map_eq_some_iff.1 h
    cases same

theorem Task.work_of_step {t : Task S} {w' : Worker S} (h : t.step v p = some (p', .work w')) :
    ∃ w, t = .work w ∧ w.step v p = some (p', w') := by
  cases t with
  | work w =>
    obtain ⟨u, hu, same⟩ := exists_of_map_step h
    cases same
    exact ⟨w, rfl, hu⟩
  | returned => cases h
  | _ =>
    obtain ⟨u, -, same⟩ := exists_of_map_step h
    cases same

theorem Task.work_of_answer {t : Task S} {reply : Reply S} {w' : Worker S}
    (h : t.answer reply = some (.work w')) :
    ∃ w, t = .work w ∧ w.status.answer reply = some w' := by
  cases t with
  | work w =>
    obtain ⟨u, hu, same⟩ := Option.map_eq_some_iff.1 h
    cases same
    exact ⟨w, rfl, hu⟩
  | resize | returned => cases h
  | _ =>
    obtain ⟨u, -, same⟩ := Option.map_eq_some_iff.1 h
    cases same

/-- What a choice does to a worker that was there before. -/
inductive Worked (s : State S) (i : Nat) (call : Call S) (w w' : Worker S) : Choice S → Prop
  | rests {c : Choice S} (same : w' = w) (idle : ∀ past, stride? i past s c = none) :
      Worked s i call w w' c
  | steps {connected : S → Bool} {contended : Bool} {p p' : Pool S}
      (built : s.pool? call.home = some p)
      (did : w.step (s.view call connected contended) p = some (p', w')) :
      Worked s i call w w' (.step i connected contended)
  | hears {reply : Reply S} (did : w.status.answer reply = some w') :
      Worked s i call w w' (.answer i reply)

/-- The worker of a pool that is built already has been there before. -/
theorem worked_of_act (act : s.act c = some s') (built : s.pool? home = some p)
    {i : Nat} {call' : Call S} {w' : Worker S} (is : s'.calls[i]? = some call')
    (at_ : call'.home = home) (task : call'.task = .work w') :
    ∃ call w, s.calls[i]? = some call ∧ call.home = home ∧ call.task = .work w ∧
      Worked s i call w w' c := by
  cases came_of_act act is with
  | stays was idle => exact ⟨call', w', was, at_, task, .rests rfl idle⟩
  | begins new =>
    rcases began_of_act act new is with
      ⟨builder, -, rfl⟩ | ⟨request, leases, -, admitted⟩ | ⟨at', byWorker, -, rfl⟩
    · -- a worker begins with its pool, and this pool is older
      have older := State.lt_of_pool? built
      subst at_
      exact (Nat.lt_irrefl _ older).elim
    · exact ((cycles_of_enter admitted).1 w' task).elim
    · cases task
  | @steps connected contended call site q was same found did =>
    rw [task] at did
    obtain ⟨w, worker, stepped⟩ := Task.work_of_step did
    exact ⟨call, w, was, same ▸ at_, worker, .steps (State.pool?_of_site found) stepped⟩
  | @hears reply call was same did =>
    rw [task] at did
    obtain ⟨w, worker, answered⟩ := Task.work_of_answer did
    exact ⟨call, w, was, same ▸ at_, worker, .hears answered⟩
  | ends was ended last =>
    rw [last] at task
    cases task

/-- Only the worker runs cycles. -/
theorem Run.not_cycle (run : Run past s) (own : CyclesItself home past) {i : Nat} {call : Call S}
    (is : s.calls[i]? = some call) (at_ : call.home = home) (b : Heartbeat S) :
    call.task ≠ .cycle b := by
  induction run generalizing i call b with
  | start => simp at is
  | @next past s s' c run fresh act ih =>
    have own' : CyclesItself home past := fun e he => own e (List.mem_cons_of_mem _ he)
    intro task
    cases came_of_act act is with
    | stays was => exact ih own' was at_ b task
    | begins new =>
      rcases began_of_act act new is with ⟨builder, -, rfl⟩ | ⟨request, leases, rfl, admitted⟩ |
        ⟨at', byWorker, -, rfl⟩
      · cases task
      · have asked := (cycles_of_enter admitted).2 b task
        rw [at_, own _ List.mem_cons_self] at asked
        cases asked
      · cases task
    | steps was same found did =>
      rw [task] at did
      obtain ⟨b₀, cycle⟩ := Task.cycle_of_step did
      exact ih own' was (same ▸ at_) b₀ cycle
    | hears was same did =>
      rw [task] at did
      obtain ⟨b₀, cycle⟩ := Task.cycle_of_answer did
      exact ih own' was (same ▸ at_) b₀ cycle
    | ends was ended last =>
      rw [last] at task
      cases task

/-! ## The one worker of a pool -/

/-- The only call on a pool that was just built is that of its worker, and it is the latest call. -/
theorem Run.eq_of_new (run : Run past s) (act : s.act c = some s') (old : s.pool? home = none)
    (built' : s'.pool? home = some p) {i : Nat} {call : Call S} (is : s'.calls[i]? = some call)
    (at_ : call.home = home) : i = s.calls.length ∧ call.task = .work .start := by
  obtain ⟨builder, made, rfl, rfl⟩ := exists_build act old built'
  cases happens_of_act act
  rw [List.getElem?_append] at is
  split at is
  · exact (run.grounded.elsewhere old (List.mem_of_getElem? is) at_).elim
  · next late =>
    have within := (List.getElem?_eq_some_iff.1 is).1
    obtain rfl := List.mem_singleton.1 (List.mem_of_getElem? is)
    exact ⟨by simp at within; omega, rfl⟩

/-- A pool has one worker. -/
theorem Run.worker_unique (run : Run past s) (built : s.pool? home = some p) {i j : Nat}
    {call call' : Call S} {w w' : Worker S} (is : s.calls[i]? = some call)
    (is' : s.calls[j]? = some call') (at_ : call.home = home)
    (at_' : call'.home = home) (task : call.task = .work w) (task' : call'.task = .work w') :
    i = j := by
  induction run generalizing p call call' w w' with
  | start => simp at is
  | @next past s s' c run fresh act ih =>
    cases old : s.pool? home with
    | none =>
      rw [(run.eq_of_new act old built is at_).1, (run.eq_of_new act old built is' at_').1]
    | some q =>
      obtain ⟨old₁, w₁, was, at₁, worker, -⟩ := worked_of_act act old is at_ task
      obtain ⟨old₂, w₂, was', at₂, worker', -⟩ := worked_of_act act old is' at_' task'
      exact ih old was was' at₁ at₂ worker worker'

/-- The mark of a worker that has stopped is written by the worker, and it stays. -/
theorem workerStopped_of_act (act : s.act c = some s') (built : s.pool? home = some p)
    (built' : s'.pool? home = some p') :
    p'.workerStopped = p.workerStopped ∨ p'.workerStopped = true ∧ ∃ i connected contended call,
      c = .step i connected contended ∧ s.calls[i]? = some call ∧ call.home = home ∧
      call.task = .work .stop := by
  obtain ⟨q, hq, alters⟩ := alters_of_act act built
  cases hq.symm.trans built'
  cases alters with
  | rests => exact .inl rfl
  | @adjusts change => exact .inl (congrArg Prod.snd change.endings)
  | works was at_ did =>
    exact (Task.workerStopped_of_step did).imp_right fun ⟨last, marked⟩ =>
      ⟨marked, _, _, _, _, rfl, was, at_, last⟩

theorem Leads.workerStopped {s₀ : State S} {p₀ : Pool S} (leads : Leads s₀ since s)
    (built₀ : s₀.pool? home = some p₀) (stopped : p₀.workerStopped = true)
    (built : s.pool? home = some p) :
    p.workerStopped = true := by
  induction leads generalizing p with
  | here =>
    cases built₀.symm.trans built
    exact stopped
  | next leads fresh act ih =>
    obtain ⟨q, old⟩ := leads.exists_pool? built₀
    rcases workerStopped_of_act act old built with same | ⟨stopped', -⟩
    · exact same.trans (ih old)
    · exact stopped'

theorem not_workerStopped_of_new (act : s.act c = some s') (old : s.pool? home = none)
    (built' : s'.pool? home = some p) : p.workerStopped = false := by
  obtain ⟨builder, made, -, -⟩ := exists_build act old built'
  exact congrArg Prod.snd (endings_of_build made)

/-- The worker of a pool has come to its end when the pool says so. -/
theorem Run.worker_done (run : Run past s) (built : s.pool? home = some p)
    (stopped : p.workerStopped = true) {i : Nat} {call : Call S} {w : Worker S}
    (is : s.calls[i]? = some call) (at_ : call.home = home)
    (task : call.task = .work w) : w = .done := by
  induction run generalizing p i call w with
  | start => simp at is
  | @next past s s' c run fresh act ih =>
    cases old : s.pool? home with
    | none =>
      rw [not_workerStopped_of_new act old built] at stopped
      cases stopped
    | some q =>
      obtain ⟨call₀, w₀, was, at₀, worker, worked⟩ := worked_of_act act old is at_ task
      rcases workerStopped_of_act act old built with same | ⟨-, j, connected, contended, last,
        rfl, was', at', stops⟩
      · have isDone := ih old (same ▸ stopped) was at₀ worker
        subst isDone
        cases worked with
        | rests same => exact same
        | steps _ did => cases did
        | hears did => cases did
      · -- this is the step that stops the worker, and there is no other worker
        obtain rfl := run.worker_unique old was was' at₀ at' worker stops
        cases was.symm.trans was'
        cases worker.symm.trans stops
        cases worked with
        | rests _ idle =>
          have := idle []
          simp [stride?, was] at this
        | steps _ did =>
          cases did
          rfl

/-- A shutdown that is past the worker has found it stopped. -/
theorem Run.workerStopped (run : Run past s) (built : s.pool? home = some p)
    {i : Nat} {call : Call S} {d : Shutdown S} (is : s.calls[i]? = some call)
    (at_ : call.home = home) (about : call.task.shutdown? = some d)
    (later : d.pastWorker = true) : p.workerStopped = true := by
  induction run generalizing p i call d with
  | start => simp at is
  | @next past s s' c run fresh act ih =>
    have kept {q : Pool S} (old : s.pool? home = some q) (stopped : q.workerStopped = true) :
        p.workerStopped = true := by
      rcases workerStopped_of_act act old built with same | ⟨stopped', -⟩
      · exact same.trans stopped
      · exact stopped'
    cases came_of_act act is with
    | stays was =>
      obtain ⟨q, old⟩ := run.grounded.exists_pool was
      exact kept (at_ ▸ old) (ih (at_ ▸ old) was at_ about later)
    | begins new =>
      cases begins_of_act act new is with
      | shutDown | drop =>
        cases about
        cases later
      | _ => cases about
    | @steps connected contended call₀ site q was same found did =>
      have old : s.pool? home = some site.pool := (same.symm.trans at_) ▸ State.pool?_of_site found
      obtain ⟨d₀, about₀, stepped⟩ := Task.shutdown?_of_step did about
      refine kept old ?_
      rcases Shutdown.pastWorker_of_step stepped later with later₀ | ⟨stopped, -⟩
      · exact ih old was (same ▸ at_) about₀ later₀
      · exact stopped
    | @hears reply call₀ was same did =>
      obtain ⟨q, old⟩ := run.grounded.exists_pool was
      obtain ⟨d₀, about₀, answered⟩ := Task.shutdown?_of_answer did about
      have at₀ : call₀.home = home := same ▸ at_
      exact kept (at₀ ▸ old)
        (ih (at₀ ▸ old) was at₀ about₀ (Shutdown.pastWorker_of_answer answered))
    | ends was ended last =>
      rw [last] at about
      cases about

/-! ## Marked sessions -/

/-- An idle session that is marked is in the batch of a cycle. -/
theorem Run.mem_batches_of_marked (run : Run past s) (built : s.pool? home = some p)
    {key : SessionKey} {r : Record S} (found : p.idle.find? key = some r)
    (marked : r.standing = .probing) : key ∈ s.batches home := by
  induction run generalizing p r with
  | start now => simp [State.pool?] at built
  | @next past s s' c run fresh act ih =>
    cases old : s.pool? home with
    | none =>
      have idle : p.idle = .empty := (run.new_ledger act old built).idle
      rw [idle] at found
      cases found
    | some q =>
      cases progress_of_act act old built with
      | leaves pending judged probes rest =>
        refine (State.batches_leave pending judged).mem_iff.2 ?_
        rcases rest key r found with was | ⟨idle, -⟩
        · exact ih old was marked
        · rw [idle] at marked
          cases marked
      | selects pending judged probes pool =>
        subst pool
        refine (State.batches_select judged pending).mem_iff.2 (List.mem_append.2 ?_)
        simp only [Pool.beginProbes, Roster.find?_map, Option.map_eq_some_iff] at found
        obtain ⟨was, found, rfl⟩ := found
        split at marked
        · next due => exact .inl (Pool.mem_keys_beginProbes.2 ⟨was, found, due⟩)
        · exact .inr (ih old found marked)
      | hears pending judged probes pool =>
        subst pool
        exact (State.batches_hear pending judged).mem_iff.2 (ih old found marked)
      | @settles verdicts now pending judged probes pool =>
        subst pool
        obtain ⟨was, before, marked, unsettled⟩ := Pool.find?_endProbes_of_probing found marked
        have mine := (State.batches_settle pending judged).mem_iff.1 (ih old before marked)
        exact (List.mem_append.1 mine).resolve_left unsettled

/-! ## The drain -/

/-- The worker of a pool is gone, and with it all probes. -/
structure WorkerGone (home : PoolId) (s : State S) (p : Pool S) : Prop where
  /-- The worker has stopped, and it has come to its end. -/
  exited : p.workerStopped = true ∧
    ∀ call ∈ s.calls, call.home = home → ∀ w, call.task = .work w → w = .done
  /-- No idle session is marked. -/
  unmarked : ∀ key r, p.idle.find? key = some r → r.standing ≠ .probing
  /-- Nothing is still to be probed, no verdict is to be settled, and no session is being
  queried. -/
  unprobed : ∀ call ∈ s.calls, call.home = home → call.task.batch = [] ∧ call.task.querying? = none

theorem Run.workerGone (run : Run past s) (built : s.pool? home = some p)
    (own : CyclesItself home past) (stopped : p.workerStopped = true) : WorkerGone home s p := by
  have isDone (call : Call S) (mem : call ∈ s.calls) (at_ : call.home = home) (w : Worker S)
      (task : call.task = .work w) : w = .done := by
    obtain ⟨i, is⟩ := List.getElem?_of_mem mem
    exact run.worker_done built stopped is at_ task
  have noCycle (call : Call S) (mem : call ∈ s.calls) (at_ : call.home = home) :
      call.task.heartbeat? = none := by
    obtain ⟨i, is⟩ := List.getElem?_of_mem mem
    cases task : call.task with
    | cycle b => exact (run.not_cycle own is at_ b task).elim
    | work w =>
      rw [isDone call mem at_ w task]
      rfl
    | _ => rfl
  have batch (call : Call S) (mem : call ∈ s.calls) (at_ : call.home = home) :
      call.task.batch = [] := by
    rw [Task.batch, Task.judged, Task.pending, noCycle call mem at_]
    rfl
  refine ⟨⟨stopped, isDone⟩, fun key r found marked => ?_, fun call mem at_ =>
    ⟨batch call mem at_, Task.querying?_of_heartbeat? (noCycle call mem at_)⟩⟩
  obtain ⟨call, mem, at_, here⟩ :=
    State.mem_batches_iff.1 (run.mem_batches_of_marked built found marked)
  rw [batch call mem at_] at here
  cases here

theorem CyclesItself.append (own : CyclesItself home past) (still : CyclesItself home since) :
    CyclesItself home (since ++ past) :=
  fun e he => (List.mem_append.1 he).elim (still e) (own e)

/-- No answer to a query comes in where nothing is queried. -/
theorem WorkerGone.probes (gone : WorkerGone home s p) (c : Choice S) : s.probes home c = [] := by
  cases c with
  | answer i reply =>
    cases was : s.calls[i]? with
    | none => cases reply <;> simp [State.probes, was]
    | some call =>
      refine State.probes_of_answer was ?_
      unfold Call.pendingAt
      split
      · next at_ =>
        have batch := (gone.unprobed call (List.mem_of_getElem? was) at_).1
        exact List.map_eq_nil_iff.1 (List.append_eq_nil_iff.1 batch).2
      · rfl
  | _ => rfl

/-- When a shutdown takes the idle sessions, or is closing them, the worker of the pool is gone, and
from then on no session of the pool is queried. -/
theorem worker_gone_before_drain (run : Run past s) (built : s.pool? home = some p)
    (own : CyclesItself home past) {call : Call S} {d : Shutdown S} (mem : call ∈ s.calls)
    (at_ : call.home = home)
    (about : call.task.shutdown? = some d) (sweeps : d.sweeps = true) :
    WorkerGone home s p ∧ ∀ since s', Leads s since s' → CyclesItself home since →
      probesIn home since = [] ∧ ∀ p', s'.pool? home = some p' → WorkerGone home s' p' := by
  obtain ⟨i, is⟩ := List.getElem?_of_mem mem
  have stopped := run.workerStopped built is at_ about (Shutdown.pastWorker_of_sweeps sweeps)
  refine ⟨run.workerGone built own stopped, fun since s' leads still => ?_⟩
  have gone {since : List (State S × Choice S)} {s' : State S} (leads : Leads s since s')
      (still : CyclesItself home since) (p' : Pool S) (built' : s'.pool? home = some p') :
      WorkerGone home s' p' :=
    (run.append leads).workerGone built' (own.append still)
      (leads.workerStopped built stopped built')
  refine ⟨?_, gone leads still⟩
  induction leads with
  | here => rfl
  | @next since s₁ s₂ c leads fresh act ih =>
    have before : CyclesItself home since := fun e he => still e (List.mem_cons_of_mem _ he)
    obtain ⟨q, old⟩ := leads.exists_pool? built
    rw [probesIn_cons, ih before, (gone leads before q old).probes, List.append_nil]

/-- The worker is told to stop while it probes two sessions. One answers, the probe of the other one
breaks off, and the shutdown has come to the idle sessions. -/
def retiring : List (Choice Nat) :=
  List.flatten [
    [.build
      { settings := { maxConnections := 2, heartbeatInterval := .moment }
        source := some .server }],
    lending 1 10, lending 2 20, [.begin (.dropLease 0)], steps 3 4,
    [.finish 3, .begin (.dropLease 0)], steps 4 4,
    [.finish 4], steps 0 2, [.pass (.ofSeconds 1)], steps 0 5,
    [.begin (.shutDown 0 false)], steps 5 2,
    [.answer 0 (.queried (.panic "gone")), .answer 0 (.queried (.value ()))], steps 0 5,
    [.answer 0 (.closed (.value ()))], steps 0 6, steps 5 2]

theorem worker_gone_before_drain_of_retiring :
    ∃ past s p, Run (S := Nat) past s ∧ s.pool? 0 = some p ∧ CyclesItself 0 past ∧
      probesIn 0 past = [(20, .value ()), (10, .panic "gone")] ∧ p.idle.keys = [⟨2⟩] ∧
      (∃ call ∈ s.calls, call.home = 0 ∧ call.task = .shutDown .drain) ∧ WorkerGone 0 s p ∧
      ∀ since s', Leads s since s' → CyclesItself 0 since →
        probesIn 0 since = [] ∧ ∀ p', s'.pool? 0 = some p' → WorkerGone 0 s' p' := by
  have h : ((play retiring).bind fun r =>
      if CyclesItself 0 r.1 ∧ probesIn 0 r.1 = [(20, .value ()), (10, .panic "gone")] ∧
        ∃ call ∈ r.2.calls, call.home = 0 ∧ call.task = .shutDown .drain
      then (r.2.pool? 0).map fun p => p.idle.keys else none) = some [⟨2⟩] := by decide +kernel
  obtain ⟨⟨past, s⟩, played, h⟩ := Option.bind_eq_some_iff.1 h
  split at h
  · next holds =>
    obtain ⟨own, probed, call, mem, at_, task⟩ := holds
    obtain ⟨p, built, keys⟩ := Option.map_eq_some_iff.1 h
    have run := run_of_play played
    have about : call.task.shutdown? = some .drain := by rw [task]; rfl
    exact ⟨past, s, p, run, built, own, probed, keys, ⟨call, mem, at_, task⟩,
      worker_gone_before_drain run built own mem at_ about rfl⟩
  · cases h

end Interleaving

end ConnectionPool
