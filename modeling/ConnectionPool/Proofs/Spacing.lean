import ConnectionPool.Proofs.Cycles
import ConnectionPool.Proofs.Stamps

set_option autoImplicit false

/-! # Probes keep their distance

A cycle marks the idle sessions that were last known to be well more than its interval ago. A
session that a cycle has marked is probed by it, and is marked by no other one until the verdict is
settled; if it has passed it was known to be well at that moment, and else it is gone. So from the
end of one probe of a session to the beginning of the next more time passes than the interval of the
later cycle (`probe_spacing`).

A cycle whose interval is zero probes nothing: heartbeats are off. -/

namespace ConnectionPool

/-- The earlier the stamp, the more time has passed since. -/
theorem Instant.lt_since_of_le {now stamp stamp' : Instant} {d : Duration} (le : stamp ≤ stamp')
    (h : d < now.since stamp') : d < now.since stamp := by
  simp only [le_def, Duration.lt_def, since] at *
  omega

theorem Record.isDue_iff {S : Type} {r : Record S} {interval : Duration} {now : Instant} :
    r.isDue interval now = true ↔ r.standing = .idle ∧
      interval < now.since r.info.lastHeartbeat := by
  simp [isDue, Metadata.sinceHeartbeat]

namespace Interleaving

variable {S : Type} {home : PoolId} {past since : List (State S × Choice S)}
  {s₀ s s' : State S} {c : Choice S} {p p' : Pool S} {key : SessionKey} {i : Nat}
  {call call₀ : Call S}

/-! ## From one probe to the next -/

namespace Task

variable {v : View S} {t t' : Task S} {reply : Reply S} {e : SessionKey × S}

theorem mem_batch_of_step (did : t.step v p = some (p', t')) (mem : key ∈ t.batch) :
    key ∈ t'.batch ∨ ∃ verdicts, t.heartbeat? = some (.settle verdicts) ∧
      key ∈ verdicts.map (·.1) := by
  cases Task.marks_of_step did with
  | leaves pending judged =>
    rw [Task.batch, judged, pending]
    exact .inl mem
  | runs cycle cycle' marks =>
    unfold Task.batch Task.judged Task.pending at mem ⊢
    rw [cycle] at mem ⊢
    rw [cycle']
    simp only [Option.elim] at mem ⊢
    cases marks with
    | leaves pending judged =>
      rw [judged, pending]
      exact .inl mem
    | selects none judged =>
      rw [none, List.map_nil, List.append_nil] at mem
      rw [judged]
      exact .inl (List.mem_append_left _ mem)
    | @settles verdicts now =>
      subst now
      refine .inr ⟨verdicts, rfl, ?_⟩
      simpa [Heartbeat.judged, Heartbeat.pending] using mem

theorem mem_batch_of_answer (heard : t.answer reply = some t') (mem : key ∈ t.batch) :
    key ∈ t'.batch := by
  unfold Task.batch at mem ⊢
  rcases Task.batch_of_answer heard with
    ⟨none, none', same⟩ | ⟨key', session, outcome, -, head, more⟩
  · rw [same, none']
    rw [none] at mem
    exact mem
  · -- the session that was probed is among the judged ones now
    rw [more]
    rw [head] at mem
    simp only [List.map_append, List.map_cons, List.map_nil, List.mem_append,
      List.mem_cons, List.not_mem_nil, or_false] at mem ⊢
    tauto

theorem mem_pending_of_step (did : t.step v p = some (p', t')) (mem : e ∈ t.pending) :
    e ∈ t'.pending := by
  cases Task.marks_of_step did with
  | leaves pending => exact pending ▸ mem
  | runs cycle cycle' marks =>
    unfold Task.pending at mem ⊢
    rw [cycle] at mem
    rw [cycle']
    simp only [Option.elim] at mem ⊢
    cases marks with
    | leaves pending => exact pending ▸ mem
    | selects none =>
      rw [none] at mem
      cases mem
    | settles now =>
      subst now
      cases mem

/-- The sessions of a batch are probed in their order. -/
theorem mem_pending_of_answer (heard : t.answer reply = some t') (mem : e ∈ t.pending) :
    e ∈ t'.pending ∨ ∃ outcome, reply = .queried outcome ∧ t.pending = e :: t'.pending := by
  rcases Task.batch_of_answer heard with ⟨none, -, -⟩ | ⟨key, session, outcome, asked, head, -⟩
  · rw [none] at mem
    cases mem
  · rw [head] at mem
    rcases List.mem_cons.1 mem with rfl | mem
    · exact .inr ⟨outcome, asked, head⟩
    · exact .inl mem

end Task

/-- A session of a batch stays in it until the batch is settled. -/
theorem mem_batches_of_act (act : s.act c = some s') (mem : key ∈ s.batches home) :
    key ∈ s'.batches home ∨ ∃ i connected contended call verdicts, c = .step i connected contended ∧
      s.calls[i]? = some call ∧ call.home = home ∧ call.task.heartbeat? = some (.settle verdicts) ∧
      key ∈ verdicts.map (·.1) := by
  obtain ⟨call, hc, at_, mem⟩ := State.mem_batches_iff.1 mem
  obtain ⟨i, was⟩ := List.mem_iff_getElem?.1 hc
  obtain ⟨call', is⟩ := exists_call_of_act act was
  have stays (batch : key ∈ call'.task.batch) : key ∈ s'.batches home :=
    State.mem_batches_iff.2
      ⟨call', List.mem_of_getElem? is, (same_of_act act was is).1.trans at_, batch⟩
  cases came_of_act act is with
  | stays was' =>
    cases was.symm.trans was'
    exact .inl (stays mem)
  | begins new => cases new.symm.trans was
  | @steps connected contended _ _ _ was' _ _ did =>
    cases was.symm.trans was'
    rcases Task.mem_batch_of_step did mem with mem | ⟨verdicts, cycle, mine⟩
    · exact .inl (stays mem)
    · exact .inr ⟨i, connected, contended, call, verdicts, rfl, was, at_, cycle, mine⟩
  | hears was' _ heard =>
    cases was.symm.trans was'
    exact .inl (stays (Task.mem_batch_of_answer heard mem))
  | ends was' ended =>
    cases was.symm.trans was'
    obtain ⟨pending, judged⟩ := Task.no_batch_of_isEnded ended
    rw [Task.batch, pending, judged] at mem
    cases mem

/-- A session that is neither idle, nor active, nor about to be, is not idle after any choice. -/
theorem Progress.not_idle (h : Progress home s p c s' p') (away : p.active.keys.count key = 0)
    (gone : p.idle.find? key = none) : p'.idle.find? key = none := by
  refine Option.eq_none_iff_forall_ne_some.2 fun r found => ?_
  have was : ∃ old, p.idle.find? key = some old := by
    cases h with
    | leaves pending judged probes rest =>
      rcases rest key r found with was | ⟨-, old, lent⟩
      · exact ⟨r, was⟩
      · rw [Roster.count_keys_of_some lent] at away
        cases away
    | selects pending judged probes pool =>
      subst pool
      obtain ⟨old, was, -⟩ := Pool.find?_beginProbes found
      exact ⟨old, was⟩
    | hears pending judged probes pool => exact ⟨r, pool ▸ found⟩
    | settles pending judged probes pool =>
      subst pool
      obtain ⟨old, was, -⟩ := Pool.find?_endProbes found
      exact ⟨old, was⟩
  obtain ⟨old, was⟩ := was
  rw [gone] at was
  cases was

/-- What has become of a session that was in the batch of a cycle at some time. -/
inductive Since (home : PoolId) (past : List (State S × Choice S)) (s : State S) (p : Pool S)
    (key : SessionKey) (t : Instant) : Prop
  | probing (mem : key ∈ s.batches home)
  | well {t' : Instant} (mem : t' ∈ refreshments home key past) (le : t ≤ t')
  | gone (known : key ∈ (enrolled home past).map (·.1))
      (away : (ledger home past s p).engaged key = 0) (idle : p.idle.find? key = none)

theorem Since.next {t : Instant} (h : Since home past s p key t) (le : t ≤ s.now) (run : Run past s)
    (fresh : c.Fresh s) (act : s.act c = some s') (built : s.pool? home = some p)
    (built' : s'.pool? home = some p')
    (few : (enrolled home ((s, c) :: past)).length < UInt64.size) :
    Since home ((s, c) :: past) s' p' key t := by
  have on := onward_of_act run fresh act built built' few
  have known (known : key ∈ (enrolled home past).map (·.1)) :
      key ∈ (enrolled home ((s, c) :: past)).map (·.1) :=
    List.map_subset _ (enrolled_subset _) known
  cases h with
  | probing mem =>
    rcases mem_batches_of_act act mem with stays | ⟨i, connected, contended, call, verdicts, rfl,
      was, at_, cycle, mine⟩
    · exact .probing stays
    have probed := run.probed built (few_of_cons few)
    obtain ⟨_, _, built₁, -, settles⟩ := probed.settles (run.filed built) built was at_ cycle act
    cases built'.symm.trans built₁
    have away := probed.away_next on mem
    by_cases failed : failing verdicts key = true
    · refine .gone (known (probed.known_of_mem mem)) away ?_
      rw [settles.idle, if_pos failed]
    · cases found : p.idle.find? key with
      | none =>
        refine .gone (known (probed.known_of_mem mem)) away ?_
        rw [settles.idle, found]
        simp
      | some r =>
        -- it has passed, at this very moment
        have passes : s.passes home key (.step i connected contended) = true :=
          State.passes_of_mem (State.settling_of_step was at_ cycle) mine failed
        refine .well ?_ le
        rw [refreshments, times_cons_of_true (by rw [State.refreshes, passes, Bool.or_true])]
        exact List.mem_cons_self
  | well mem le =>
    obtain ⟨e, he, refreshes, same⟩ := mem_times.1 mem
    exact .well (mem_times.2 ⟨e, List.mem_cons_of_mem _ he, refreshes, same⟩) le
  | gone drawn away idle =>
    refine .gone (known drawn) (on.engaged key drawn away fun r found => ?_)
      ((progress_of_act act built built').not_idle (Nat.add_eq_zero_iff.1 away).2 idle)
    rw [idle] at found
    cases found

theorem Run.since_batch (run : Run past s) (built : s.pool? home = some p)
    (few : (enrolled home past).length < UInt64.size) : ∀ e ∈ past, ∀ key ∈ e.1.batches home,
      Since home past s p key e.1.now := by
  refine run.pool_induction (motive := fun past s p => (enrolled home past).length < UInt64.size →
    ∀ e ∈ past, ∀ key ∈ e.1.batches home, Since home past s p key e.1.now)
    (fun {past s s' p c} run act old built _ e he key mem => ?_)
    (fun {past s s' p p' c} run fresh act built built' ih few e he key mem => ?_) built few
  · -- there was no batch before there was a pool
    have none {past : List (State S × Choice S)} {s : State S} (run : Run past s)
        (old : s.pool? home = none) : s.batches home = [] := by
      obtain ⟨pending, judged, -⟩ := run.unprobed old
      rw [State.batches, pending, judged]
      rfl
    rcases List.mem_cons.1 he with rfl | he
    · rw [none run old] at mem
      cases mem
    · obtain ⟨before, -, -, -, run₀, -⟩ := run.of_mem he
      rw [none run₀ (run.pool?_eq_none old e he)] at mem
      cases mem
  · rcases List.mem_cons.1 he with rfl | he
    · exact Since.next (.probing mem) (Int.le_refl _) run fresh act built built' few
    · exact (ih (few_of_cons few) e he key mem).next
        (run.now_le e he) run fresh act built built' few

/-! ## Marked sessions are probed -/

theorem Leads.queried (leads : Leads s₀ since s) (was₀ : s₀.calls[i]? = some call₀)
    {e : SessionKey × S} (mem₀ : e ∈ call₀.task.pending) :
    ∃ call, s.calls[i]? = some call ∧ call.home = call₀.home ∧
      (e ∈ call.task.pending ∨ ∃ outcome, (e.2, outcome) ∈ probesIn call₀.home since) := by
  induction leads with
  | here => exact ⟨call₀, was₀, rfl, .inl mem₀⟩
  | @next since s s' c leads fresh act ih =>
    obtain ⟨call, was, home, mem⟩ := ih
    obtain ⟨call', is⟩ := exists_call_of_act act was
    refine ⟨call', is, (same_of_act act was is).1.trans home, ?_⟩
    rcases mem with mem | ⟨outcome, probed⟩
    · cases came_of_act act is with
      | stays was' =>
        cases was.symm.trans was'
        exact .inl mem
      | begins new => cases new.symm.trans was
      | steps was' _ _ did =>
        cases was.symm.trans was'
        exact .inl (Task.mem_pending_of_step did mem)
      | hears was' _ heard =>
        cases was.symm.trans was'
        rcases Task.mem_pending_of_answer heard mem with mem | ⟨outcome, rfl, head⟩
        · exact .inl mem
        · refine .inr ⟨outcome, ?_⟩
          rw [probesIn_cons]
          simp [State.probes, was, Call.pendingAt, home, head]
      | ends was' ended =>
        cases was.symm.trans was'
        rw [(Task.no_batch_of_isEnded ended).1] at mem
        cases mem
    · refine .inr ⟨outcome, ?_⟩
      rw [probesIn_cons]
      exact List.mem_append_right _ probed

/-! ## The spacing of probes -/

/-- What a cycle that looks for sessions to probe does by that step. -/
structure Selected (home : PoolId) (past : List (State S × Choice S)) (s : State S)
    (p : Pool S) (i : Nat) (interval : Duration) (contended : Bool) (s' : State S)
    (call' : Call S) : Prop where
  /-- It is to probe the idle sessions that have not been refreshed for longer than its interval,
  unless heartbeats are off or the rosters are held. -/
  selects : ∀ key, key ∈ call'.task.pending.map (·.1) ↔ interval ≠ .zero ∧ contended = false ∧
    ∃ r, p.idle.find? key = some r ∧ r.standing = .idle ∧
      ∀ t ∈ refreshments home key past, interval < s.now.since t
  /-- It probes every one of them, as far as it goes on. -/
  queries : ∀ later s₂, Leads s' later s₂ → ∀ e ∈ call'.task.pending,
    (∃ call, s₂.calls[i]? = some call ∧ e ∈ call.task.pending) ∨
      ∃ outcome, (e.2, outcome) ∈ probesIn home later
  /-- More time than its interval has passed since any of them was last in the batch of a cycle. -/
  apart : ∀ key ∈ call'.task.pending.map (·.1), ∀ e ∈ past, key ∈ e.1.batches home →
    interval < s.now.since e.1.now

/-- How the probes of a pool are spaced, at some moment of a run. -/
structure ProbeSpacing (home : PoolId) (past : List (State S × Choice S)) (s : State S)
    (p : Pool S) : Prop where
  /-- A session was last known to be well when it was last refreshed: when its record was made, when
  it was last given back, or when it last passed a probe. -/
  latest : ∀ key r, p.Has key r →
    IsGreatest { t | t ∈ refreshments home key past } r.info.lastHeartbeat
  created : ∀ key r, p.Has key r → makings home key past = [r.info.createdAt]
  between : ∀ key r, p.Has key r →
    r.info.createdAt ≤ r.info.lastHeartbeat ∧ r.info.lastHeartbeat ≤ s.now
  cycles : ∀ i (call : Call S) interval statement connected contended s', s.calls[i]? = some call →
    call.home = home → call.task.heartbeat? = some (.select interval statement) →
    s.act (.step i connected contended) = some s' →
    ∃ call', s'.calls[i]? = some call' ∧ Selected home past s p i interval contended s' call'

/-- What a cycle marks that begins. -/
theorem Heartbeat.mem_pending_of_select {v : View S} {interval : Duration} {statement : String}
    {b' : Heartbeat S} (h : Heartbeat.step v p (.select interval statement) = some (p', b')) :
    key ∈ b'.pending.map (·.1) ↔ interval ≠ .zero ∧ v.contended = false ∧
      ∃ r, p.idle.find? key = some r ∧ r.isDue interval v.now = true := by
  simp only [Heartbeat.step] at h
  split at h
  · next zero =>
    cases h
    simp [Heartbeat.pending, (interval.isZero_iff).1 zero]
  next nonzero =>
  have nonzero : interval ≠ .zero := fun same => nonzero ((interval.isZero_iff).2 same)
  split at h
  · next busy =>
    cases h
    simp [Heartbeat.pending, busy]
  · next free =>
    simp only [Option.some.injEq, Prod.mk.injEq] at h
    obtain ⟨-, rfl⟩ := h
    rw [← Pool.mem_keys_beginProbes]
    have free : v.contended = false := by simpa using free
    split
    · next none => simp [Heartbeat.pending, List.isEmpty_iff.1 none]
    · simp [Heartbeat.pending, nonzero, free]

theorem Run.selected (run : Run past s) (built : s.pool? home = some p)
    (few : (enrolled home past).length < UInt64.size) {interval : Duration} {statement : String}
    {connected : S → Bool} {contended : Bool} (was : s.calls[i]? = some call)
    (at_ : call.home = home)
    (cycle : call.task.heartbeat? = some (.select interval statement))
    (act : s.act (.step i connected contended) = some s') :
    ∃ call', s'.calls[i]? = some call' ∧ Selected home past s p i interval contended s' call' := by
  subst at_
  cases happens_of_act act with
  | @step _ _ _ _ site q t' atWork found did =>
  cases was.symm.trans atWork
  cases built.symm.trans (State.pool?_of_site found)
  obtain ⟨-, b', did', cycle'⟩ := Task.heartbeat?_of_step cycle rfl did
  have is : (s.put i call site q t').calls[i]? = some { call with task := t' } := by
    rw [State.put, List.getElem?_set_self (List.getElem?_eq_some_iff.1 atWork).1]
  have selects (key : SessionKey) : key ∈ t'.pending.map (·.1) ↔ interval ≠ .zero ∧
      contended = false ∧ ∃ r, site.pool.idle.find? key = some r ∧ r.standing = .idle ∧
        ∀ t ∈ refreshments call.home key past, interval < s.now.since t := by
    rw [Task.pending, cycle', Option.elim, Heartbeat.mem_pending_of_select did']
    refine and_congr_right fun _ => and_congr_right fun _ => exists_congr fun r =>
      and_congr_right fun found => ?_
    have stamped := run.stamped built few (.inl (.inr found))
    rw [Record.isDue_iff]
    refine and_congr_right fun _ => ⟨fun due t mem => ?_, fun all => all _ stamped.latest.1⟩
    exact Instant.lt_since_of_le (stamped.latest.2 mem) due
  refine ⟨_, is, selects, fun later s₂ leads e mem => ?_, fun key mem e he was => ?_⟩
  · obtain ⟨call₂, is₂, -, pending | probed⟩ := leads.queried is mem
    · exact .inl ⟨call₂, is₂, pending⟩
    · exact .inr probed
  · obtain ⟨-, -, r, found, idle, refreshed⟩ := (selects key).1 mem
    cases run.since_batch built few e he key was with
    | probing marked =>
      -- it is idle, so no cycle has it
      rw [← (run.probed built few).marks key r found, idle] at marked
      cases marked
    | well mem le => exact Instant.lt_since_of_le le (refreshed _ mem)
    | gone known away gone =>
      rw [gone] at found
      cases found

/-- Probes are spaced as their cycles want it, in every run in which fewer than `2 ^ 64` keys of the
pool were drawn. -/
theorem probe_spacing (run : Run past s) (built : s.pool? home = some p)
    (few : (enrolled home past).length < UInt64.size) : ProbeSpacing home past s p where
  latest _ _ has := (run.stamped built few (.inl has)).latest
  created _ _ has := (run.stamped built few (.inl has)).created
  between _ _ has := (run.stamped built few (.inl has)).between run
  cycles _ _ _ _ _ _ _ was at_ cycle act := run.selected built few was at_ cycle act

/-- A session is lent, given back after one second, and probed after two more; and three seconds
later another cycle begins. -/
def pacing : List (Choice Nat) :=
  List.flatten [
    [.build { settings := {}, source := some .server }], lending 1 10,
    [.pass (.ofSeconds 1), .begin (.dropLease 0)], steps 2 4,
    [.finish 2, .pass (.ofSeconds 2), .begin (.cycle 0 .moment "SELECT 1")], steps 3 1,
    [.answer 3 (.queried (.value ()))], steps 3 7,
    [.finish 3, .pass (.ofSeconds 3), .begin (.cycle 0 (.ofSeconds 2) "SELECT 1")]]

theorem probe_spacing_of_pacing :
    ∃ past s p, Run (S := Nat) past s ∧ s.pool? 0 = some p ∧
      (enrolled 0 past).length < UInt64.size ∧ s.now = Instant.start.after (.ofSeconds 6) ∧
      refreshments 0 ⟨1⟩ past = [Instant.start.after (.ofSeconds 3),
        Instant.start.after (.ofSeconds 1), .start] ∧
      (p.idle.find? ⟨1⟩).map (fun r => (r.info.createdAt, r.info.lastHeartbeat)) =
        some (.start, Instant.start.after (.ofSeconds 3)) ∧
      ProbeSpacing 0 past s p := by
  have h : ((play pacing).bind fun r =>
      if (enrolled 0 r.1).length < UInt64.size ∧ r.2.now = Instant.start.after (.ofSeconds 6) ∧
        refreshments 0 ⟨1⟩ r.1 = [Instant.start.after (.ofSeconds 3),
          Instant.start.after (.ofSeconds 1), .start]
      then (r.2.pool? 0).map fun p =>
        (p.idle.find? ⟨1⟩).map fun r => (r.info.createdAt, r.info.lastHeartbeat)
      else none) = some (some (.start, Instant.start.after (.ofSeconds 3))) := by
    decide +kernel
  obtain ⟨⟨past, s⟩, played, h⟩ := Option.bind_eq_some_iff.1 h
  split at h
  · next holds =>
    obtain ⟨few, now, refreshed⟩ := holds
    obtain ⟨p, built, stamps⟩ := Option.map_eq_some_iff.1 h
    have run := run_of_play played
    exact ⟨past, s, p, run, built, few, now, refreshed, stamps, probe_spacing run built few⟩
  · cases h

/-- A session is idle, and a second later a cycle begins whose interval is zero. -/
def switchedOff : List (Choice Nat) :=
  List.flatten [
    [.build { settings := {}, source := some .server }], lending 1 10,
    [.begin (.dropLease 0)], steps 2 4,
    [.finish 2, .pass (.ofSeconds 1), .begin (.cycle 0 .zero "SELECT 1")]]

/-- Nobody holds the rosters, and more than the interval of the cycle has passed since an idle
session was last refreshed; but the cycle does not probe it, since its interval is zero. -/
theorem exists_idle_unprobed :
    ∃ past s p call statement r s' call', Run (S := Nat) past s ∧ s.pool? 0 = some p ∧
      s.calls[3]? = some call ∧ call.home = 0 ∧
      call.task.heartbeat? = some (.select .zero statement) ∧
      p.idle.find? ⟨1⟩ = some r ∧ r.standing = .idle ∧
      (∀ t ∈ refreshments 0 ⟨1⟩ past, Duration.zero < s.now.since t) ∧
      s.act (.step 3 (fun _ => true) false) = some s' ∧ s'.calls[3]? = some call' ∧
      ⟨1⟩ ∉ call'.task.pending.map (·.1) := by
  have h : ((play switchedOff).any fun r => (r.2.pool? 0).any fun p =>
      (r.2.calls[3]?).any fun call =>
      (p.idle.find? ⟨1⟩).any fun record => (r.2.act (.step 3 (fun _ => true) false)).any fun s' =>
      (s'.calls[3]?).any fun call' => decide (call.home = 0 ∧
        call.task.heartbeat? = some (.select .zero "SELECT 1") ∧ record.standing = .idle ∧
        (∀ t ∈ refreshments 0 ⟨1⟩ r.1, Duration.zero < r.2.now.since t) ∧
        ⟨1⟩ ∉ call'.task.pending.map (·.1))) = true := by decide +kernel
  simp only [Option.any_eq_true, decide_eq_true_eq] at h
  obtain ⟨⟨past, s⟩, played, p, built, call, was, r, found, s', act, call', is, at_, cycle, idle,
    passed, away⟩ := h
  exact ⟨past, s, p, call, _, r, s', call', run_of_play played, built, was, at_, cycle, found,
    idle, passed, act, is, away⟩

end Interleaving

end ConnectionPool
