import Mathlib.Order.Bounds.Defs
import ConnectionPool.Proofs.Exclusion
import ConnectionPool.Proofs.Records

set_option autoImplicit false

/-! # When a session was last known to be well

A record shows when its session was last known to be well. Three things refresh that stamp: the
session gets its record, it is taken back from its caller, or a cycle settles a probe that it has
passed. Being lent, being marked for a probe and failing one do not. The clock never goes back, so
the stamp is the latest of all these moments (`Run.stamped`). -/

namespace ConnectionPool

namespace Interleaving

variable {S : Type} {home : PoolId} {past : List (State S × Choice S)}
  {s s' : State S} {c : Choice S} {p p' : Pool S} {key : SessionKey} {r : Record S}

/-! ## What refreshes a stamp -/

namespace State

/-- Whether a choice makes the record of a session. -/
def makes (s : State S) (home : PoolId) (key : SessionKey) (c : Choice S) : Bool :=
  decide (key ∈ (s.enrolment home c).map (·.1))

/-- Whether a choice makes a lent session idle. -/
def shelves (s : State S) (home : PoolId) (key : SessionKey) (c : Choice S) : Bool :=
  match s.pool? home, (s.act c).bind (·.pool? home) with
  | some p, some p' => decide (key ∈ p.active.keys ∧ key ∈ p'.idle.keys)
  | _, _ => false

/-- The verdicts that a choice settles. -/
def settling (s : State S) (home : PoolId) : Choice S → List (SessionKey × Verdict)
  | .step i _ _ =>
    match s.calls[i]? with
    | some call =>
      match call.task.heartbeat? with
      | some (.settle verdicts) => if call.home = home then verdicts else []
      | _ => []
    | none => []
  | _ => []

/-- Whether a choice settles a probe that the session has passed. -/
def passes (s : State S) (home : PoolId) (key : SessionKey) (c : Choice S) : Bool :=
  decide (Roster.lookup key (s.settling home c) = some .healthy)

def refreshes (s : State S) (home : PoolId) (key : SessionKey) (c : Choice S) : Bool :=
  s.makes home key c || s.shelves home key c || s.passes home key c

end State

/-- When things like this have happened, the latest first. -/
def times (event : State S → Choice S → Bool) (past : List (State S × Choice S)) : List Instant :=
  (past.filter fun e => event e.1 e.2).map (·.1.now)

/-- When the record of a session was made. -/
def makings (home : PoolId) (key : SessionKey) : List (State S × Choice S) → List Instant :=
  times fun s c => s.makes home key c

/-- When a session has got its record, was given back, or has passed a probe. -/
def refreshments (home : PoolId) (key : SessionKey) : List (State S × Choice S) → List Instant :=
  times fun s c => s.refreshes home key c

theorem mem_times {event : State S → Choice S → Bool} {t : Instant} :
    t ∈ times event past ↔ ∃ e ∈ past, event e.1 e.2 = true ∧ e.1.now = t := by
  simp [times, and_assoc]

theorem times_cons_of_true {event : State S → Choice S → Bool} (h : event s c = true) :
    times event ((s, c) :: past) = s.now :: times event past := by
  simp [times, h]

theorem times_cons_of_false {event : State S → Choice S → Bool} (h : event s c = false) :
    times event ((s, c) :: past) = times event past := by
  simp [times, h]

namespace State

theorem shelves_iff (act : s.act c = some s') (built : s.pool? home = some p)
    (built' : s'.pool? home = some p') :
    s.shelves home key c = true ↔ key ∈ p.active.keys ∧ key ∈ p'.idle.keys := by
  simp [shelves, built, act, built']

/-- Verdicts are settled on the sessions of a batch. -/
theorem mem_batches_of_settling {e : SessionKey × Verdict} (h : e ∈ s.settling home c) :
    e.1 ∈ s.batches home := by
  cases c with
  | step i connected contended =>
    simp only [settling] at h
    split at h
    · next call was =>
      split at h
      · next verdicts cycle =>
        split at h
        · next at_ =>
          refine mem_batches_iff.2 ⟨call, List.mem_of_getElem? was, at_, ?_⟩
          rw [Task.batch, Task.judged, cycle]
          exact List.mem_append_left _ (List.mem_map_of_mem h)
        · cases h
      · cases h
    · cases h
  | _ => cases h

theorem settling_of_step {i : Nat} {connected : S → Bool} {contended : Bool} {call : Call S}
    {verdicts : List (SessionKey × Verdict)} (atWork : s.calls[i]? = some call)
    (at_ : call.home = home)
    (cycle : call.task.heartbeat? = some (.settle verdicts)) :
    s.settling home (.step i connected contended) = verdicts := by
  simp [settling, atWork, cycle, at_]

/-- Whoever has a verdict and has not failed has passed. -/
theorem passes_of_mem {verdicts : List (SessionKey × Verdict)}
    (settling : s.settling home c = verdicts) (mine : key ∈ verdicts.map (·.1))
    (passed : ¬ failing verdicts key = true) : s.passes home key c = true := by
  rw [passes, settling]
  cases verdict : Roster.lookup key verdicts with
  | none => exact (Roster.lookup_eq_none_iff.1 verdict mine).elim
  | some verdict' =>
    cases verdict' with
    | healthy => rfl
    | failed reason =>
      rw [failing, verdict] at passed
      exact (passed rfl).elim

theorem not_passes_of_settling (h : s.settling home c = []) : s.passes home key c = false := by
  rw [passes, h]
  rfl

theorem mem_batches_of_passes (h : s.passes home key c = true) : key ∈ s.batches home :=
  mem_batches_of_settling (Roster.mem_of_lookup_eq_some (of_decide_eq_true h))

end State

/-! ## One choice -/

/-- The pool has the record, or a call is about to put it in. -/
def State.Files (s : State S) (home : PoolId) (p : Pool S) (key : SessionKey)
    (r : Record S) : Prop :=
  p.Has key r ∨ r.info.key = key ∧ .recruit r ∈ s.roles home

/-- What a choice does to the stamps of a session. -/
inductive Dates (home : PoolId) (s : State S) (p : Pool S) (c : Choice S) (key : SessionKey)
    (r : Record S) : Prop
  | made (makes : s.makes home key c = true) (created : r.info.createdAt = s.now)
      (last : r.info.lastHeartbeat = s.now)
  | refreshed {old : Record S} (was : s.Files home p key old)
      (refreshes : s.refreshes home key c = true) (created : r.info.createdAt = old.info.createdAt)
      (last : r.info.lastHeartbeat = s.now)
  | kept {old : Record S} (was : s.Files home p key old)
      (refreshes : s.refreshes home key c = false) (created : r.info.createdAt = old.info.createdAt)
      (last : r.info.lastHeartbeat = old.info.lastHeartbeat)

theorem known_of_files (run : Run past s) (built : s.pool? home = some p)
    (few : (enrolled home past).length < UInt64.size) (files : s.Files home p key r) :
    key ∈ (enrolled home past).map (·.1) := by
  obtain ⟨-, placed, -⟩ := run.custody built few
  have known {session : S} (mem : (key, session) ∈ enrolled home past) :
      key ∈ (enrolled home past).map (·.1) :=
    List.mem_map.2 ⟨_, mem, rfl⟩
  rcases files with (active | idle) | ⟨rfl, mem⟩
  · exact known (placed.filed.active key r active).known
  · exact known (placed.filed.idle key r idle).known
  · exact known (placed.ready r mem).known

/-- The record of a session is made once. -/
theorem Run.not_makes (run : Run past s) (fresh : c.Fresh s) (act : s.act c = some s')
    (few : (enrolled home ((s, c) :: past)).length < UInt64.size)
    (known : key ∈ (enrolled home past).map (·.1)) :
    s.makes home key c = false := by
  have keys := ((run.next fresh act).enrolled_nodup few).1
  rw [enrolled_cons, List.map_append] at keys
  exact decide_eq_false fun new => (List.nodup_append.1 keys).2.2 key new key known rfl

/-- What is known of a choice before it is asked what it does to the stamps. -/
structure Setting (home : PoolId) (past : List (State S × Choice S)) (s : State S)
    (p : Pool S) (c : Choice S) (s' : State S) (p' : Pool S) : Prop where
  act : s.act c = some s'
  built : s.pool? home = some p
  built' : s'.pool? home = some p'
  filed : Filed (enrolled home past) p
  places : ∀ key, p.places key ≤ 1
  places' : ∀ key, p'.places key ≤ 1
  recruits : ∀ r, .recruit r ∈ s.roles home →
    0 < (ledger home past s p).engaged r.info.key ∧ p.places r.info.key = 0
  probed : Probed home past s p
  makes : ∀ key r, s.Files home p key r → s.makes home key c = false

theorem Run.setting (run : Run past s) (fresh : c.Fresh s) (act : s.act c = some s')
    (built : s.pool? home = some p) (built' : s'.pool? home = some p')
    (few : (enrolled home ((s, c) :: past)).length < UInt64.size) :
    Setting home past s p c s' p' := by
  have fewer := few_of_cons few
  obtain ⟨-, placed, -⟩ := run.custody built fewer
  obtain ⟨-, placed', -⟩ := (run.next fresh act).custody built' few
  refine ⟨act, built, built', placed.filed,
    fun key => Nat.le_trans (Nat.le_add_left _ _) (placed.apart key), fun key =>
    Nat.le_trans (Nat.le_add_left _ _) (placed'.apart key), fun r mem => ?_, run.probed built fewer,
    fun key r files => run.not_makes fresh act few (known_of_files run built fewer files)⟩
  have here : 0 < (ledger home past s p).recruits.count r.info.key :=
    List.count_pos_iff.2 (List.mem_flatMap.2 ⟨_, mem, List.mem_singleton.2 rfl⟩)
  have apart : (ledger home past s p).recruits.count r.info.key + p.places r.info.key ≤ 1 :=
    placed.apart r.info.key
  unfold Ledger.engaged
  omega

namespace Setting

variable (h : Setting home past s p c s' p')
include h

theorem not_passes_of_engaged (engaged : 0 < (ledger home past s p).engaged key) :
    s.passes home key c = false := by
  refine Bool.eq_false_iff.2 fun passes => ?_
  have none := h.probed.away key (State.mem_batches_of_passes passes)
  omega

theorem not_passes_of_idle (found : p.idle.find? key = some r) (idle : r.standing = .idle) :
    s.passes home key c = false := by
  refine Bool.eq_false_iff.2 fun passes => ?_
  have marked := (h.probed.marks key r found).2 (State.mem_batches_of_passes passes)
  rw [idle] at marked
  cases marked

theorem kept {old : Record S} (was : s.Files home p key old) (passes : s.passes home key c = false)
    (shelves : key ∈ p.active.keys → key ∉ p'.idle.keys)
    (created : r.info.createdAt = old.info.createdAt)
    (last : r.info.lastHeartbeat = old.info.lastHeartbeat) : Dates home s p c key r := by
  refine .kept was ?_ created last
  have stays : s.shelves home key c = false := by
    refine Bool.eq_false_iff.2 fun done => ?_
    obtain ⟨active, idle⟩ := (State.shelves_iff h.act h.built h.built').1 done
    exact shelves active idle
  rw [State.refreshes, h.makes key old was, stays, passes]
  rfl

/-- The stamps of a session that stays active stay. -/
theorem of_active (found : p.active.find? key = some r) (found' : p'.active.find? key = some r) :
    Dates home s p c key r := by
  refine h.kept (.inl (.inl found)) (h.not_passes_of_engaged ?_) (fun _ idle => ?_) rfl rfl
  · have one := Roster.count_keys_of_some found
    unfold Ledger.engaged
    exact Nat.lt_of_lt_of_le (one ▸ Nat.one_pos) (Nat.le_add_left _ _)
  · obtain ⟨_, idle⟩ := Option.isSome_iff_exists.1 (Roster.mem_keys_iff.1 idle)
    exact Pool.not_active_and_idle (h.places' key) found' idle

/-- So do those of a session that was idle, unless it has passed a probe. -/
theorem of_idle {old : Record S} (found : p.idle.find? key = some old)
    (passes : s.passes home key c = false) (created : r.info.createdAt = old.info.createdAt)
    (last : r.info.lastHeartbeat = old.info.lastHeartbeat) :
    Dates home s p c key r := by
  refine h.kept (.inl (.inr found)) passes (fun active => ?_) created last
  obtain ⟨_, active⟩ := Option.isSome_iff_exists.1 (Roster.mem_keys_iff.1 active)
  exact (Pool.not_active_and_idle (h.places key) active found).elim

/-- So do those of a session that is about to be installed. -/
theorem of_recruit (mem : .recruit r ∈ s.roles home) : Dates home s p c r.info.key r := by
  obtain ⟨engaged, away⟩ := h.recruits r mem
  refine h.kept (.inr ⟨rfl, mem⟩) (h.not_passes_of_engaged engaged) (fun active => ?_) rfl rfl
  have here := List.count_pos_iff.2 active
  rw [Pool.places] at away
  omega

/-- A choice that leaves the sessions and those about to be installed alone, and settles nothing. -/
theorem of_same (active : p'.active = p.active) (idle : p'.idle = p.idle)
    (roles : ∀ r, .recruit r ∈ s'.roles home → .recruit r ∈ s.roles home)
    (settling : s.settling home c = [])
    (files : s'.Files home p' key r) : Dates home s p c key r := by
  rcases files with (found | found) | ⟨rfl, mem⟩
  · exact h.of_active (active ▸ found) found
  · exact h.of_idle (idle ▸ found) (State.not_passes_of_settling settling) rfl rfl
  · exact h.of_recruit (roles r mem)

/-- The stamps of an idle session after a cycle has settled its verdicts. -/
theorem of_settled {i : Nat} {connected : S → Bool} {contended : Bool} {call : Call S}
    {verdicts : List (SessionKey × Verdict)} (atWork : s.calls[i]? = some call)
    (hc : c = .step i connected contended) (at_ : call.home = home)
    (cycle : call.task.heartbeat? = some (.settle verdicts)) (found : p'.idle.find? key = some r) :
    Dates home s p c key r := by
  subst hc at_
  have settling : s.settling call.home (.step i connected contended) = verdicts :=
    State.settling_of_step atWork rfl cycle
  obtain ⟨_, _, built', -, settles⟩ := h.probed.settles h.filed h.built atWork rfl cycle h.act
  cases h.built'.symm.trans built'
  rw [settles.idle] at found
  split at found
  · cases found
  next passed =>
  split at found
  · next mine =>
    -- it was in the batch, and has passed
    obtain ⟨old, was, rfl⟩ := Option.map_eq_some_iff.1 found
    refine .refreshed (.inl (.inr was)) ?_ rfl rfl
    have passes : s.passes call.home key (.step i connected contended) = true :=
      State.passes_of_mem settling (settles.own ▸ mine) passed
    rw [State.refreshes, passes, Bool.or_true]
  · next other =>
    refine h.of_idle found (Bool.eq_false_iff.2 fun passes => other ?_) rfl rfl
    have mem := Roster.mem_of_lookup_eq_some (of_decide_eq_true passes)
    rw [settling] at mem
    exact settles.own ▸ List.mem_map_of_mem mem

/-- The stamps of a session that its caller has just returned. -/
theorem of_returned {v : View S} {t t' : Task S} {old : Record S} (did : t.step v p = some (p', t'))
    (now : v.now = s.now) (lent : p.active.find? key = some old)
    (found : p'.idle.find? key = some r) :
    Dates home s p c key r := by
  have apart {idle : Record S} (was : p.idle.find? key = some idle) : False :=
    Pool.not_active_and_idle (h.places key) lent was
  rcases Task.moves_of_step did with ⟨-, moves⟩ | ⟨rfl, -⟩
  · cases moves.idleFrom found with
    | stays was => exact (apart was).elim
    | marked was => exact (apart was).elim
    | passed was => exact (apart was).elim
    | @shelved old was made =>
      have shelves := (State.shelves_iff h.act h.built h.built').2
        ⟨Roster.mem_keys_iff.2 (by rw [was]; rfl), Roster.mem_keys_iff.2 (by rw [found]; rfl)⟩
      refine .refreshed (.inl (.inl was)) (by simp [State.refreshes, shelves])
        (by rw [made]; rfl) ?_
      rw [made, ← now]
      rfl
  · exact (apart found).elim

/-- The stamps of an idle session after a step. -/
theorem of_idle_after {i : Nat} {connected : S → Bool} {contended : Bool}
    {call : Call S} {t' : Task S} (atWork : s.calls[i]? = some call)
    (hc : c = .step i connected contended) (at_ : call.home = home)
    (did : call.task.step (s.view call connected contended) p = some (p', t'))
    (found : p'.idle.find? key = some r) : Dates home s p c key r := by
  by_cases settles : ∃ verdicts, call.task.heartbeat? = some (.settle verdicts)
  · obtain ⟨verdicts, cycle⟩ := settles
    exact h.of_settled atWork hc at_ cycle found
  have passes : s.passes home key c = false := by
    refine State.not_passes_of_settling ?_
    subst hc
    simp only [State.settling, atWork]
    split
    · next verdicts cycle => exact (settles ⟨verdicts, cycle⟩).elim
    · rfl
  cases Task.marks_of_step did with
  | leaves pending judged rest =>
    rcases rest key r found with was | ⟨-, old, lent⟩
    · exact h.of_idle was passes rfl rfl
    · exact h.of_returned did rfl lent found
  | runs cycle cycle' marks =>
    cases marks with
    | leaves pending judged same => exact h.of_idle (same ▸ found) passes rfl rfl
    | selects none judged pending pool =>
      subst pool
      obtain ⟨old, was, rfl | ⟨-, rfl⟩⟩ := Pool.find?_beginProbes found
      · exact h.of_idle was passes rfl rfl
      · exact h.of_idle was passes rfl rfl
    | settles now after pool =>
      subst now
      exact (settles ⟨_, cycle⟩).elim

/-- The stamps of a session after a step of a call on its pool. -/
theorem of_step {i : Nat} {connected : S → Bool} {contended : Bool} {call : Call S}
    {site : Site S} {t' : Task S} (atWork : s.calls[i]? = some call)
    (hc : c = .step i connected contended) (at_ : call.home = home)
    (found : s.sites[call.home]? = some site) (hp : p = site.pool)
    (hs : s' = s.put i call site p' t')
    (did : call.task.step (s.view call connected contended) site.pool = some (p', t'))
    (files : s'.Files home p' key r) : Dates home s p c key r := by
  have mine (role : call.task.role = .recruit r) : .recruit r ∈ s.roles home :=
    (State.mem_roles_iff (by simp)).2 ⟨i, call, atWork, at_, role⟩
  rcases files with (active | idle) | ⟨rfl, mem⟩
  · rw [← hp] at did
    rcases Task.moves_of_step did with ⟨-, moves⟩ | ⟨rfl, -⟩
    · cases moves.activeFrom h.filed active with
      | stays was => exact h.of_active was active
      | reused was free made =>
        exact h.of_idle was (h.not_passes_of_idle was free) (by rw [made]; rfl) (by rw [made]; rfl)
      | installed role own lent => exact own ▸ h.of_recruit (mine role)
    · exact h.of_active active active
  · exact h.of_idle_after atWork hc at_ (hp ▸ did) idle
  · have calls : s'.calls = s.calls.set i { call with task := t' } := by
      rw [hs]
      rfl
    rcases State.mem_roles_set atWork calls mem with was | ⟨-, role⟩
    · exact h.of_recruit was
    · rcases Task.moves_of_step did with ⟨-, moves⟩ | ⟨-, passes⟩
      · rw [role] at moves
        rcases moves.recruit with was | ⟨session, opened, rfl⟩
        · exact h.of_recruit (mine was)
        · subst hc at_
          refine .made ?_ rfl rfl
          rw [State.makes, enrolment_of_step atWork found did, opened, role]
          simp [Role.enrolment]
      · have acquires := passes.acquires.2
        rw [role] at acquires
        cases acquires

end Setting

theorem dates_of_act (run : Run past s) (fresh : c.Fresh s) (act : s.act c = some s')
    (built : s.pool? home = some p) (built' : s'.pool? home = some p')
    (few : (enrolled home ((s, c) :: past)).length < UInt64.size)
    (files : s'.Files home p' key r) : Dates home s p c key r := by
  have h := run.setting fresh act built built' few
  obtain ⟨q, hq, alters⟩ := alters_of_act act built
  cases hq.symm.trans built'
  cases happens_of_act act with
  | pass d =>
    cases alters
    exact h.of_same rfl rfl (fun _ mem => mem) rfl files
  | @build builder =>
    cases alters
    exact h.of_same rfl rfl
      (fun _ => (Begins.work (c := .build builder)).mem_roles rfl rfl) rfl files
  | @begin request leases call admitted =>
    cases alters
    exact h.of_same rfl rfl
      (fun _ => (begins_of_enter (c := .begin request) admitted).mem_roles rfl rfl) rfl files
  | drop =>
    cases alters
    exact h.of_same rfl rfl (fun _ => Begins.drop.mem_roles rfl rfl) rfl files
  | @adjust at_ change site found =>
    cases alters with
    | rests => exact h.of_same rfl rfl (fun _ mem => mem) rfl files
    | adjusts =>
      have alike := @Adjustment.alike _ p change
      exact h.of_same alike.active alike.idle (fun _ mem => mem) rfl files
  | @step i connected contended call site q t' atWork found did =>
    by_cases hh : call.home = home
    · subst hh
      cases built.symm.trans (State.pool?_of_site found)
      rw [State.pool?_put found, if_pos rfl] at built'
      cases built'
      exact h.of_step atWork rfl rfl found rfl rfl did files
    · rw [State.pool?_put found, if_neg (Ne.symm hh), built] at built'
      cases built'
      refine h.of_same rfl rfl (fun _ mem => ?_) ?_ files
      · exact (State.mem_roles_set atWork rfl mem).resolve_right fun here => hh here.1
      · simp only [State.settling, atWork, if_neg hh]
        split <;> rfl
  | @answer i reply call site t' atWork found did =>
    cases alters
    refine h.of_same rfl rfl (fun r mem => ?_) rfl files
    rcases State.mem_roles_set atWork rfl mem with was | ⟨at_, role⟩
    · exact was
    · have moves := (Task.moves_of_answer (v := s.view call (fun _ => true) false) (p := p) did).2
      rw [role] at moves
      rcases moves.recruit with was | ⟨session, opened, -⟩
      · exact (State.mem_roles_iff (by simp)).2 ⟨i, call, atWork, at_, was⟩
      · have none := Task.enrolment_of_answer did
        rw [opened, role] at none
        cases none
  | finish atWork ended =>
    cases alters
    refine h.of_same rfl rfl (fun r mem => ?_) rfl files
    exact (State.mem_roles_set atWork rfl mem).resolve_right fun here => by cases here.2

/-! ## In every run -/

/-- What the stamps of a session say. -/
structure Stamped (home : PoolId) (past : List (State S × Choice S)) (key : SessionKey)
    (r : Record S) : Prop where
  created : makings home key past = [r.info.createdAt]
  latest : IsGreatest { t | t ∈ refreshments home key past } r.info.lastHeartbeat

theorem refreshes_of_makes (h : s.makes home key c = true) : s.refreshes home key c = true := by
  rw [State.refreshes, h]
  rfl

/-- A record is not made before the key of its session is drawn. -/
theorem makings_eq_nil (unknown : key ∉ (enrolled home past).map (·.1)) :
    makings home key past = [] := by
  refine List.eq_nil_iff_forall_not_mem.2 fun t mem => ?_
  obtain ⟨e, he, makes, -⟩ := mem_times.1 mem
  obtain ⟨e', he', same⟩ := List.mem_map.1 (of_decide_eq_true makes)
  exact unknown (List.mem_map.2 ⟨e', List.mem_flatMap.2 ⟨e, he, he'⟩, same⟩)

/-- What was refreshed just now was never refreshed later. -/
theorem Run.isGreatest_now (run : Run past s) (refreshes : s.refreshes home key c = true) :
    IsGreatest { t | t ∈ refreshments home key ((s, c) :: past) } s.now := by
  rw [refreshments, times_cons_of_true refreshes]
  refine ⟨List.mem_cons_self, fun t mem => ?_⟩
  rcases List.mem_cons.1 mem with rfl | mem
  · exact Int.le_refl _
  · obtain ⟨e, he, -, rfl⟩ := mem_times.1 mem
    exact run.now_le e he

/-- The stamp of a session is the latest of the moments at which it has got its record, was given
back, or has passed a probe. -/
theorem Run.stamped (run : Run past s) (built : s.pool? home = some p)
    (few : (enrolled home past).length < UInt64.size) (files : s.Files home p key r) :
    Stamped home past key r := by
  refine run.pool_induction (motive := fun past s p => (enrolled home past).length < UInt64.size →
    ∀ r, s.Files home p key r →
    Stamped home past key r) (fun {past s s' p c} run act old built _ r files => ?_)
    (fun {past s s' p p' c} run fresh act built built' ih few r files => ?_) built few r files
  · have new := run.new_ledger act old built
    rcases files with (found | found) | ⟨-, mem⟩
    · rw [show p.active = .empty from new.active] at found
      cases found
    · rw [show p.idle = .empty from new.idle] at found
      cases found
    · rw [show s'.roles home = [] from new.roles] at mem
      cases mem
  · have unmade {old : Record S} (was : s.Files home p key old) : s.makes home key c = false :=
      run.not_makes fresh act few (known_of_files run built (few_of_cons few) was)
    cases dates_of_act run fresh act built built' few files with
    | made makes created last =>
      refine ⟨?_, last ▸ run.isGreatest_now (refreshes_of_makes makes)⟩
      have unknown : key ∉ (enrolled home past).map (·.1) := fun known => by
        rw [run.not_makes fresh act few known] at makes
        cases makes
      rw [makings, times_cons_of_true makes, created]
      exact congrArg _ (makings_eq_nil unknown)
    | refreshed was refreshes created last =>
      refine ⟨?_, last ▸ run.isGreatest_now refreshes⟩
      rw [makings, times_cons_of_false (unmade was), created]
      exact (ih (few_of_cons few) _ was).created
    | kept was refreshes created last =>
      have before := ih (few_of_cons few) _ was
      refine ⟨?_, ?_⟩
      · rw [makings, times_cons_of_false (unmade was), created]
        exact before.created
      · rw [refreshments, times_cons_of_false refreshes, last]
        exact before.latest

/-- A record is not older than it was made, and shows nothing of the future. -/
theorem Stamped.between (h : Stamped home past key r) (run : Run past s) :
    r.info.createdAt ≤ r.info.lastHeartbeat ∧ r.info.lastHeartbeat ≤ s.now := by
  constructor
  · have mem : r.info.createdAt ∈ makings home key past := by
      rw [h.created]; exact List.mem_singleton.2 rfl
    obtain ⟨e, he, makes, same⟩ := mem_times.1 mem
    exact h.latest.2 (mem_times.2 ⟨e, he, refreshes_of_makes makes, same⟩)
  · obtain ⟨e, he, -, same⟩ := mem_times.1 h.latest.1
    exact same ▸ run.now_le e he

end Interleaving

end ConnectionPool
