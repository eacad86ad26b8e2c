import Mathlib.Data.List.Flatten
import ConnectionPool.Proofs.Batches
import ConnectionPool.Proofs.Vouching

set_option autoImplicit false

/-! # A session under probe is nobody else's

The mark of an idle session belongs to one cycle: the session is in the batch of that cycle, and in
no other batch, until the cycle has settled its verdicts (`Probed`). Acquirers, returns, the drain
of a shutdown and other cycles come in between, and none of them gives a marked session to a caller.
So a session whose probe has failed is never lent again: either its verdict is still to be settled,
or the session has no place in the pool any more, and it will never have one again. -/

namespace ConnectionPool

/-- Whether a batch is settled with the failure of a session. -/
def failing (verdicts : List (SessionKey × Verdict)) (key : SessionKey) : Bool :=
  (Roster.lookup key verdicts).any fun v => !v.isHealthy

theorem failing_of_mem {verdicts : List (SessionKey × Verdict)} {key : SessionKey}
    {verdict : Verdict} (once : (verdicts.map (·.1)).Nodup) (h : (key, verdict) ∈ verdicts)
    (fails : verdict.isHealthy = false) :
    failing verdicts key = true := by
  rw [failing, Roster.lookup_of_mem_of_nodup once h, Option.any_some, fails]
  rfl

namespace Pool

variable {S : Type} {p : Pool S} {verdicts : List (SessionKey × Verdict)} (now : Instant)

/-- An idle session whose verdict is a failure is cancelled, and no other one is. -/
theorem standing_judge {key : SessionKey} {r : Record S}
    (marked : key ∈ verdicts.map (·.1) → r.standing = .probing) (sound : r.standing ≠ .canceled) :
    (judge verdicts now key r).standing = .canceled ↔ failing verdicts key = true := by
  unfold judge failing
  cases found : Roster.lookup key verdicts with
  | none => simpa using sound
  | some verdict =>
    have mine : key ∈ verdicts.map (·.1) :=
      List.mem_map.2 ⟨_, Roster.mem_of_lookup_eq_some found, rfl⟩
    simp only [marked mine, if_true, Option.any_some]
    cases healthy : verdict.isHealthy <;> simp [Record.endProbe, healthy, Record.standing]

/-- A session without a failure becomes idle again if it was in the batch, and else stays as it
is. -/
theorem judge_of_not_failing {key : SessionKey} {r : Record S}
    (passes : failing verdicts key = false)
    (marked : key ∈ verdicts.map (·.1) → r.standing = .probing) :
    judge verdicts now key r = if key ∈ verdicts.map (·.1) then r.endProbe .healthy now else r := by
  unfold judge
  unfold failing at passes
  cases found : Roster.lookup key verdicts with
  | none => rw [if_neg (Roster.lookup_eq_none_iff.1 found)]
  | some verdict =>
    have mine : key ∈ verdicts.map (·.1) :=
      List.mem_map.2 ⟨_, Roster.mem_of_lookup_eq_some found, rfl⟩
    rw [found] at passes
    cases verdict with
    | failed reason => cases passes
    | healthy => simp only [marked mine, if_true, if_pos mine]

section

variable (marked : ∀ key r, p.idle.find? key = some r → key ∈ verdicts.map (·.1) →
  r.standing = .probing) (sound : ∀ key r, p.idle.find? key = some r → r.standing ≠ .canceled)
include marked sound

/-- What settling a batch leaves of the idle sessions. -/
theorem find?_endProbes_eq (key : SessionKey) : (p.endProbes verdicts now).1.idle.find? key =
    if failing verdicts key = true then none
    else if key ∈ verdicts.map (·.1) then (p.idle.find? key).map fun r => r.endProbe .healthy now
    else p.idle.find? key := by
  simp only [endProbes, Roster.find?_filter, Roster.find?_map]
  cases found : p.idle.find? key with
  | none => simp
  | some r =>
    have cancels := standing_judge now (marked key r found) (sound key r found)
    by_cases fails : failing verdicts key = true
    · simp [Option.filter, cancels.2 fails, fails]
    · have keeps : (judge verdicts now key r).standing ≠ .canceled := fun h => fails (cancels.1 h)
      rw [Option.map_some, Option.filter_some, if_pos (by simpa using keeps), if_neg fails,
        judge_of_not_failing now (by simpa using fails) (marked key r found)]
      split <;> rfl

/-- The sessions that settling a batch throws out. -/
theorem sessions_endProbes : (p.endProbes verdicts now).2 =
    (p.idle.holdings.filter fun e => failing verdicts e.1).map (·.2) := by
  simp only [endProbes, Roster.filter, Roster.map, Roster.values, Roster.holdings,
    List.filter_map, List.map_map]
  have same : p.idle.entries.filter ((fun e => e.2.standing == .canceled) ∘
      fun e : SessionKey × Record S => (e.1, judge verdicts now e.1 e.2)) =
      p.idle.entries.filter ((fun e => failing verdicts e.1) ∘ fun e => (e.1, e.2.session)) := by
    refine List.filter_congr fun e he => ?_
    have found := Roster.mem_entries_iff.1 he
    have cancels := standing_judge now (marked e.1 e.2 found) (sound e.1 e.2 found)
    rw [Bool.eq_iff_iff]
    simpa using cancels
  rw [same]
  exact List.map_congr_left fun e _ => session_judge verdicts e.1 e.2

end

end Pool

namespace Interleaving

variable {S : Type} {v : View S} {reply : Option (Reply S)} {home : PoolId}
  {past : List (State S × Choice S)} {s s' : State S} {c : Choice S} {p p' : Pool S} {x y : Role S}

/-! ## What is lent was idle and unmarked -/

/-- A session becomes active, or about to be, only if it was so before, or was idle without a mark,
or has just got its key. -/
theorem Moves.engages {enrolled : List (SessionKey × S)} (m : Moves v reply p x p' y)
    (filed : Filed enrolled p) {key : SessionKey}
    (h : 0 < y.recruits.count key + p'.active.keys.count key) :
    0 < x.recruits.count key + p.active.keys.count key ∨
      (∃ r, p.idle.find? key = some r ∧ r.standing = .idle) ∨ key ∈ (x.enrolment y).map (·.1) := by
  cases m with
  | pass alike =>
    rw [alike.active] at h
    exact .inl h
  | reuse lend =>
    obtain ⟨k, record, found, available, rfl, rfl⟩ := Pool.lend_eq_reuse lend
    simp only [Role.recruits, List.count_nil, Nat.zero_add, Roster.count_keys_insert,
      (filed.idle k record found).own] at h ⊢
    split at h
    · next same =>
      subst same
      refine .inr (.inl ⟨record, found, ?_⟩)
      revert available
      cases record.standing <;> simp [Standing.isAvailable]
    · exact .inl h
  | reserve lend =>
    obtain ⟨-, rfl⟩ := Pool.lend_eq_reserve lend
    exact .inl h
  | @enrol session =>
    by_cases drawn : key = p.nextKey
    · exact .inr (.inr (by simp [drawn, Role.enrolment, Record.lent, Metadata.new]))
    · left
      have other : [p.nextKey].count key = 0 := List.count_eq_zero.2 (by simpa using drawn)
      simp only [Role.recruits, Record.lent, Metadata.new, Pool.drawKey, other,
        List.count_nil] at h ⊢
      exact h
  | @install loan isOpen =>
    left
    simp only [Pool.install, isOpen, Pool.unreserve, Bool.false_eq_true, if_false, Role.recruits,
      Roster.count_keys_insert, List.count_nil, Nat.zero_add] at h ⊢
    split at h
    · next same =>
      subst same
      rw [List.count_cons_self]
      omega
    · omega
  | takeBack taken =>
    obtain ⟨record, idle, found, rfl, -⟩ := Pool.takeBack_eq_some taken
    simp only [Role.recruits, Roster.count_keys_erase] at h ⊢
    split at h <;> exact .inl (by omega)
  | letGo taken =>
    obtain ⟨record, found, rfl⟩ := Pool.letGo_eq_some taken
    simp only [Role.recruits, Roster.count_keys_erase] at h ⊢
    split at h <;> exact .inl (by omega)
  | resize set =>
    rw [Pool.setMaxConnections_eq_ok set] at h
    exact .inl h
  | refuse closed =>
    refine .inl (Nat.lt_of_lt_of_le h ?_)
    exact Nat.add_le_add_right (Nat.zero_le _) _
  | retire shut => rcases shut with rfl | rfl <;> exact .inl h
  | _ => exact .inl h

namespace Ledger

variable {d d' : Ledger S} {key : SessionKey}

/-- How often a session is found in the roster of active sessions, or about to be put there. -/
def engaged (d : Ledger S) (key : SessionKey) : Nat :=
  d.recruits.count key + d.pool.active.keys.count key

theorem Next.engages (step : d.Next d') (placed : d.Placed) (enrolled' : d'.Enrolled)
    (h : 0 < d'.engaged key) :
    0 < d.engaged key ∨ (∃ r, d.pool.idle.find? key = some r ∧ r.standing = .idle) ∨
      key ∉ d.enrolled.map (·.1) := by
  unfold engaged at h ⊢
  have unchanged (active : d'.pool.active = d.pool.active)
      (fewer : d'.recruits.count key = d.recruits.count key) :
      0 < d.recruits.count key + d.pool.active.keys.count key := by
    rw [active, fewer] at h
    exact h
  cases step.change with
  | quiet alike roles held enrolled =>
    exact .inl (unchanged alike.active ((roles.flatMap_right Role.recruits).count_eq key))
  | claim pool held roles enrolled =>
    exact .inl (unchanged (by rw [pool]) ((roles.flatMap_right Role.recruits).count_eq key))
  | issue pool roles held enrolled =>
    exact .inl (unchanged (by rw [pool]) ((roles.flatMap_right Role.recruits).count_eq key).symm)
  | @move v reply x y rest moves before after held seen enrolled fresh calm =>
    have old : d.recruits.Perm (x.recruits ++ rest.flatMap Role.recruits) :=
      Role.perm_flatMap rfl before
    have new : d'.recruits.Perm (y.recruits ++ rest.flatMap Role.recruits) :=
      Role.perm_flatMap rfl after
    rw [new.count_eq, List.count_append] at h
    rw [old.count_eq, List.count_append]
    by_cases others : 0 < (rest.flatMap Role.recruits).count key
    · exact .inl (by omega)
    · have mine : 0 < y.recruits.count key + d'.pool.active.keys.count key := by omega
      rcases moves.engages placed.filed mine with was | idle | drawn
      · exact .inl (by omega)
      · exact .inr (.inl idle)
      · right; right
        -- the key is new
        have unique := enrolled'.keys
        rw [enrolled, List.map_append] at unique
        exact fun known => (List.nodup_append.1 unique).2.2 key drawn key known rfl

/-- A session that is idle is not active, and not about to be. -/
theorem Placed.not_engaged (h : d.Placed) {r : Record S} (idle : d.pool.idle.find? key = some r) :
    d.engaged key = 0 := by
  have one := Roster.count_keys_of_some idle
  have apart := h.apart key
  unfold Pool.places at apart
  unfold engaged
  omega

end Ledger

/-! ## The invariant -/

/-- How the marks of a pool go with the batches of its cycles. -/
structure Probed (home : PoolId) (past : List (State S × Choice S)) (s : State S)
    (p : Pool S) : Prop where
  once : (s.batches home).Nodup
  marks : ∀ key r, p.idle.find? key = some r → (r.standing = .probing ↔ key ∈ s.batches home)
  /-- A session of a batch is not active, and not about to be. -/
  away : ∀ key ∈ s.batches home, (ledger home past s p).engaged key = 0
  known : ∀ e ∈ s.pending home, e ∈ enrolled home past
  /-- A verdict is the one that the probe of the session deserves. -/
  told : ∀ e ∈ s.judged home, ∃ session outcome, (e.1, session) ∈ enrolled home past ∧
    (session, outcome) ∈ probesIn home past ∧ e.2 = Heartbeat.verdict outcome
  /-- A session whose probe has failed is still to be thrown out, or has no place in the pool any
  more. -/
  failed : ∀ session outcome, (session, outcome) ∈ probesIn home past →
    (Heartbeat.verdict outcome).isHealthy = false → ∃ key, (key, session) ∈ enrolled home past ∧
      ((∃ verdict : Verdict, (key, verdict) ∈ s.judged home ∧ verdict.isHealthy = false) ∨
        (ledger home past s p).engaged key = 0 ∧ p.idle.find? key = none)

namespace Probed

theorem known_of_mem (h : Probed home past s p) {key : SessionKey} (mem : key ∈ s.batches home) :
    key ∈ (enrolled home past).map (·.1) := by
  rcases List.mem_append.1 mem with mem | mem
  · obtain ⟨e, he, rfl⟩ := List.mem_map.1 mem
    obtain ⟨session, -, known, -⟩ := h.told e he
    exact List.mem_map.2 ⟨_, known, rfl⟩
  · obtain ⟨e, he, rfl⟩ := List.mem_map.1 mem
    exact List.mem_map.2 ⟨e, h.known e he, rfl⟩

theorem mem_of_judged {e : SessionKey × Verdict} (he : e ∈ s.judged home) : e.1 ∈ s.batches home :=
  List.mem_append_left _ (List.mem_map_of_mem he)

end Probed

/-- What goes on at a pool whatever is chosen, as far as it matters for the batches: who was neither
active nor free to be lent is not active now. -/
structure Onward (home : PoolId) (past : List (State S × Choice S)) (s : State S) (p : Pool S)
    (past' : List (State S × Choice S)) (s' : State S) (p' : Pool S) : Prop where
  enrolled : enrolled home past ⊆ enrolled home past'
  engaged : ∀ key ∈ (Interleaving.enrolled home past).map (·.1),
    (ledger home past s p).engaged key = 0 → (∀ r, p.idle.find? key = some r → r.standing ≠ .idle) →
    (ledger home past' s' p').engaged key = 0
  apart : ∀ key r, p'.idle.find? key = some r → (ledger home past' s' p').engaged key = 0

theorem onward_of_act (run : Run past s) (fresh : c.Fresh s) (act : s.act c = some s')
    (built : s.pool? home = some p) (built' : s'.pool? home = some p')
    (few : (enrolled home ((s, c) :: past)).length < UInt64.size) :
    Onward home past s p ((s, c) :: past) s' p' := by
  obtain ⟨q, hq, step⟩ := next_of_act past run.grounded fresh act built
  cases hq.symm.trans built'
  obtain ⟨-, placed, -⟩ := run.custody built (few_of_cons few)
  obtain ⟨enrolled', placed', -⟩ := (run.next fresh act).custody built' few
  refine ⟨enrolled_subset _, fun key known none marked => ?_,
    fun key r found => placed'.not_engaged found⟩
  refine Nat.eq_zero_of_not_pos fun some => ?_
  rcases step.engages placed enrolled' some with was | ⟨r, found, idle⟩ | new
  · omega
  · exact marked r found idle
  · exact new known

namespace Probed

variable {past' : List (State S × Choice S)}

/-- Who is in a batch stays away from those that are lent. -/
theorem away_next (h : Probed home past s p) (on : Onward home past s p past' s' p')
    {key : SessionKey} (mem : key ∈ s.batches home) :
    (ledger home past' s' p').engaged key = 0 := by
  refine on.engaged key (h.known_of_mem mem) (h.away key mem) fun r found => ?_
  rw [(h.marks key r found).2 mem]
  exact nofun

theorem told_mono (h : Probed home past s p) (on : Onward home past s p past' s' p')
    (probes : probesIn home past ⊆ probesIn home past') {e : SessionKey × Verdict}
    (he : e ∈ s.judged home) :
    ∃ session outcome, (e.1, session) ∈ enrolled home past' ∧
      (session, outcome) ∈ probesIn home past' ∧ e.2 = Heartbeat.verdict outcome := by
  obtain ⟨session, outcome, known, probed, same⟩ := h.told e he
  exact ⟨session, outcome, on.enrolled known, probes probed, same⟩

/-- A session whose probe has failed does not come back. -/
theorem failed_next (h : Probed home past s p) (on : Onward home past s p past' s' p')
    (idle : ∀ key, (ledger home past s p).engaged key = 0 → p.idle.find? key = none →
      p'.idle.find? key = none)
    (judged : ∀ e ∈ s.judged home, e.2.isHealthy = false →
      e ∈ s'.judged home ∨ p'.idle.find? e.1 = none)
    {session : S} {outcome : Outcome Cause Unit} (probed : (session, outcome) ∈ probesIn home past)
    (fails : (Heartbeat.verdict outcome).isHealthy = false) :
    ∃ key, (key, session) ∈ enrolled home past' ∧
      ((∃ verdict : Verdict, (key, verdict) ∈ s'.judged home ∧ verdict.isHealthy = false) ∨
        (ledger home past' s' p').engaged key = 0 ∧ p'.idle.find? key = none) := by
  obtain ⟨key, known, ⟨verdict, mem, bad⟩ | ⟨none, gone⟩⟩ := h.failed session outcome probed fails
  · refine ⟨key, on.enrolled known, ?_⟩
    rcases judged _ mem bad with mem' | gone
    · exact .inl ⟨verdict, mem', bad⟩
    · exact .inr ⟨h.away_next on (mem_of_judged mem), gone⟩
  · refine ⟨key, on.enrolled known, .inr ⟨?_, idle key none gone⟩⟩
    refine on.engaged key (List.mem_map_of_mem known) none fun r found => ?_
    rw [gone] at found
    cases found

/-- The marks and the batches are left alone. -/
theorem leave (h : Probed home past s p) (on : Onward home past s p past' s' p')
    (pending : (s'.pending home).Perm (s.pending home))
    (judged : (s'.judged home).Perm (s.judged home))
    (probes : probesIn home past' = probesIn home past) (rest : Undisturbed p p') :
    Probed home past' s' p' := by
  have batches := State.batches_leave pending judged
  have lent {key : SessionKey} {r : Record S} (found : p.active.find? key = some r) :
      0 < (ledger home past s p).engaged key := by
    have one := Roster.count_keys_of_some found
    unfold Ledger.engaged
    exact Nat.lt_of_lt_of_le (one ▸ Nat.one_pos) (Nat.le_add_left _ _)
  refine
    { once := batches.nodup_iff.2 h.once
      marks := fun key r found => ?_
      away := fun key mem => h.away_next on (batches.mem_iff.1 mem)
      known := fun e he => on.enrolled (h.known e (pending.mem_iff.1 he))
      told := fun e he => h.told_mono on (by rw [probes]; exact List.Subset.refl _)
        (judged.mem_iff.1 he)
      failed := fun session outcome probed fails => ?_ }
  · rw [batches.mem_iff]
    rcases rest key r found with was | ⟨idle, r', active⟩
    · exact h.marks key r was
    · -- it was lent, so it is in no batch
      refine ⟨fun marked => ?_, fun mem => ?_⟩
      · rw [idle] at marked
        cases marked
      · have none := h.away key mem
        have := lent active
        omega
  · refine h.failed_next on (fun key none gone => ?_) (fun e he _ => .inl (judged.mem_iff.2 he))
      (probes ▸ probed) fails
    refine Option.eq_none_iff_forall_ne_some.2 fun r found => ?_
    rcases rest key r found with was | ⟨-, r', active⟩
    · rw [gone] at was
      cases was
    · have := lent active
      omega

/-- A cycle marks the sessions that are due. -/
theorem select {interval : Duration} {now : Instant} (h : Probed home past s p)
    (on : Onward home past s p past' s' (p.beginProbes interval now).1)
    (filed : Filed (enrolled home past) p)
    (pending : (s'.pending home).Perm ((p.beginProbes interval now).2 ++ s.pending home))
    (judged : (s'.judged home).Perm (s.judged home))
    (probes : probesIn home past' = probesIn home past) :
    Probed home past' s' (p.beginProbes interval now).1 := by
  have batches := State.batches_select judged pending
  have old {key : SessionKey} {r : Record S} (found : p.idle.find? key = some r)
      (isDue : r.isDue interval now = true) : key ∉ s.batches home := fun mem => by
    have marked := (h.marks key r found).2 mem
    rw [Record.standing_of_isDue isDue] at marked
    cases marked
  refine
    { once := batches.nodup_iff.2 (List.nodup_append'.2 ⟨?_, h.once, fun key mem mem' => ?_⟩)
      marks := fun key r found => ?_
      away := fun key mem => ?_
      known := fun e he => ?_
      told := fun e he => h.told_mono on (by rw [probes]; exact List.Subset.refl _)
        (judged.mem_iff.1 he)
      failed := fun session outcome probed fails => ?_ }
  · exact Pool.nodup_keys_beginProbes
  · obtain ⟨r, found, isDue⟩ := Pool.mem_keys_beginProbes.1 mem
    exact old found isDue mem'
  · simp only [Pool.beginProbes, Roster.find?_map, Option.map_eq_some_iff] at found
    obtain ⟨was, found, rfl⟩ := found
    rw [batches.mem_iff, List.mem_append, Pool.mem_keys_beginProbes]
    by_cases isDue : was.isDue interval now = true
    · rw [if_pos isDue]
      exact ⟨fun _ => .inl ⟨was, found, isDue⟩, fun _ => rfl⟩
    · rw [if_neg isDue, h.marks key was found]
      refine ⟨.inr, fun mem => mem.resolve_left ?_⟩
      rintro ⟨r, found', isDue'⟩
      cases found.symm.trans found'
      exact isDue isDue'
  · rcases List.mem_append.1 (batches.mem_iff.1 mem) with mem | mem
    · -- it is idle, so it is not lent
      obtain ⟨r, found, -⟩ := Pool.mem_keys_beginProbes.1 mem
      refine on.apart key (if r.isDue interval now then r.beginProbe else r) ?_
      simp [Pool.beginProbes, found]
    · exact h.away_next on mem
  · rcases List.mem_append.1 (pending.mem_iff.1 he) with he | he
    · obtain ⟨r, found, same⟩ := Pool.exists_of_mem_beginProbes he
      have known := (filed.idle _ _ found).known
      rw [same] at known
      exact on.enrolled known
    · exact on.enrolled (h.known e he)
  · refine h.failed_next on (fun key _ gone => ?_) (fun e he _ => .inl (judged.mem_iff.2 he))
      (probes ▸ probed) fails
    simp [Pool.beginProbes, gone]

/-- A session that was probed gets its verdict. -/
theorem hear {key : SessionKey} {session : S} {outcome : Outcome Cause Unit}
    (h : Probed home past s p) (on : Onward home past s p past' s' p)
    (pending : (s.pending home).Perm ((key, session) :: s'.pending home))
    (judged : (s'.judged home).Perm ((key, Heartbeat.verdict outcome) :: s.judged home))
    (probes : probesIn home past' = (session, outcome) :: probesIn home past) :
    Probed home past' s' p := by
  have batches := State.batches_hear pending judged
  have known := on.enrolled (h.known _ (pending.mem_iff.2 List.mem_cons_self))
  have sub : probesIn home past ⊆ probesIn home past' := by
    rw [probes]
    exact List.subset_cons_self _ _
  refine
    { once := batches.nodup_iff.2 h.once
      marks := fun key r found => by rw [batches.mem_iff]; exact h.marks key r found
      away := fun key mem => h.away_next on (batches.mem_iff.1 mem)
      known := fun e he => on.enrolled (h.known e (pending.mem_iff.2 (List.mem_cons_of_mem _ he)))
      told := fun e he => ?_
      failed := fun session' outcome' probed fails => ?_ }
  · rcases List.mem_cons.1 (judged.mem_iff.1 he) with rfl | he
    · exact ⟨session, outcome, known, by rw [probes]; exact List.mem_cons_self, rfl⟩
    · exact h.told_mono on sub he
  · rw [probes] at probed
    rcases List.mem_cons.1 probed with same | probed
    · cases same
      exact ⟨key, known, .inl ⟨_, judged.mem_iff.2 List.mem_cons_self, fails⟩⟩
    · refine h.failed_next on (fun _ _ gone => gone) (fun e he _ => .inl ?_) probed fails
      exact judged.mem_iff.2 (List.mem_cons_of_mem _ he)

/-- A cycle settles its batch. -/
theorem settle {verdicts : List (SessionKey × Verdict)} {now : Instant} (h : Probed home past s p)
    (on : Onward home past s p past' s' (p.endProbes verdicts now).1)
    (filed : Filed (enrolled home past) p)
    (pending : (s'.pending home).Perm (s.pending home))
    (judged : (s.judged home).Perm (verdicts ++ s'.judged home))
    (probes : probesIn home past' = probesIn home past) :
    Probed home past' s' (p.endProbes verdicts now).1 := by
  have batches := State.batches_settle pending judged
  obtain ⟨own, rest, apart⟩ := List.nodup_append'.1 (batches.nodup_iff.1 h.once)
  have mine {key : SessionKey} (mem : key ∈ verdicts.map (·.1)) : key ∈ s.batches home :=
    batches.mem_iff.2 (List.mem_append_left _ mem)
  have others {key : SessionKey} (mem : key ∈ s'.batches home) : key ∈ s.batches home :=
    batches.mem_iff.2 (List.mem_append_right _ mem)
  have left := Pool.find?_endProbes_eq now
    (fun key r found mem => (h.marks key r found).2 (mine mem))
    (fun key r found => by
      rcases (filed.idle key r found).standing with same | same <;> simp [same])
  refine
    { once := rest
      marks := fun key r found => ?_
      away := fun key mem => h.away_next on (others mem)
      known := fun e he => on.enrolled (h.known e (pending.mem_iff.1 he))
      told := fun e he => h.told_mono on (by rw [probes]; exact List.Subset.refl _)
        (judged.mem_iff.2 (List.mem_append_right _ he))
      failed := fun session outcome probed fails => ?_ }
  · rw [left] at found
    split at found
    · cases found
    · split at found
      · next mem =>
        -- it was in the batch, passed, and is free again
        obtain ⟨was, -, rfl⟩ := Option.map_eq_some_iff.1 found
        refine ⟨fun marked => ?_, fun mem' => (apart mem mem').elim⟩
        simp [Record.endProbe, Record.standing, Verdict.isHealthy] at marked
      · next none =>
        rw [h.marks key r found, batches.mem_iff, List.mem_append]
        exact ⟨fun mem => mem.resolve_left none, .inr⟩
  · refine h.failed_next on (fun key _ gone => ?_) (fun e he bad => ?_) (probes ▸ probed) fails
    · rw [left, gone]
      simp
    · rcases List.mem_append.1 (judged.mem_iff.1 he) with he | he
      · right
        rw [left, if_pos (failing_of_mem own he bad)]
      · exact .inl he

theorem next (h : Probed home past s p) (run : Run past s) (fresh : c.Fresh s)
    (act : s.act c = some s') (built : s.pool? home = some p) (built' : s'.pool? home = some p')
    (few : (enrolled home ((s, c) :: past)).length < UInt64.size) :
    Probed home ((s, c) :: past) s' p' := by
  have on := onward_of_act run fresh act built built' few
  have filed := (run.custody built (few_of_cons few)).2.1.filed
  cases progress_of_act act built built' with
  | leaves pending judged probes rest =>
    exact h.leave on pending judged (by rw [probesIn_cons, probes]; rfl) rest
  | selects pending judged probes pool =>
    subst pool
    exact h.select on filed pending judged (by rw [probesIn_cons, probes]; rfl)
  | hears pending judged probes pool =>
    subst pool
    exact h.hear on pending judged (by rw [probesIn_cons, probes]; rfl)
  | settles pending judged probes pool =>
    subst pool
    exact h.settle on filed pending judged (by rw [probesIn_cons, probes]; rfl)

end Probed

/-! ## In every run -/

/-- Nothing is probed in a pool that is not built yet. -/
theorem Run.unprobed (run : Run past s) (h : s.pool? home = none) :
    s.pending home = [] ∧ s.judged home = [] ∧ probesIn home past = [] := by
  refine ⟨?_, ?_, ?_⟩
  · exact List.flatMap_eq_nil_iff.2 fun call hc => if_neg (run.grounded.elsewhere h hc)
  · exact List.flatMap_eq_nil_iff.2 fun call hc => if_neg (run.grounded.elsewhere h hc)
  · induction run with
    | start => rfl
    | @next past s s' c run fresh act ih =>
      have old := run.pool?_eq_none_of_act fresh act h
      rw [probesIn_cons, ih old, List.append_nil]
      cases happens_of_act act with
      | answer atWork =>
        have away := run.grounded.elsewhere old (List.mem_of_getElem? atWork)
        exact State.probes_of_answer atWork (if_neg away)
      | _ => rfl

theorem Run.probed (run : Run past s) (built : s.pool? home = some p)
    (few : (enrolled home past).length < UInt64.size) : Probed home past s p := by
  induction run generalizing p with
  | start now => simp [State.pool?] at built
  | @next past s s' c run fresh act ih =>
    cases old : s.pool? home with
    | some q => exact (ih old (few_of_cons few)).next run fresh act old built few
    | none =>
      have idle : p.idle = .empty := (run.new_ledger act old built).idle
      obtain ⟨pending, judged, probes⟩ := run.unprobed old
      obtain ⟨builder, made, rfl, -⟩ := exists_build act old built
      have noProbes : probesIn home ((s, .build builder) :: past) = [] := by
        rw [probesIn_cons, probes]; rfl
      cases happens_of_act act with
      | @build _ made' =>
      -- its worker has just begun, and nothing has happened to it
      obtain ⟨pending', judged'⟩ := (Begins.work : Begins s (.build builder) _).batches { s with
          sites := s.sites ++ [{ pool := made' }]
          calls := s.calls ++ [⟨s.sites.length, false, .work .start⟩] } rfl home
      have noPending := pending'.trans pending
      have noJudged := judged'.trans judged
      refine ⟨?_, ?_, ?_, ?_, ?_, ?_⟩
      · simp [State.batches, noPending, noJudged]
      · simp [idle]
      · simp [State.batches, noPending, noJudged]
      · simp [noPending]
      · simp [noJudged]
      · simp [noProbes]

end Interleaving

end ConnectionPool
