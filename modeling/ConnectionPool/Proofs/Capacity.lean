import ConnectionPool.Proofs.Following
import ConnectionPool.Proofs.Sections

set_option autoImplicit false

/-! # The cap is kept

The sessions of a pool and the slots reserved in it make up its load. A slot is reserved in the
section that looks at the cap, and what comes of it is decided much later, when the session was
made, or could not be made, or the pool was closed meanwhile. The load keeps to the cap because the
slots are counted exactly: as many are reserved as there are acquirers that hold one (`Counted`), so
that a slot is neither lost nor given back twice.

The cap may change at any time, and an acquirer that has read it decides by what it has read. So the
load is bounded by a cap that was in force at some time, not by the present one. -/

namespace ConnectionPool

/-- The sessions of a pool, and the slots reserved for sessions still to be made. -/
def Pool.load {S : Type} (p : Pool S) : Nat := p.total + p.reserved.toNat

namespace Interleaving

variable {S : Type} {v : View S} {reply : Option (Reply S)} {p p' : Pool S} {x y : Role S}

theorem Alike.load (h : Alike p p') : p'.load = p.load := by
  simp only [Pool.load, Pool.total, h.active, h.idle, h.reserved]

/-! ## Slots and loads in one move -/

/-- The number of slots that come with a role. -/
def Role.slots (r : Role S) : Nat := if r.hasSlot then 1 else 0

theorem toNat_add_one_of_lt {n cap : UInt32} (h : n.toNat < cap.toNat) :
    (n + 1).toNat = n.toNat + 1 := by
  have := cap.toNat_lt
  rw [UInt32.toNat_add, UInt32.toNat_one]
  omega

theorem toNat_sub_one_of_pos {n : UInt32} (h : 0 < n.toNat) : (n - 1).toNat = n.toNat - 1 := by
  have hle : (1 : UInt32) ≤ n := UInt32.le_iff_toNat_le.2 h
  rw [UInt32.toNat_sub_of_le _ _ hle, UInt32.toNat_one]

/-- A move takes as many slots as its role gains. Whoever gives a slot back has one, and so the
count of slots does not fall below zero. -/
theorem Moves.reserved (m : Moves v reply p x p' y) (held : x.slots ≤ p.reserved.toNat) :
    p'.reserved.toNat + x.slots = p.reserved.toNat + y.slots := by
  cases m with
  | pass alike => rw [alike.reserved]
  | reuse lend =>
    obtain ⟨key, record, -, -, -, rfl⟩ := Pool.lend_eq_reuse lend
    rfl
  | reserve lend =>
    obtain ⟨hlt, rfl⟩ := Pool.lend_eq_reserve lend
    have hroom : p.reserved.toNat < _ := Nat.lt_of_le_of_lt (Nat.le_add_left _ _) hlt
    exact toNat_add_one_of_lt hroom
  | install isOpen =>
    -- the acquirer uses its slot up, so there is one to take off
    have hpos : 0 < p.reserved.toNat := held
    have hsub := toNat_sub_one_of_pos hpos
    simp only [Pool.install, isOpen, Pool.unreserve, Role.slots, Role.hasSlot]
    simp only [Bool.false_eq_true, if_false, if_true]
    omega
  | refuse closed | unreserve =>
    have hpos : 0 < p.reserved.toNat := held
    have hsub := toNat_sub_one_of_pos hpos
    simp only [Pool.unreserve, Role.slots, Role.hasSlot]
    simp only [Bool.false_eq_true, if_false, if_true]
    omega
  | takeBack taken =>
    obtain ⟨record, idle, -, rfl, -⟩ := Pool.takeBack_eq_some taken
    rfl
  | letGo taken =>
    obtain ⟨record, -, rfl⟩ := Pool.letGo_eq_some taken
    rfl
  | resize set =>
    rw [Pool.setMaxConnections_eq_ok set]
    rfl
  | retire shut => rcases shut with rfl | rfl <;> rfl
  | _ => rfl

/-- The load grows when a slot is reserved, and then stays within the cap that was read. -/
theorem Moves.load (m : Moves v reply p x p' y) (held : x.slots ≤ p.reserved.toNat) :
    p'.load ≤ p.load ∨ ∃ epoch cap, x = .poised epoch cap ∧ p.lend cap v.now = (p', .reserve) ∧
      p'.load = p.load + 1 ∧ p'.load ≤ cap.toNat := by
  have slots := m.reserved held
  cases m with
  | pass alike => exact .inl (Nat.le_of_eq alike.load)
  | reuse lend =>
    -- the session only changes rosters
    left
    obtain ⟨key, record, hfind, -, rfl, rfl⟩ := Pool.lend_eq_reuse lend
    have erased := Roster.size_erase p.idle key
    rw [Roster.count_keys_of_some hfind] at erased
    have inserted := Roster.size_insert_le p.active record.info.key (record.checkOut v.now)
    simp only [Pool.load, Pool.total]
    omega
  | @reserve epoch cap p' lend =>
    -- the only case in which the load grows
    right
    obtain ⟨hlt, rfl⟩ := Pool.lend_eq_reserve lend
    have hadd : (p.reserved + 1).toNat = p.reserved.toNat + 1 := slots
    have hload : ({ p with reserved := p.reserved + 1 } : Pool S).load = p.load + 1 := by
      simp only [Pool.load, Pool.total, hadd]
      omega
    refine ⟨epoch, cap, rfl, lend, hload, ?_⟩
    rw [hload]
    exact hlt
  | @install loan isOpen =>
    -- the session takes the place of the slot
    left
    have inserted := Roster.size_insert_le p.active loan.info.key loan
    simp only [Pool.install, isOpen, Pool.unreserve, Role.slots, Role.hasSlot] at slots ⊢
    simp only [Bool.false_eq_true, if_false, if_true, Pool.load, Pool.total] at slots ⊢
    omega
  | refuse closed | unreserve =>
    left
    simp only [Pool.unreserve, Role.slots, Role.hasSlot] at slots ⊢
    simp only [Bool.false_eq_true, if_false, if_true, Pool.load, Pool.total] at slots ⊢
    omega
  | @takeBack key p' rejected taken =>
    -- what becomes idle was active before
    left
    obtain ⟨record, idle, hfind, rfl, hidle⟩ := Pool.takeBack_eq_some taken
    have erased := Roster.size_erase p.active key
    rw [Roster.count_keys_of_some hfind] at erased
    have shelved : idle.size ≤ p.idle.size + 1 := by
      rcases hidle with rfl | rfl
      · exact Nat.le_succ _
      · exact Roster.size_insert_le _ _ _
    simp only [Pool.load, Pool.total]
    omega
  | @letGo key p' taken =>
    left
    obtain ⟨record, -, rfl⟩ := Pool.letGo_eq_some taken
    have erased := Roster.size_erase_le p.active key
    simp only [Pool.load, Pool.total]
    omega
  | beginProbes =>
    left
    simp only [Pool.load, Pool.total, Pool.beginProbes, Roster.size_map]
    exact Nat.le_refl _
  | @endProbes verdicts =>
    -- evictions make the load smaller
    left
    have kept := Roster.size_filter_le (p.idle.map (Pool.judge verdicts v.now))
      fun _ r => r.standing != .canceled
    rw [Roster.size_map] at kept
    simp only [Pool.load, Pool.total, Pool.endProbes]
    omega
  | resize set =>
    left
    rw [Pool.setMaxConnections_eq_ok set]
    exact Nat.le_refl _
  | drain =>
    left
    simp only [Pool.load, Pool.total, Pool.drain, Roster.size_empty]
    omega
  | _ => exact .inl (Nat.le_refl _)

/-- An acquirer that is about to decide has just read the cap, or was about to decide before. -/
theorem Moves.poised {epoch : UInt64} {cap : UInt32}
    (m : Moves v reply p x p' (.poised epoch cap)) :
    x = .poised epoch cap ∨ cap = p.settings.maxConnections := by
  cases m with
  | pass alike => exact .inl rfl
  | readCap => exact .inr rfl

/-! ## The invariant -/

namespace Ledger

/-- Slots are counted exactly, and the load is within a cap that was in force. -/
structure Counted (d : Ledger S) : Prop where
  slots : d.pool.reserved.toNat = d.roles.countP Role.hasSlot
  /-- An acquirer that is about to decide has read a cap that was in force. -/
  read : ∀ epoch cap, .poised epoch cap ∈ d.roles → cap ∈ d.caps
  current : d.pool.settings.maxConnections ∈ d.caps
  within : ∃ cap ∈ d.caps, d.pool.load ≤ cap.toNat

theorem Counted.new {d : Ledger S} (h : d.New) : d.Counted where
  slots := by simp [h.reserved, h.roles]
  read := by simp [h.roles]
  current := by simp [h.caps]
  within := by
    refine ⟨d.pool.settings.maxConnections, by simp [h.caps], ?_⟩
    simp [Pool.load, Pool.total, h.active, h.idle, h.reserved]

theorem countP_toList (r : Role S) : r.toList.countP Role.hasSlot = r.slots := by
  cases r <;> rfl

theorem Counted.next {d d' : Ledger S} (step : d.Next d') (h : d.Counted) : d'.Counted := by
  have caps : d.caps ⊆ d'.caps := step.caps ▸ List.subset_cons_self _ _
  have current : d'.pool.settings.maxConnections ∈ d'.caps := step.caps ▸ List.mem_cons_self
  -- what no move has touched is as it was
  have same (reserved : d'.pool.reserved = d.pool.reserved) (load : d'.pool.load = d.pool.load)
      (slots : d'.roles.countP Role.hasSlot = d.roles.countP Role.hasSlot)
      (read : ∀ epoch cap, .poised epoch cap ∈ d'.roles →
        .poised epoch cap ∈ d.roles) : d'.Counted := by
    obtain ⟨cap, hcap, hload⟩ := h.within
    refine ⟨?_, fun epoch cap hr => caps (h.read epoch cap (read epoch cap hr)), current, ?_⟩
    · rw [reserved, slots, h.slots]
    · exact ⟨cap, caps hcap, load ▸ hload⟩
  cases step.change with
  | quiet alike roles held enrolled =>
    exact same alike.reserved alike.load (roles.countP_eq _) fun epoch cap hr => roles.mem_iff.1 hr
  | claim pool held roles enrolled =>
    refine same (by rw [pool]) (by rw [pool]) ?_ ?_
    · simpa [Role.hasSlot] using roles.countP_eq Role.hasSlot
    · intro epoch cap hr
      simpa using roles.mem_iff.1 hr
  | issue pool roles held enrolled =>
    refine same (by rw [pool]) (by rw [pool]) ?_ ?_
    · simpa [Role.hasSlot] using (roles.countP_eq Role.hasSlot).symm
    · intro epoch cap hr
      exact roles.mem_iff.2 (List.mem_cons_of_mem _ hr)
  | @move v reply x y rest moves before after held seen enrolled fresh calm =>
    -- the other calls have as many slots as before
    have hold : d.pool.reserved.toNat = x.slots + rest.countP Role.hasSlot := by
      rw [h.slots, before.countP_eq, List.countP_append, countP_toList]
    have hnew : d'.roles.countP Role.hasSlot = y.slots + rest.countP Role.hasSlot := by
      rw [after.countP_eq, List.countP_append, countP_toList]
    have hheld : x.slots ≤ d.pool.reserved.toNat := by omega
    have hslots := moves.reserved hheld
    refine ⟨by omega, ?_, current, ?_⟩
    · intro epoch cap hr
      rcases List.mem_append.1 (after.mem_iff.1 hr) with hr | hr
      · obtain rfl := Role.eq_of_mem_toList hr
        rcases moves.poised with rfl | rfl
        · exact caps (h.read epoch cap (before.mem_iff.2 (by simp [Role.toList])))
        · exact caps h.current
      · exact caps (h.read epoch cap (before.mem_iff.2 (List.mem_append_right _ hr)))
    · rcases moves.load hheld with hle | ⟨epoch, cap, rfl, -, -, hle⟩
      · obtain ⟨cap, hcap, hload⟩ := h.within
        exact ⟨cap, caps hcap, Nat.le_trans hle hload⟩
      · exact ⟨cap, caps (h.read epoch cap (before.mem_iff.2 (by simp [Role.toList]))), hle⟩

end Ledger

/-! ## In every run -/

variable {past : List (State S × Choice S)} {s s' : State S} {c : Choice S} {home : PoolId}

theorem Run.counted (run : Run past s) (built : s.pool? home = some p) :
    (ledger home past s p).Counted :=
  run.ledger_induction (fun _ => Ledger.Counted.new) (fun _ _ => Ledger.Counted.next) built

/-- Whether the call is an acquirer that was answered with a slot of the pool, and has neither put a
session in its place nor given it back. -/
def Call.holdsSlot (home : PoolId) (c : Call S) : Bool := c.home == home && c.task.role.hasSlot

theorem countP_roles (s : State S) (home : PoolId) :
    (s.roles home).countP Role.hasSlot = s.calls.countP (Call.holdsSlot home) := by
  simp only [State.roles]
  induction s.calls with
  | nil => rfl
  | cons call rest ih =>
    rw [List.flatMap_cons, List.countP_append, List.countP_cons, ih, Nat.add_comm]
    congr 1
    by_cases hh : call.home = home
    · simp [Call.roleAt, Call.holdsSlot, hh, Ledger.countP_toList, Role.slots]
    · simp [Call.roleAt, Call.holdsSlot, hh]

/-- What the cap means for a pool at some moment of a run. -/
structure WithinCap (home : PoolId) (past : List (State S × Choice S)) (s : State S) (p : Pool S) :
    Prop where
  /-- As many slots are reserved as there are acquirers that hold one. -/
  slots : p.reserved.toNat = s.calls.countP (Call.holdsSlot home)
  /-- The load is within a cap that is in force, or was in force at some time. -/
  within : ∃ cap ∈ caps home past s, p.load ≤ cap.toNat
  /-- Snapshots tell the true numbers. -/
  shown : ∀ cap, (p.snapshot cap).active.toNat = p.active.size ∧
    (p.snapshot cap).idle.toNat = p.idle.size ∧
    (p.snapshot cap).total.toNat = (p.snapshot cap).active.toNat + (p.snapshot cap).idle.toNat

/-- What one choice may do to the load of a pool. -/
structure KeepsCap (home : PoolId) (s : State S) (c : Choice S) (p p' : Pool S) : Prop where
  /-- The count of slots goes up or down by one at most; it never runs over or under. -/
  slots : p'.reserved.toNat ≤ p.reserved.toNat + 1 ∧ p.reserved.toNat ≤ p'.reserved.toNat + 1
  /-- Only the section that reserves a slot makes the load grow, and not beyond the cap it has
  read. -/
  growth : p.load < p'.load → ∃ i connected contended call patience epoch cap,
    c = .step i connected contended ∧ s.calls[i]? = some call ∧ call.home = home ∧
      call.task = .acquire (.choose patience epoch cap) ∧ p.lend cap s.now = (p', .reserve) ∧
      p'.load = p.load + 1 ∧ p'.load ≤ cap.toNat

theorem toNat_saturate {n : Nat} (h : n < UInt32.size) : (Pool.saturate n).toNat = n := by
  rw [Pool.saturate, Nat.min_eq_left (by omega), UInt32.toNat_ofNat_of_lt' h]

/-- The load of a pool is within the range of the numbers that snapshots show. -/
theorem Ledger.Counted.load_lt {d : Ledger S} (h : d.Counted) : d.pool.load < UInt32.size := by
  obtain ⟨cap, -, hle⟩ := h.within
  exact Nat.lt_of_le_of_lt hle cap.toNat_lt

theorem Run.withinCap (run : Run past s) (built : s.pool? home = some p) :
    WithinCap home past s p := by
  have h := run.counted built
  have hlt : p.active.size + p.idle.size + p.reserved.toNat < UInt32.size := h.load_lt
  refine ⟨h.slots.trans (countP_roles s home), h.within, ?_⟩
  intro cap
  simp only [Pool.snapshot, Pool.total]
  rw [toNat_saturate (by omega), toNat_saturate (by omega), toNat_saturate (by omega)]
  exact ⟨rfl, rfl, rfl⟩

theorem KeepsCap.of_alike (alike : Alike p p') : KeepsCap home s c p p' := by
  refine ⟨?_, fun hlt => absurd hlt (Nat.not_lt_of_ge (Nat.le_of_eq alike.load))⟩
  rw [alike.reserved]
  omega

/-- The slot of a call, if it has one, is among those that are counted. -/
theorem Ledger.Counted.slots_le {i : Nat} {call : Call S} (h : (ledger call.home past s p).Counted)
    (atWork : s.calls[i]? = some call) : call.task.role.slots ≤ p.reserved.toNat := by
  obtain ⟨rest, before, -⟩ := State.exists_roles_set atWork call.home
  have hslots : p.reserved.toNat = (s.roles call.home).countP Role.hasSlot := h.slots
  rw [before.countP_eq, List.countP_append, Call.roleAt, if_pos rfl, Ledger.countP_toList] at hslots
  omega

/-- A call that goes on keeps to the cap of its pool. -/
theorem keepsCap_of_step {i : Nat} {connected : S → Bool} {contended : Bool}
    {call : Call S} {t' : Task S} (h : (ledger call.home past s p).Counted)
    (atWork : s.calls[i]? = some call)
    (did : call.task.step (s.view call connected contended) p = some (p', t')) :
    KeepsCap call.home s (.step i connected contended) p p' := by
  rcases Task.moves_of_step did with ⟨-, moves⟩ | ⟨rfl, -⟩
  · have held := h.slots_le atWork
    have slots := moves.reserved held
    have most (r : Role S) : r.slots ≤ 1 := by
      simp only [Role.slots]
      split <;> omega
    have hx := most call.task.role
    have hy := most t'.role
    refine ⟨by omega, ?_⟩
    intro hlt
    rcases moves.load held with hle | ⟨epoch, cap, hrole, lend, one, within⟩
    · omega
    · obtain ⟨patience, htask⟩ := Task.eq_choose_of_role hrole
      exact ⟨i, connected, contended, call, patience, epoch, cap, rfl, atWork,
        rfl, htask, lend, one, within⟩
  · exact .of_alike .rfl

theorem keepsCap_of_act (h : (ledger home past s p).Counted) (built : s.pool? home = some p)
    (act : s.act c = some s') (built' : s'.pool? home = some p') : KeepsCap home s c p p' := by
  -- only steps and adjustments touch shared states, and only those of one pool
  have elsewhere (same : s'.pool? home = s.pool? home) : KeepsCap home s c p p' := by
    rw [built, built'] at same
    cases same
    exact .of_alike .rfl
  cases happens_of_act act with
  | pass | begin | finish => exact elsewhere rfl
  | build made =>
    refine elsewhere ?_
    simp [State.pool?, List.getElem?_append_left (State.lt_of_pool? built)]
  | @adjust at_ change site found =>
    by_cases hh : home = at_
    · subst hh
      rw [State.pool?_of_set found, if_pos rfl] at built'
      rw [State.pool?_of_site found] at built
      cases built
      cases built'
      exact .of_alike change.alike
    · exact elsewhere (by rw [State.pool?_of_set found, if_neg hh])
  | @drop at_ byWorker site found owned free =>
    exact elsewhere (State.pool?_of_set_same found rfl)
  | @answer i reply call site t' atWork found did =>
    exact elsewhere (State.pool?_of_set_same found rfl)
  | @step i connected contended call site q t' atWork found did =>
    rw [State.pool?_put found] at built'
    split at built'
    · next hh =>
      subst hh
      rw [State.pool?_of_site found] at built
      cases built
      cases built'
      exact keepsCap_of_step h atWork did
    · rw [built] at built'
      cases built'
      exact .of_alike .rfl

/-- The load of a pool keeps to the cap in every run: slots are counted exactly, the load is within
a cap that was in force, snapshots are true, and only the section that reserves a slot makes the
load grow, as far as the cap it has read. -/
theorem load_within_cap (run : Run past s) (built : s.pool? home = some p) :
    WithinCap home past s p ∧
      ∀ c s' p', s.act c = some s' → s'.pool? home = some p' → KeepsCap home s c p p' :=
  ⟨run.withinCap built,
    fun _ _ _ act built' => keepsCap_of_act (run.counted built) built act built'⟩

/-- A pool for one session, and an acquirer that has just reserved the slot for it. -/
def reserving : List (Choice Nat) :=
  [.build { settings := { maxConnections := 1 } }, .begin (.tryAcquire 0)] ++
    List.replicate 5 (.step 1 (fun _ => true) false)

theorem load_within_cap_of_reserving :
    ∃ past s p, Run (S := Nat) past s ∧ s.pool? 0 = some p ∧ p.load = 1 ∧ WithinCap 0 past s p ∧
      ∀ c s' p', s.act c = some s' → s'.pool? 0 = some p' → KeepsCap 0 s c p p' := by
  have h : ((play reserving).bind fun r => (r.2.pool? 0).map Pool.load) = some 1 := by
    decide +kernel
  obtain ⟨⟨past, s⟩, played, h⟩ := Option.bind_eq_some_iff.1 h
  obtain ⟨p, built, load⟩ := Option.map_eq_some_iff.1 h
  have run := run_of_play played
  exact ⟨past, s, p, run, built, load, load_within_cap run built⟩

end Interleaving

end ConnectionPool
