import ConnectionPool.Proofs.Membership

set_option autoImplicit false

/-! # Every lent session has one owner

A session is lent in the section that puts it into the roster of active sessions, and it is settled
in the section that takes it out. Between the two it is owned by exactly one party: the acquirer
that was answered with it, the lease that was issued for it, or the call that is to take it back or
let it go. It changes hands in steps that no pool takes part in, so the roster and the owners have
to be counted against each other (`Owned.most`, `Owned.all`).

Once a pool is gone nobody takes sessions back any more; whoever still holds one closes it, and the
roster that nobody sees may keep more keys than there are owners. -/

namespace ConnectionPool

namespace Interleaving

variable {S : Type} {v : View S} {reply : Option (Reply S)} {p p' : Pool S} {x y : Role S}

/-! ## Owners in one move -/

/-- What a move takes into custody it also makes active, and what it takes out it settles; while the
pool exists the two are the same. -/
theorem Moves.custody {enrolled : List (SessionKey × S)} (m : Moves v reply p x p' y)
    (h : Filed enrolled p) (key : SessionKey) (apart : x.recruits.count key + p.places key ≤ 1)
    (most : x.stakes.count key ≤ p.active.keys.count key) :
    y.stakes.count key + p.active.keys.count key ≤ x.stakes.count key + p'.active.keys.count key ∧
    (v.alive = true →
      x.stakes.count key + p'.active.keys.count key ≤
        y.stakes.count key + p.active.keys.count key) := by
  cases m with
  | pass alike =>
    rw [alike.active]
    exact ⟨Nat.le_refl _, fun _ => Nat.le_refl _⟩
  | @reuse epoch cap p' loan lend =>
    obtain ⟨k, record, hfind, -, rfl, rfl⟩ := Pool.lend_eq_reuse lend
    -- the key was on the shelf, so nobody had a stake in it
    have own : record.info.key = k := (h.idle k record hfind).own
    have hone := Roster.count_keys_of_some hfind
    simp only [Role.stakes, Record.key_checkOut, own, Pool.places, Roster.count_keys_insert,
      List.count_nil] at apart ⊢
    by_cases hk : key = k
    · subst hk
      simp only [List.count_cons_self, List.count_nil, if_true]
      omega
    · rw [if_neg hk, List.count_cons_of_ne (Ne.symm hk), List.count_nil]
      omega
  | reserve lend =>
    obtain ⟨-, rfl⟩ := Pool.lend_eq_reserve lend
    exact ⟨Nat.le_refl _, fun _ => Nat.le_refl _⟩
  | @install loan isOpen =>
    simp only [Pool.install, isOpen, Pool.unreserve, Bool.false_eq_true, if_false, Role.stakes,
      Role.recruits, Pool.places, Roster.count_keys_insert, List.count_nil] at apart ⊢
    by_cases hk : key = loan.info.key
    · subst hk
      simp only [List.count_cons_self, List.count_nil, if_true] at apart ⊢
      omega
    · rw [if_neg hk, List.count_cons_of_ne (Ne.symm hk), List.count_nil]
      omega
  | @lose k gone =>
    refine ⟨by simp only [Role.stakes, List.count_nil]; omega, ?_⟩
    intro alive
    -- while the pool exists a call loses only a session that is not active any more
    rcases gone with gone | gone
    · rw [alive] at gone
      cases gone
    · by_cases hk : key = k
      · subst hk
        rw [Roster.count_keys_of_none gone] at most
        simp [Role.stakes] at most
      · simp [Role.stakes, List.count_cons_of_ne (Ne.symm hk)]
  | @takeBack k p' rejected taken =>
    obtain ⟨record, idle, hfind, rfl, -⟩ := Pool.takeBack_eq_some taken
    have hone := Roster.count_keys_of_some hfind
    simp only [Role.stakes, Roster.count_keys_erase, List.count_nil]
    by_cases hk : key = k
    · subst hk
      simp only [List.count_cons_self, List.count_nil, if_true]
      omega
    · rw [if_neg hk, List.count_cons_of_ne (Ne.symm hk), List.count_nil]
      omega
  | @letGo k p' taken =>
    obtain ⟨record, hfind, rfl⟩ := Pool.letGo_eq_some taken
    have hone := Roster.count_keys_of_some hfind
    simp only [Role.stakes, Roster.count_keys_erase, List.count_nil]
    by_cases hk : key = k
    · subst hk
      simp only [List.count_cons_self, List.count_nil, if_true]
      omega
    · rw [if_neg hk, List.count_cons_of_ne (Ne.symm hk), List.count_nil]
      omega
  | resize set =>
    rw [Pool.setMaxConnections_eq_ok set]
    exact ⟨Nat.le_refl _, fun _ => Nat.le_refl _⟩
  | retire shut => rcases shut with rfl | rfl <;> exact ⟨Nat.le_refl _, fun _ => Nat.le_refl _⟩
  | _ => exact ⟨Nat.le_refl _, fun _ => Nat.le_refl _⟩

/-- A move leaves the active sessions alone that the call does not own, before or after. -/
theorem Moves.frame (m : Moves v reply p x p' y) {key : SessionKey}
    (before : x.stakes.count key = 0) (after : y.stakes.count key = 0) :
    p'.active.find? key = p.active.find? key := by
  cases m with
  | pass alike => rw [alike.active]
  | reuse lend =>
    obtain ⟨k, record, hfind, -, rfl, rfl⟩ := Pool.lend_eq_reuse lend
    rw [Roster.find?_insert, if_neg]
    rintro rfl
    simp [Role.stakes] at after
  | reserve lend =>
    obtain ⟨-, rfl⟩ := Pool.lend_eq_reserve lend
    rfl
  | install isOpen =>
    simp only [Pool.install, isOpen, Pool.unreserve, Bool.false_eq_true, if_false,
      Roster.find?_insert]
    rw [if_neg]
    rintro rfl
    simp [Role.stakes] at after
  | takeBack taken =>
    obtain ⟨record, idle, hfind, rfl, -⟩ := Pool.takeBack_eq_some taken
    rw [Roster.find?_erase, if_neg]
    rintro rfl
    simp [Role.stakes] at before
  | letGo taken =>
    obtain ⟨record, hfind, rfl⟩ := Pool.letGo_eq_some taken
    rw [Roster.find?_erase, if_neg]
    rintro rfl
    simp [Role.stakes] at before
  | resize set => rw [Pool.setMaxConnections_eq_ok set]
  | _ => rfl

/-- A session that was lent is active under the very record that the acquirer was answered with. -/
theorem Moves.loan {r : Record S} (m : Moves v reply p x p' (.loan r)) :
    p'.active.find? r.info.key = some r ∨ x = .loan r ∧ p'.active = p.active := by
  cases m with
  | pass alike => exact .inr ⟨rfl, alike.active⟩
  | reuse lend =>
    obtain ⟨k, record, -, -, rfl, rfl⟩ := Pool.lend_eq_reuse lend
    left
    simp
  | install isOpen =>
    left
    simp [Pool.install, isOpen, Pool.unreserve]

/-! ## The invariant -/

namespace Ledger

/-- The keys of the lent sessions, by their owners: the leases that hold them, and the calls that
have them in their hands. -/
def stakes (d : Ledger S) : List SessionKey :=
  d.held.map (·.info.key) ++ d.roles.flatMap Role.stakes

/-- Every lent session has exactly one owner, who has the record that the pool has. -/
structure Owned (d : Ledger S) : Prop where
  most : ∀ key, d.stakes.count key ≤ d.pool.active.keys.count key
  all : d.alive = true → ∀ key, d.pool.active.keys.count key ≤ d.stakes.count key
  held : ∀ r ∈ d.held, d.pool.active.find? r.info.key = some r
  loans : ∀ r, .loan r ∈ d.roles → d.pool.active.find? r.info.key = some r

theorem Owned.new {d : Ledger S} (h : d.New) : d.Owned where
  most := by simp [stakes, h.held, h.roles]
  all := by simp [h.active]
  held := by simp [h.held]
  loans := by simp [h.roles]

/-- A roster has a key once at most, and so there is one owner at most. -/
theorem Owned.most_one {d : Ledger S} (h : d.Owned) (key : SessionKey) : d.stakes.count key ≤ 1 :=
  Nat.le_trans (h.most key) (List.nodup_iff_count_le_one.1 (Roster.nodup_keys _) key)

theorem Owned.next {d d' : Ledger S} (step : d.Next d') (placed : d.Placed) (h : d.Owned) :
    d'.Owned := by
  -- when sessions only change hands, the owners are the same keys in another order
  have unchanged (active : d'.pool.active = d.pool.active) (same : d'.stakes.Perm d.stakes)
      (held : ∀ r ∈ d'.held, r ∈ d.held ∨ .loan r ∈ d.roles)
      (loans : ∀ r, .loan r ∈ d'.roles → .loan r ∈ d.roles) : d'.Owned := by
    refine ⟨?_, ?_, ?_, ?_⟩
    · intro key
      rw [active, same.count_eq]
      exact h.most key
    · intro alive key
      rw [active, same.count_eq]
      exact h.all (step.alive alive) key
    · intro r hr
      rw [active]
      exact (held r hr).elim (h.held r) (h.loans r)
    · intro r hr
      rw [active]
      exact h.loans r (loans r hr)
  cases step.change with
  | quiet alike roles held enrolled =>
    exact unchanged alike.active ((held.map _).append (roles.flatMap_right _))
      (fun r hr => .inl (held.mem_iff.1 hr)) fun r hr => roles.mem_iff.1 hr
  | claim pool held roles enrolled =>
    refine unchanged (by rw [pool]) ?_
      (fun r hr => .inl (held.mem_iff.2 (List.mem_cons_of_mem _ hr)))
      fun r hr => by simpa using roles.mem_iff.1 hr
    refine ((roles.flatMap_right Role.stakes).append_left _).trans ?_
    exact List.perm_middle.trans ((held.map (·.info.key)).symm.append_right _)
  | issue pool roles held enrolled =>
    refine unchanged (by rw [pool]) ?_ (fun r hr => ?_)
      fun r hr => roles.mem_iff.2 (List.mem_cons_of_mem _ hr)
    · refine ((held.map (·.info.key)).append_right _).trans ?_
      exact List.perm_middle.symm.trans ((roles.flatMap_right Role.stakes).symm.append_left _)
    · rcases List.mem_cons.1 (held.mem_iff.1 hr) with rfl | hr
      · exact .inr (roles.mem_iff.2 List.mem_cons_self)
      · exact .inl hr
  | @move v reply x y rest moves before after held seen enrolled fresh calm =>
    -- the owners of a key are counted apart: leases, the call that moves, and the other calls
    have heldKeys : (d'.held.map (·.info.key)).Perm (d.held.map (·.info.key)) := held.map _
    have old (key : SessionKey) : d.stakes.count key =
        (d.held.map (·.info.key)).count key +
        (x.stakes.count key + (rest.flatMap Role.stakes).count key) := by
      rw [stakes, List.count_append, (Role.perm_flatMap rfl before).count_eq, List.count_append]
    have new (key : SessionKey) : d'.stakes.count key =
        (d.held.map (·.info.key)).count key +
        (y.stakes.count key + (rest.flatMap Role.stakes).count key) := by
      rw [stakes, List.count_append, (Role.perm_flatMap rfl after).count_eq, List.count_append,
        heldKeys.count_eq]
    have custody (key : SessionKey) := moves.custody placed.filed key
      (by
        have := placed.apart key
        rw [recruits, (Role.perm_flatMap rfl before).count_eq, List.count_append] at this
        omega)
      (by
        have := h.most key
        rw [old] at this
        omega)
    have most (key : SessionKey) : d'.stakes.count key ≤ d'.pool.active.keys.count key := by
      have := h.most key
      have := (custody key).1
      rw [old] at *
      rw [new]
      omega
    have single (key : SessionKey) : d'.stakes.count key ≤ 1 :=
      Nat.le_trans (most key) (List.nodup_iff_count_le_one.1 (Roster.nodup_keys _) key)
    -- a key that somebody else owns is none of the call's, before or after
    have others {key : SessionKey}
        (hk : 0 < (d.held.map (·.info.key)).count key + (rest.flatMap Role.stakes).count key) :
        d'.pool.active.find? key = d.pool.active.find? key := by
      have hold := h.most_one key
      have hnew := single key
      rw [old] at hold
      rw [new] at hnew
      exact moves.frame (by omega) (by omega)
    refine ⟨most, ?_, ?_, ?_⟩
    · intro alive key
      have hall := h.all (step.alive alive) key
      have := (custody key).2 (seen.trans (step.alive alive))
      rw [old] at hall
      rw [new]
      omega
    · intro r hr
      have hr := held.mem_iff.1 hr
      have hk := List.count_pos_iff.2 (List.mem_map_of_mem (f := (·.info.key)) hr)
      rw [others (by omega)]
      exact h.held r hr
    · intro r hr
      rcases List.mem_append.1 (after.mem_iff.1 hr) with hr | hr
      · -- the call was answered with its loan just now, or has it still
        obtain rfl := Role.eq_of_mem_toList hr
        rcases moves.loan with hfind | ⟨rfl, same⟩
        · exact hfind
        · rw [same]
          exact h.loans r (before.mem_iff.2 (by simp [Role.toList]))
      · have hk : r.info.key ∈ rest.flatMap Role.stakes :=
          List.mem_flatMap.2 ⟨_, hr, List.mem_singleton.2 rfl⟩
        have hk := List.count_pos_iff.2 hk
        rw [others (by omega)]
        exact h.loans r (before.mem_iff.2 (List.mem_append_right _ hr))

end Ledger

/-! ## In every run -/

variable {past : List (State S × Choice S)} {s : State S} {home : PoolId}

/-- Keys that were drawn stay drawn. -/
theorem Ledger.Change.enrolled_le {d d' : Ledger S} (h : d.Change d') :
    d.enrolled.length ≤ d'.enrolled.length := by
  cases h with
  | quiet alike roles held enrolled => exact Nat.le_of_eq (by rw [enrolled])
  | claim pool held roles enrolled => exact Nat.le_of_eq (by rw [enrolled])
  | issue pool roles held enrolled => exact Nat.le_of_eq (by rw [enrolled])
  | move moves before after held seen enrolled fresh calm =>
    rw [enrolled, List.length_append]
    exact Nat.le_add_left _ _

/-- As long as the counter of keys has not gone round, sessions are enrolled, placed and owned as
they should be. -/
theorem Run.custody (run : Run past s) (built : s.pool? home = some p)
    (few : (enrolled home past).length < UInt64.size) :
    (ledger home past s p).Enrolled ∧ (ledger home past s p).Placed ∧
      (ledger home past s p).Owned := by
  have inv : (ledger home past s p).enrolled.length < UInt64.size →
      (ledger home past s p).Enrolled ∧ (ledger home past s p).Placed ∧
      (ledger home past s p).Owned := by
    refine run.ledger_induction
      (motive := fun d => d.enrolled.length < UInt64.size → d.Enrolled ∧ d.Placed ∧ d.Owned)
      (fun d new _ => ⟨.new new, .new new, .new new⟩) (fun d d' step ih few => ?_) built
    obtain ⟨hEnrolled, hPlaced, hOwned⟩ := ih (Nat.lt_of_le_of_lt step.change.enrolled_le few)
    have hEnrolled' := hEnrolled.next step few
    exact ⟨hEnrolled', hPlaced.next step hEnrolled', hOwned.next step hPlaced⟩
  exact inv few

/-- Keys are drawn in ascending order, as long as their counter has not gone round. -/
theorem Run.descending (run : Run past s) (built : s.pool? home = some p)
    (few : (enrolled home past).length < UInt64.size) :
    (enrolled home past).Pairwise fun later earlier => earlier.1 < later.1 := by
  have inv : (ledger home past s p).enrolled.length < UInt64.size →
      (ledger home past s p).Enrolled ∧
      (ledger home past s p).enrolled.Pairwise fun later earlier => earlier.1 < later.1 := by
    refine run.ledger_induction (motive := fun d => d.enrolled.length < UInt64.size → d.Enrolled ∧
      d.enrolled.Pairwise fun later earlier => earlier.1 < later.1) (fun d new _ =>
      ⟨.new new, by simp [new.enrolled]⟩)
      (fun d d' step ih few => ?_) built
    have fewer := Nat.lt_of_le_of_lt step.change.enrolled_le few
    obtain ⟨known, descending⟩ := ih fewer
    refine ⟨known.next step few, ?_⟩
    cases step.change with
    | quiet alike roles held enrolled => exact enrolled ▸ descending
    | claim pool held roles enrolled => exact enrolled ▸ descending
    | issue pool roles held enrolled => exact enrolled ▸ descending
    | @move v reply x y rest moves before after held seen enrolled fresh calm =>
      rcases moves.newcomers with ⟨none, -⟩ | ⟨session, -, -, one, -⟩
      · rw [none] at enrolled
        exact enrolled ▸ descending
      · -- the counter shows how many keys were drawn before
        rw [one] at enrolled
        rw [enrolled]
        refine List.pairwise_cons.2 ⟨fun e he => ?_, descending⟩
        have counter := Ledger.toNat_key known.counter (by rw [enrolled] at few; simpa using few)
        have drawn := known.drawn e he
        rw [SessionKey.lt_def, UInt64.lt_iff_toNat_lt, counter]
        omega
  exact (inv few).2

/-- The keys of the lent sessions of a pool, by their owners: the leases that were not released, and
the calls that were lent a session, or are to take it back or let it go. -/
def State.owners (s : State S) (home : PoolId) : List SessionKey :=
  (s.held home).map (·.info.key) ++ (s.roles home).flatMap Role.stakes

/-- All leases, those included that calls work on. -/
def State.allLeases (s : State S) : List (Lease S) := s.leases ++ s.calls.flatMap (·.task.leases)

/-- How a pool keeps its sessions apart, at some moment of a run. -/
structure SingleOwner (home : PoolId) (past : List (State S × Choice S))
    (s : State S) (p : Pool S) : Prop where
  /-- An active session has its record under its key, and the record says that it is lent. -/
  active : ∀ key r, p.active.find? key = some r →
    r.info.key = key ∧ r.standing = .active ∧ (key, r.session) ∈ enrolled home past
  /-- So has an idle session; its record says that it may be lent, or that it is being probed. -/
  idle : ∀ key r, p.idle.find? key = some r →
    r.info.key = key ∧ (r.standing = .idle ∨ r.standing = .probing) ∧
      (key, r.session) ∈ enrolled home past
  /-- No session is active and idle. -/
  disjoint : ∀ key, key ∈ p.active.keys → key ∉ p.idle.keys
  /-- The counter is one ahead of the number of keys drawn so far. -/
  counter : p.nextKey.number = .ofNat ((enrolled home past).length + 1)
  /-- Keys are below the counter, also as words unless the last word was drawn. -/
  below : ∀ e ∈ enrolled home past, e.1.number.toNat < (enrolled home past).length + 1 ∧
    (e.1 < p.nextKey ∨ (enrolled home past).length + 1 = UInt64.size)
  /-- No key is given to two sessions, and no session gets two keys. -/
  once : ((enrolled home past).map (·.1)).Nodup ∧ ((enrolled home past).map (·.2)).Nodup
  /-- While the pool exists its active sessions are in bijection with their owners. -/
  owners : s.alive home = true → (s.owners home).Perm p.active.keys
  /-- A lease that was not released holds the session and the bookkeeping of the active record. -/
  leases : ∀ l ∈ s.allLeases, l.home = home → ∀ session, l.session = some session →
    p.active.find? l.info.key = some ⟨session, l.info⟩
  /-- No two leases that were not released hold the same session. -/
  distinct : ((s.held home).map (·.session)).Nodup

theorem mem_held_of_lease {l : Lease S} {session : S} (hl : l ∈ s.allLeases) (hh : l.home = home)
    (hs : l.session = some session) : (⟨session, l.info⟩ : Record S) ∈ s.held home := by
  have hr : record? home l = some ⟨session, l.info⟩ := by simp [record?, hh, hs]
  rcases List.mem_append.1 hl with hl | hl
  · exact List.mem_append_left _ (List.mem_filterMap.2 ⟨l, hl, hr⟩)
  · obtain ⟨call, hcall, hl⟩ := List.mem_flatMap.1 hl
    refine List.mem_append_right _ (List.mem_flatMap.2 ⟨call, hcall, ?_⟩)
    exact List.mem_filterMap.2 ⟨l, hl, hr⟩

/-- Every session of a pool has a single owner, in every run in which fewer than `2 ^ 64` keys of
the pool were drawn. -/
theorem single_owner (run : Run past s) (built : s.pool? home = some p)
    (few : (enrolled home past).length < UInt64.size) : SingleOwner home past s p := by
  obtain ⟨hEnrolled, hPlaced, hOwned⟩ := run.custody built few
  have sessions : ((enrolled home past).map (·.2)).Nodup :=
    (List.nodup_append.1 hEnrolled.sessions).1
  refine
    { active := fun key r hr => ?_
      idle := fun key r hr => ?_
      disjoint := fun key ha hi => ?_
      counter := hEnrolled.counter
      below := fun e he => ?_
      once := ⟨hEnrolled.keys, sessions⟩
      owners := fun alive => ?_
      leases := fun l hl hh session hs => hOwned.held _ (mem_held_of_lease hl hh hs)
      distinct := ?_ }
  · have m := hPlaced.filed.active key r hr
    exact ⟨m.own, m.standing, m.known⟩
  · have m := hPlaced.filed.idle key r hr
    exact ⟨m.own, m.standing, m.known⟩
  · have apart : p.active.keys.count key + p.idle.keys.count key ≤ 1 :=
      Nat.le_trans (Nat.le_add_left _ _) (hPlaced.apart key)
    have := List.count_pos_iff.2 ha
    have := List.count_pos_iff.2 hi
    omega
  · have hle : e.1.number.toNat ≤ (enrolled home past).length := (hEnrolled.drawn e he).2
    refine ⟨Nat.lt_succ_of_le hle, ?_⟩
    by_cases hlast : (enrolled home past).length + 1 = UInt64.size
    · exact .inr hlast
    · left
      have hcounter : p.nextKey.number.toNat = (enrolled home past).length + 1 :=
        Ledger.toNat_key hEnrolled.counter (by omega)
      rw [SessionKey.lt_def, UInt64.lt_iff_toNat_lt]
      omega
  · refine Roster.perm_keys_of_count ?_
    intro key
    exact Nat.le_antisymm (hOwned.most key) (hOwned.all alive key)
  · -- two leases of one session would have its key twice
    have keys : ((s.held home).map (·.info.key)).Nodup := by
      refine List.nodup_iff_count_le_one.2 ?_
      intro key
      have one := hOwned.most_one key
      rw [Ledger.stakes, List.count_append] at one
      exact Nat.le_trans (Nat.le_add_right _ _) one
    refine List.Nodup.map_on ?_ keys.of_map
    intro r hr r' hr' same
    have m := hPlaced.filed.active _ r (hOwned.held r hr)
    have m' := hPlaced.filed.active _ r' (hOwned.held r' hr')
    have hpair := List.inj_on_of_nodup_map sessions m.known m'.known same
    exact List.inj_on_of_nodup_map keys hr hr' (Prod.mk.inj hpair).1

/-- Two sessions are lent, and the first one is about to be given back. -/
def sharing : List (Choice Nat) :=
  [.build { settings := { maxConnections := 2 }, source := some .server }] ++ lending 1 10 ++
    lending 2 20 ++ [.begin (.release 0)]

theorem single_owner_of_sharing :
    ∃ past s p, Run (S := Nat) past s ∧ s.pool? 0 = some p ∧
      (enrolled 0 past).length < UInt64.size ∧ s.owners 0 = [⟨2⟩, ⟨1⟩] ∧
      SingleOwner 0 past s p := by
  have h : ((play sharing).bind fun r =>
      if (enrolled 0 r.1).length < UInt64.size ∧ r.2.owners 0 = [⟨2⟩, ⟨1⟩]
      then (r.2.pool? 0).map Pool.total else none) = some 2 := by decide +kernel
  obtain ⟨⟨past, s⟩, played, h⟩ := Option.bind_eq_some_iff.1 h
  split at h
  · next hfew =>
    obtain ⟨p, built, -⟩ := Option.map_eq_some_iff.1 h
    have run := run_of_play played
    exact ⟨past, s, p, run, built, hfew.1, hfew.2, single_owner run built hfew.1⟩
  · cases h

end Interleaving

end ConnectionPool
