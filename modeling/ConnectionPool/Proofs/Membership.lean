import ConnectionPool.Proofs.Enrolment

set_option autoImplicit false

/-! # Each session has one place

A session that has its key is in the hands of its acquirer, who is about to install it, or in the
roster of active sessions, or in the roster of idle ones, and in no two of these places at once
(`Member.apart`). A record is found under its own key, and its standing fits the roster it is in: a
session whose probe has failed is out of the pool before the section ends that has settled the
verdict, so nobody ever sees it there. -/

namespace ConnectionPool

/-- How often a key is found in the rosters. -/
def Pool.places {S : Type} (p : Pool S) (key : SessionKey) : Nat :=
  p.active.keys.count key + p.idle.keys.count key

namespace Interleaving

variable {S : Type} {v : View S} {reply : Option (Reply S)} {p p' : Pool S} {x y : Role S}

/-! ## Rosters -/

/-- The record of an active session. -/
structure Lent (enrolled : List (SessionKey × S)) (key : SessionKey) (r : Record S) : Prop where
  own : r.info.key = key
  known : (key, r.session) ∈ enrolled
  standing : r.standing = .active

/-- The record of an idle session. -/
structure Shelved (enrolled : List (SessionKey × S)) (key : SessionKey) (r : Record S) : Prop where
  own : r.info.key = key
  known : (key, r.session) ∈ enrolled
  standing : r.standing = .idle ∨ r.standing = .probing

theorem Shelved.checkOut {enrolled : List (SessionKey × S)} {key : SessionKey} {r : Record S}
    (h : Shelved enrolled key r) (now : Instant) : Lent enrolled key (r.checkOut now) :=
  ⟨h.own, h.known, rfl⟩

theorem Lent.checkIn {enrolled : List (SessionKey × S)} {key : SessionKey} {r : Record S}
    (h : Lent enrolled key r) (now : Instant) : Shelved enrolled key (r.checkIn now) :=
  ⟨h.own, h.known, .inl rfl⟩

/-- The records of a pool are where they belong. -/
structure Filed (enrolled : List (SessionKey × S)) (p : Pool S) : Prop where
  active : ∀ key r, p.active.find? key = some r → Lent enrolled key r
  idle : ∀ key r, p.idle.find? key = some r → Shelved enrolled key r

theorem Filed.of_alike {enrolled : List (SessionKey × S)} (h : Filed enrolled p)
    (alike : Alike p p') : Filed enrolled p' :=
  ⟨alike.active ▸ h.active, alike.idle ▸ h.idle⟩

theorem Filed.mono {enrolled more : List (SessionKey × S)} (h : Filed enrolled p)
    (sub : enrolled ⊆ more) : Filed more p :=
  ⟨fun key r hr => let m := h.active key r hr; ⟨m.own, sub m.known, m.standing⟩,
    fun key r hr => let m := h.idle key r hr; ⟨m.own, sub m.known, m.standing⟩⟩

/-- No move files a record wrongly. -/
theorem Moves.filed {enrolled : List (SessionKey × S)} (m : Moves v reply p x p' y)
    (h : Filed enrolled p) (recruit : ∀ r, x = .recruit r → Lent enrolled r.info.key r) :
    Filed enrolled p' := by
  cases m with
  | pass alike => exact h.of_alike alike
  | reuse lend =>
    obtain ⟨key, record, hfind, -, rfl, rfl⟩ := Pool.lend_eq_reuse lend
    -- the record moves to the other roster, checked out
    have shelved := h.idle key record hfind
    refine ⟨?_, ?_⟩
    · intro k r hr
      simp only [Roster.find?_insert] at hr
      split at hr
      · next hk =>
        cases hr
        rw [hk, shelved.own]
        exact shelved.checkOut v.now
      · exact h.active k r hr
    · intro k r hr
      simp only [Roster.find?_erase] at hr
      split at hr
      · cases hr
      · exact h.idle k r hr
  | reserve lend =>
    obtain ⟨-, rfl⟩ := Pool.lend_eq_reserve lend
    exact ⟨h.active, h.idle⟩
  | @install loan isOpen =>
    simp only [Pool.install, isOpen, Pool.unreserve, Bool.false_eq_true, if_false]
    refine ⟨?_, h.idle⟩
    intro k r hr
    simp only [Roster.find?_insert] at hr
    split at hr
    · next hk =>
      cases hr
      exact hk ▸ recruit loan rfl
    · exact h.active k r hr
  | @takeBack key p' rejected taken =>
    obtain ⟨record, idle, hfind, rfl, hidle⟩ := Pool.takeBack_eq_some taken
    refine ⟨?_, ?_⟩
    · intro k r hr
      simp only [Roster.find?_erase] at hr
      split at hr
      · cases hr
      · exact h.active k r hr
    · -- it is checked in, unless the pool does not want it back
      intro k r hr
      rcases hidle with rfl | rfl
      · exact h.idle k r hr
      · simp only [Roster.find?_insert] at hr
        split at hr
        · next hk =>
          cases hr
          exact hk ▸ (h.active key record hfind).checkIn v.now
        · exact h.idle k r hr
  | letGo taken =>
    obtain ⟨record, -, rfl⟩ := Pool.letGo_eq_some taken
    refine ⟨?_, h.idle⟩
    intro k r hr
    simp only [Roster.find?_erase] at hr
    split at hr
    · cases hr
    · exact h.active k r hr
  | beginProbes =>
    refine ⟨h.active, ?_⟩
    intro k r hr
    obtain ⟨old, hold, rfl | ⟨-, rfl⟩⟩ := Pool.find?_beginProbes hr
    · exact h.idle k _ hold
    · have m := h.idle k old hold
      exact ⟨m.own, m.known, .inr rfl⟩
  | endProbes =>
    refine ⟨h.active, ?_⟩
    intro k r hr
    -- whoever failed its probe is gone, and who passed it is idle again
    obtain ⟨old, hold, rfl | ⟨verdict, healthy, rfl⟩⟩ := Pool.find?_endProbes hr
    · exact h.idle k _ hold
    · have m := h.idle k old hold
      refine ⟨by rw [Record.key_endProbe, m.own], by
        rw [Record.session_endProbe]; exact m.known, .inl ?_⟩
      simp [Record.endProbe, healthy, Record.standing]
  | resize set =>
    rw [Pool.setMaxConnections_eq_ok set]
    exact ⟨h.active, h.idle⟩
  | drain => exact ⟨h.active, fun k r hr => by simp [Pool.drain] at hr⟩
  | _ => exact ⟨h.active, h.idle⟩

/-- A session with a record that is not in the pool yet has just got its key, or had it before. -/
theorem Moves.recruit {r : Record S} (m : Moves v reply p x p' (.recruit r)) :
    x = .recruit r ∨ ∃ session, x = .opened session ∧ r = .lent p.nextKey session v.now := by
  cases m with
  | pass alike => exact .inl rfl
  | enrol => exact .inr ⟨_, rfl, rfl⟩

/-- A move puts a key in no more places than it was in, unless it draws the key. -/
theorem Moves.places (m : Moves v reply p x p' y) {enrolled : List (SessionKey × S)}
    (h : Filed enrolled p) (key : SessionKey)
    (apart : x.recruits.count key + p.places key ≤ 1) :
    y.recruits.count key + p'.places key ≤
      x.recruits.count key + p.places key + ((x.enrolment y).map (·.1)).count key := by
  cases m with
  | pass alike =>
    simp only [Pool.places, alike.active, alike.idle]
    omega
  | reuse lend =>
    obtain ⟨k, record, hfind, -, rfl, rfl⟩ := Pool.lend_eq_reuse lend
    have hone := Roster.count_keys_of_some hfind
    simp only [Pool.places, Role.recruits, Roster.count_keys_insert, Roster.count_keys_erase,
      (h.idle k record hfind).own, List.count_nil]
    split
    · next hk =>
      rw [hk, hone]
      omega
    · omega
  | reserve lend =>
    obtain ⟨-, rfl⟩ := Pool.lend_eq_reserve lend
    exact Nat.le_add_right _ _
  | @enrol session =>
    simp only [Role.recruits, Role.enrolment, List.map_cons, List.map_nil, Pool.places,
      Pool.drawKey]
    omega
  | @install loan isOpen =>
    simp only [Pool.install, isOpen, Pool.unreserve, Bool.false_eq_true, if_false, Pool.places,
      Role.recruits, Roster.count_keys_insert, List.count_nil] at apart ⊢
    split
    · next hk =>
      subst hk
      simp only [List.count_cons_self, List.count_nil] at apart ⊢
      omega
    · omega
  | @takeBack k p' rejected taken =>
    obtain ⟨record, idle, hfind, rfl, hidle⟩ := Pool.takeBack_eq_some taken
    have hone := Roster.count_keys_of_some hfind
    simp only [Pool.places, Role.recruits, Roster.count_keys_erase]
    rcases hidle with rfl | rfl
    · split <;> omega
    · simp only [Roster.count_keys_insert]
      split
      · next hk =>
        rw [hk, hone]
        omega
      · omega
  | letGo taken =>
    obtain ⟨record, -, rfl⟩ := Pool.letGo_eq_some taken
    simp only [Pool.places, Role.recruits, Roster.count_keys_erase]
    split <;> omega
  | beginProbes =>
    simp only [Pool.places, Pool.beginProbes, Roster.keys_map]
    omega
  | @endProbes verdicts =>
    -- judging changes no key, and evicting makes keys fewer
    have kept := Roster.count_keys_filter_le (p.idle.map (Pool.judge verdicts v.now))
      (fun _ r => r.standing != .canceled) key
    rw [Roster.keys_map] at kept
    simp only [Pool.places, Pool.endProbes, Role.recruits]
    omega
  | resize set =>
    rw [Pool.setMaxConnections_eq_ok set]
    exact Nat.le_add_right _ _
  | drain =>
    simp only [Pool.places, Pool.drain, Roster.keys_empty, List.count_nil]
    omega
  | refuse closed =>
    simp only [Pool.places, Pool.unreserve, Role.recruits, List.count_nil]
    omega
  | retire shut => rcases shut with rfl | rfl <;> exact Nat.le_add_right _ _
  | _ => exact Nat.le_add_right _ _

/-! ## The invariant -/

namespace Ledger

/-- The records are as they should be where they are, also those that are about to be installed. -/
structure Tidy (d : Ledger S) : Prop where
  filed : Filed d.enrolled d.pool
  ready : ∀ r, .recruit r ∈ d.roles → Lent d.enrolled r.info.key r

theorem Tidy.new {d : Ledger S} (h : d.New) : d.Tidy where
  filed := ⟨by simp [h.active], by simp [h.idle]⟩
  ready := by simp [h.roles]

theorem Tidy.next {d d' : Ledger S} (step : d.Next d') (h : d.Tidy) : d'.Tidy := by
  have unchanged (enrolled : d'.enrolled = d.enrolled) (filed : Filed d.enrolled d'.pool)
      (ready : ∀ r, .recruit r ∈ d'.roles → .recruit r ∈ d.roles) : d'.Tidy :=
    ⟨enrolled ▸ filed, fun r hr => enrolled ▸ h.ready r (ready r hr)⟩
  cases step.change with
  | quiet alike roles held enrolled =>
    exact unchanged enrolled (h.filed.of_alike alike) fun r hr => roles.mem_iff.1 hr
  | claim pool held roles enrolled =>
    exact unchanged enrolled (pool ▸ h.filed) fun r hr => by simpa using roles.mem_iff.1 hr
  | issue pool roles held enrolled =>
    exact unchanged enrolled (pool ▸ h.filed) fun r hr =>
      roles.mem_iff.2 (List.mem_cons_of_mem _ hr)
  | @move v reply x y rest moves before after held seen enrolled fresh calm =>
    have sub : d.enrolled ⊆ d'.enrolled := enrolled ▸ List.subset_append_right _ _
    have readyOf (r : Record S) (hx : x = .recruit r) : Lent d.enrolled r.info.key r := by
      refine h.ready r (before.mem_iff.2 ?_)
      simp [hx, Role.toList]
    refine ⟨(moves.filed h.filed readyOf).mono sub, fun r hr => ?_⟩
    rcases List.mem_append.1 (after.mem_iff.1 hr) with hr | hr
    · obtain rfl := Role.eq_of_mem_toList hr
      rcases moves.recruit with rfl | ⟨session, rfl, rfl⟩
      · have m := readyOf r rfl
        exact ⟨m.own, sub m.known, m.standing⟩
      · exact ⟨rfl, enrolled ▸ List.mem_append_left _ List.mem_cons_self, rfl⟩
    · have m := h.ready r (before.mem_iff.2 (List.mem_append_right _ hr))
      exact ⟨m.own, sub m.known, m.standing⟩

/-- The keys of the sessions that are about to be installed. -/
def recruits (d : Ledger S) : List SessionKey := d.roles.flatMap Role.recruits

/-- Every session that has its key is in one place at most, and its record is as it should be
there. -/
structure Placed (d : Ledger S) : Prop where
  filed : Filed d.enrolled d.pool
  ready : ∀ r, .recruit r ∈ d.roles → Lent d.enrolled r.info.key r
  apart : ∀ key, d.recruits.count key + d.pool.places key ≤ 1

theorem Placed.new {d : Ledger S} (h : d.New) : d.Placed where
  filed := ⟨by simp [h.active], by simp [h.idle]⟩
  ready := by simp [h.roles]
  apart := by simp [recruits, Pool.places, h.roles, h.active, h.idle]

/-- Every session that is in some place has got its key. -/
theorem Placed.known {d : Ledger S} (h : d.Placed) {key : SessionKey}
    (hk : 0 < d.recruits.count key + d.pool.places key) : key ∈ d.enrolled.map (·.1) := by
  have known {session : S} (hm : (key, session) ∈ d.enrolled) : key ∈ d.enrolled.map (·.1) :=
    List.mem_map.2 ⟨_, hm, rfl⟩
  by_cases hr : 0 < d.recruits.count key
  · -- it is with an acquirer that is about to install it
    obtain ⟨role, hrole, hmem⟩ := List.mem_flatMap.1 (List.count_pos_iff.1 hr)
    cases role with
    | recruit r =>
      obtain rfl := List.mem_singleton.1 hmem
      exact known (h.ready r hrole).known
    | _ => cases hmem
  · by_cases ha : 0 < d.pool.active.keys.count key
    · obtain ⟨r, hfind⟩ := Roster.find?_isSome_of_count ha
      exact known (h.filed.active key r hfind).known
    · have hi : 0 < d.pool.idle.keys.count key := by
        simp only [Pool.places] at hk
        omega
      obtain ⟨r, hfind⟩ := Roster.find?_isSome_of_count hi
      exact known (h.filed.idle key r hfind).known

theorem Placed.next {d d' : Ledger S} (step : d.Next d') (enrolled' : d'.Enrolled) (h : d.Placed) :
    d'.Placed := by
  have tidy : d'.Tidy := Tidy.next step ⟨h.filed, h.ready⟩
  refine ⟨tidy.filed, tidy.ready, fun key => ?_⟩
  have unchanged (same : d'.pool.places key = d.pool.places key)
      (fewer : d'.recruits.Perm d.recruits) : d'.recruits.count key + d'.pool.places key ≤ 1 := by
    rw [same, fewer.count_eq]
    exact h.apart key
  cases step.change with
  | quiet alike roles held enrolled =>
    refine unchanged ?_ (roles.flatMap_right _)
    simp only [Pool.places, alike.active, alike.idle]
  | claim pool held roles enrolled =>
    exact unchanged (by rw [pool]) (roles.flatMap_right Role.recruits)
  | issue pool roles held enrolled =>
    exact unchanged (by rw [pool]) (roles.flatMap_right Role.recruits).symm
  | @move v reply x y rest moves before after held seen enrolled fresh calm =>
    have old : d.recruits.Perm (x.recruits ++ rest.flatMap Role.recruits) :=
      Role.perm_flatMap rfl before
    have new : d'.recruits.Perm (y.recruits ++ rest.flatMap Role.recruits) :=
      Role.perm_flatMap rfl after
    have count := h.apart key
    rw [old.count_eq, List.count_append] at count
    rw [new.count_eq, List.count_append]
    have moved := moves.places h.filed key (by omega)
    by_cases drawn : key ∈ (x.enrolment y).map (·.1)
    · -- the key is new, so no place had it
      have unique := enrolled'.keys
      rw [enrolled, List.map_append] at unique
      obtain ⟨once, -, disjoint⟩ := List.nodup_append.1 unique
      have absent : key ∉ d.enrolled.map (·.1) := fun hk => disjoint key drawn key hk rfl
      have none : d.recruits.count key + d.pool.places key = 0 :=
        Nat.eq_zero_of_not_pos fun hpos => absent (h.known hpos)
      rw [old.count_eq, List.count_append] at none
      have one := List.nodup_iff_count_le_one.1 once key
      omega
    · have none := List.count_eq_zero.2 drawn
      omega

end Ledger

/-- Records are always where they belong. -/
theorem Run.filed {past : List (State S × Choice S)} {s : State S} {home : PoolId}
    (run : Run past s) (built : s.pool? home = some p) : Filed (enrolled home past) p :=
  (run.ledger_induction (motive := Ledger.Tidy) (fun _ => .new) (fun _ _ => .next) built).filed

end Interleaving

end ConnectionPool
