import ConnectionPool.Pool
import ConnectionPool.Proofs.Roster

set_option autoImplicit false

/-! # What the sections do

One lemma for each way a section of `Pool` can end: what it has found in the rosters, and what it
has left there. Everything that a lemma does not name is as before. -/

namespace ConnectionPool

namespace Pool

variable {S : Type} {p p' : Pool S} {cap : UInt32} {now : Instant}

/-! ## Lending -/

theorem lend_eq_reuse {loan : Record S} (h : p.lend cap now = (p', .reuse loan)) :
    ∃ key record, p.idle.find? key = some record ∧ record.standing.isAvailable = true ∧
      loan = record.checkOut now ∧
      p' = { p with idle := p.idle.erase key, active := p.active.insert record.info.key loan } := by
  simp only [lend] at h
  split at h
  · next key record hf =>
    cases h
    obtain ⟨hfind, havailable⟩ := Roster.first?_eq_some hf
    exact ⟨key, record, hfind, havailable, rfl, rfl⟩
  · split at h <;> cases h

theorem lend_eq_reserve (h : p.lend cap now = (p', .reserve)) :
    p.total + p.reserved.toNat < cap.toNat ∧ p' = { p with reserved := p.reserved + 1 } := by
  simp only [lend] at h
  split at h
  · cases h
  · split at h
    · next hlt =>
      cases h
      exact ⟨hlt, rfl⟩
    · cases h

theorem eq_of_lend_full (h : p.lend cap now = (p', .full)) : p' = p := by
  simp only [lend] at h
  split at h
  · cases h
  · split at h <;> cases h
    rfl

/-- A pool can lend nothing under a cap: no idle session is available, and the sessions and slots
have reached the cap. -/
structure Full (p : Pool S) (cap : UInt32) : Prop where
  unavailable : ∀ key record, p.idle.find? key = some record → record.standing.isAvailable = false
  reached : cap.toNat ≤ p.total + p.reserved.toNat

theorem lend_eq_full_iff : p.lend cap now = (p, .full) ↔ p.Full cap := by
  simp only [lend]
  constructor
  · intro h
    split at h
    · cases (Prod.mk.inj h).2
    · next hf =>
      split at h
      · cases (Prod.mk.inj h).2
      · next hge => exact ⟨Roster.first?_eq_none_iff.1 hf, Nat.le_of_not_lt hge⟩
  · intro h
    rw [Roster.first?_eq_none_iff.2 h.unavailable]
    simp only
    rw [if_neg (Nat.not_lt.2 h.reached)]

/-! ## Taking back -/

theorem takeBack_eq_some {key : SessionKey} {connected : S → Bool} {rejected : Option S}
    (h : p.takeBack key connected now = some (p', rejected)) :
    ∃ record idle, p.active.find? key = some record ∧
      p' = { p with active := p.active.erase key, idle } ∧
      (idle = p.idle ∨ idle = p.idle.insert key (record.checkIn now)) := by
  simp only [takeBack] at h
  split at h
  · cases h
  · next record hf =>
    split at h <;> cases h
    · exact ⟨record, _, hf, rfl, .inr rfl⟩
    · exact ⟨record, _, hf, rfl, .inl rfl⟩

/-- A session that is wanted becomes idle. -/
theorem takeBack_eq_shelved {key : SessionKey} {connected : S → Bool}
    (h : p.takeBack key connected now = some (p', none)) :
    ∃ record, p.active.find? key = some record ∧
      p' =
        { p with
          active := p.active.erase key, idle := p.idle.insert key (record.checkIn now) } := by
  unfold takeBack at h
  split at h
  · cases h
  · next record hf =>
    split at h <;> cases h
    exact ⟨record, hf, rfl⟩

/-- A session that is not wanted leaves the pool. -/
theorem takeBack_eq_rejected {key : SessionKey} {connected : S → Bool} {session : S}
    (h : p.takeBack key connected now = some (p', some session)) :
    ∃ record, p.active.find? key = some record ∧ record.session = session ∧
      p' = { p with active := p.active.erase key } := by
  unfold takeBack at h
  split at h
  · cases h
  · next record hf =>
    split at h <;> cases h
    exact ⟨record, hf, rfl, rfl⟩

/-- A session is wanted if it is connected and the pool is open. -/
theorem wanted_iff {key : SessionKey} {connected : S → Bool} {rejected : Option S}
    {record : Record S} (h : p.takeBack key connected now = some (p', rejected))
    (found : p.active.find? key = some record) :
    rejected = none ↔ p.closed = false ∧ connected record.session = true := by
  simp only [takeBack, found] at h
  split at h <;> cases h <;> simp_all

/-- Only a session that nobody has is not taken back. -/
theorem find?_of_takeBack_eq_none {key : SessionKey} {connected : S → Bool}
    (h : p.takeBack key connected now = none) : p.active.find? key = none := by
  unfold takeBack at h
  split at h
  · assumption
  · split at h <;> cases h

theorem find?_of_letGo_eq_none {key : SessionKey} (h : p.letGo key = none) :
    p.active.find? key = none := by
  unfold letGo at h
  split at h
  · assumption
  · cases h

theorem letGo_eq_some {key : SessionKey} (h : p.letGo key = some p') :
    ∃ record, p.active.find? key = some record ∧ p' = { p with active := p.active.erase key } := by
  simp only [letGo] at h
  split at h
  · cases h
  · next record hf =>
    cases h
    exact ⟨record, hf, rfl⟩

theorem setMaxConnections_eq_ok {count : UInt32} (h : p.setMaxConnections count = .ok p') :
    p' = { p with settings := { p.settings with maxConnections := count } } := by
  simp only [setMaxConnections] at h
  split at h <;> cases h
  rfl

/-! ## Probing -/

theorem find?_beginProbes {interval : Duration} {key : SessionKey} {record : Record S}
    (h : (p.beginProbes interval now).1.idle.find? key = some record) :
    ∃ old, p.idle.find? key = some old ∧
      (record = old ∨ old.standing = .idle ∧ record = old.beginProbe) := by
  simp only [beginProbes, Roster.find?_map, Option.map_eq_some_iff] at h
  obtain ⟨old, hold, rfl⟩ := h
  refine ⟨old, hold, ?_⟩
  split
  · next hdue => exact .inr ⟨Record.standing_of_isDue hdue, rfl⟩
  · exact .inl rfl

/-- The sessions that are probed are the idle ones that are due. -/
theorem mem_keys_beginProbes {interval : Duration} {key : SessionKey} :
    key ∈ (p.beginProbes interval now).2.map (·.1) ↔
      ∃ record, p.idle.find? key = some record ∧ record.isDue interval now = true := by
  simp only [beginProbes, List.map_map, List.mem_map, List.mem_filter]
  constructor
  · rintro ⟨e, ⟨mem, due⟩, rfl⟩
    exact ⟨e.2, Roster.mem_entries_iff.1 mem, due⟩
  · rintro ⟨record, found, due⟩
    exact ⟨(key, record), ⟨Roster.mem_entries_iff.2 found, due⟩, rfl⟩

theorem nodup_keys_beginProbes {interval : Duration} :
    ((p.beginProbes interval now).2.map (·.1)).Nodup := by
  rw [beginProbes, List.map_map]
  exact p.idle.nodup_keys.sublist (List.filter_sublist.map _)

/-- A session that is probed is idle. -/
theorem exists_of_mem_beginProbes {interval : Duration} {e : SessionKey × S}
    (h : e ∈ (p.beginProbes interval now).2) :
    ∃ record, p.idle.find? e.1 = some record ∧ record.session = e.2 := by
  obtain ⟨entry, mem, rfl⟩ := List.mem_map.1 h
  exact ⟨entry.2, Roster.mem_entries_iff.1 (List.mem_filter.1 mem).1, rfl⟩

/-- A verdict changes no session. -/
@[simp] theorem session_judge (verdicts : List (SessionKey × Verdict)) (key : SessionKey)
    (record : Record S) : (judge verdicts now key record).session = record.session := by
  unfold judge
  split
  · split
    · exact Record.session_endProbe _ _ _
    · rfl
  · rfl

theorem find?_endProbes {verdicts : List (SessionKey × Verdict)} {key : SessionKey}
    {record : Record S} (h : (p.endProbes verdicts now).1.idle.find? key = some record) :
    ∃ old, p.idle.find? key = some old ∧
      (record = old ∨ ∃ verdict : Verdict, verdict.isHealthy = true ∧
        record = old.endProbe verdict now) := by
  obtain ⟨hmap, hstanding⟩ := Roster.find?_of_filter h
  simp only [Roster.find?_map, Option.map_eq_some_iff] at hmap
  obtain ⟨old, hold, rfl⟩ := hmap
  refine ⟨old, hold, ?_⟩
  simp only [judge] at hstanding ⊢
  split
  · next verdict hv =>
    simp only [hv] at hstanding
    split
    · next hp =>
      rw [if_pos hp] at hstanding
      cases hh : verdict.isHealthy with
      | true => exact .inr ⟨verdict, hh, rfl⟩
      | false => simp [Record.endProbe, hh, Record.standing] at hstanding
    · exact .inl rfl
  · exact .inl rfl

end Pool

end ConnectionPool
