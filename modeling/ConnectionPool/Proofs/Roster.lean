import Mathlib.Data.List.Nodup
import ConnectionPool.Roster

set_option autoImplicit false

/-! # Laws of rosters

What inserting, removing and selecting do to the size of a roster, to its keys and to its look-ups.
The keys of a roster are told by how often they are listed, which is once or not at all
(`count_keys`): sizes and custody are both settled by counting. -/

namespace ConnectionPool

namespace Roster

variable {α : Type}

/-! ## Entries and look-ups -/

theorem lookup_of_mem {k : SessionKey} {a : α} {l : List (SessionKey × α)}
    (ordered : l.Pairwise fun a b => a.1 < b.1) (h : (k, a) ∈ l) : lookup k l = some a := by
  induction l with
  | nil => simp at h
  | cons e rest ih =>
    obtain ⟨hhead, hrest⟩ := List.pairwise_cons.1 ordered
    rcases List.mem_cons.1 h with rfl | h
    · simp [lookup]
    · have hne : k ≠ e.1 := fun he => SessionKey.ne_of_lt (hhead _ h) he.symm
      simp only [lookup, if_neg hne]
      exact ih hrest h

/-- In a list that has no key twice, every entry is found. -/
theorem lookup_of_mem_of_nodup {k : SessionKey} {a : α} {l : List (SessionKey × α)}
    (once : (l.map (·.1)).Nodup) (h : (k, a) ∈ l) : lookup k l = some a := by
  induction l with
  | nil => simp at h
  | cons e rest ih =>
    obtain ⟨absent, once⟩ := List.nodup_cons.1 once
    rcases List.mem_cons.1 h with rfl | h
    · simp [lookup]
    · have hne : k ≠ e.1 := by
        rintro rfl
        exact absurd (List.mem_map_of_mem (f := (·.1)) h) absent
      simp only [lookup, if_neg hne]
      exact ih once h

theorem lookup_eq_none_iff {k : SessionKey} {l : List (SessionKey × α)} :
    lookup k l = none ↔ k ∉ l.map (·.1) := by
  induction l with
  | nil => simp [lookup]
  | cons e rest ih =>
    by_cases hk : k = e.1
    · simp [lookup, hk]
    · simp [lookup, hk, ih]

theorem mem_entries_iff {r : Roster α} {k : SessionKey} {a : α} :
    (k, a) ∈ r.entries ↔ r.find? k = some a :=
  ⟨lookup_of_mem r.ordered, mem_of_lookup_eq_some⟩

theorem mem_keys_iff {r : Roster α} {k : SessionKey} : k ∈ r.keys ↔ (r.find? k).isSome := by
  rw [keys, List.mem_map]
  constructor
  · rintro ⟨⟨k', a⟩, hmem, rfl⟩
    rw [mem_entries_iff.1 hmem]
    rfl
  · intro h
    obtain ⟨a, ha⟩ := Option.isSome_iff_exists.1 h
    exact ⟨(k, a), mem_entries_iff.2 ha, rfl⟩

theorem nodup_keys (r : Roster α) : r.keys.Nodup :=
  List.pairwise_map.2 (r.ordered.imp fun h => SessionKey.ne_of_lt h)

/-- A roster lists a key once or not at all. -/
theorem count_keys (r : Roster α) (k : SessionKey) :
    r.keys.count k = if (r.find? k).isSome then 1 else 0 := by
  rw [List.Nodup.count r.nodup_keys]
  simp only [mem_keys_iff]

theorem count_keys_of_some {r : Roster α} {k : SessionKey} {a : α} (h : r.find? k = some a) :
    r.keys.count k = 1 := by
  simp [count_keys, h]

theorem count_keys_of_none {r : Roster α} {k : SessionKey} (h : r.find? k = none) :
    r.keys.count k = 0 := by
  simp [count_keys, h]

theorem find?_isSome_of_count {r : Roster α} {k : SessionKey} (h : 0 < r.keys.count k) :
    ∃ a, r.find? k = some a :=
  Option.isSome_iff_exists.1 (mem_keys_iff.1 (List.count_pos_iff.1 h))

/-! ## Searching -/

theorem first?_eq_some {r : Roster α} {p : α → Bool} {k : SessionKey} {a : α}
    (h : r.first? p = some (k, a)) : r.find? k = some a ∧ p a = true :=
  ⟨mem_entries_iff.1 (List.mem_of_find?_eq_some h), by simpa using List.find?_some h⟩

theorem first?_eq_none_iff {r : Roster α} {p : α → Bool} :
    r.first? p = none ↔ ∀ k a, r.find? k = some a → p a = false := by
  rw [first?, List.find?_eq_none]
  constructor
  · intro h k a hf
    simpa using h (k, a) (mem_entries_iff.2 hf)
  · rintro h ⟨k, a⟩ hmem
    simpa using h k a (mem_entries_iff.1 hmem)

/-- No smaller key has a value with the property. -/
theorem first?_le {r : Roster α} {p : α → Bool} {k k' : SessionKey} {a a' : α}
    (h : r.first? p = some (k, a)) (found : r.find? k' = some a') (has : p a' = true) :
    k = k' ∨ k < k' := by
  obtain ⟨-, before, after, split, none⟩ := List.find?_eq_some_iff_append.1 h
  have ordered := r.ordered
  rw [split, List.pairwise_append] at ordered
  have listed := mem_entries_iff.2 found
  rw [split] at listed
  rcases List.mem_append.1 listed with earlier | listed
  · have lacks := none _ earlier
    simp [has] at lacks
  · rcases List.mem_cons.1 listed with same | later
    · exact .inl (Prod.mk.inj same).1.symm
    · exact .inr ((List.pairwise_cons.1 ordered.2.1).1 _ later)

/-! ## Sizes -/

theorem length_place (k : SessionKey) (a : α) {l : List (SessionKey × α)}
    (ordered : l.Pairwise fun a b => a.1 < b.1) :
    (place k a l).length + (if (lookup k l).isSome then 1 else 0) = l.length + 1 := by
  induction l with
  | nil => simp [place, lookup]
  | cons e rest ih =>
    obtain ⟨hhead, hrest⟩ := List.pairwise_cons.1 ordered
    simp only [place]
    split
    case isTrue hlt =>
      have hrest' : lookup k rest = none :=
        lookup_eq_none_of_forall_lt fun d hd => SessionKey.lt_trans hlt (hhead d hd)
      simp [lookup, SessionKey.ne_of_lt hlt, hrest']
    case isFalse =>
      split
      case isTrue heq => simp [lookup, heq]
      case isFalse hne =>
        have := ih hrest
        simp only [lookup, if_neg hne, List.length_cons]
        omega

/-- Inserting adds an entry, unless the key has one already. -/
theorem size_insert (r : Roster α) (k : SessionKey) (a : α) :
    (r.insert k a).size + r.keys.count k = r.size + 1 := by
  rw [count_keys]
  exact length_place k a r.ordered

theorem size_insert_le (r : Roster α) (k : SessionKey) (a : α) :
    (r.insert k a).size ≤ r.size + 1 := by
  have := size_insert r k a
  omega

theorem keys_filter_key (r : Roster α) (k : SessionKey) :
    (r.erase k).keys = r.keys.filter fun k' => k' != k := by
  simp only [erase, filter, keys, List.filter_map]
  rfl

/-- Removing takes an entry away, if the key has one. -/
theorem size_erase (r : Roster α) (k : SessionKey) :
    (r.erase k).size + r.keys.count k = r.size := by
  have hsize (s : Roster α) : s.size = s.keys.length := by simp [size, keys]
  rw [hsize, hsize r, keys_filter_key, List.count_eq_countP, ← List.countP_eq_length_filter,
    List.length_eq_countP_add_countP (fun k' => k' != k)]
  simp only [bne_iff_ne, ne_eq, Decidable.not_not]
  congr 1

theorem size_erase_le (r : Roster α) (k : SessionKey) : (r.erase k).size ≤ r.size := by
  have := size_erase r k
  omega

theorem size_filter_le (r : Roster α) (p : SessionKey → α → Bool) : (r.filter p).size ≤ r.size :=
  List.length_filter_le _ _

@[simp] theorem size_empty : (empty : Roster α).size = 0 := rfl

theorem eq_empty_of_size {r : Roster α} (h : r.size = 0) : r = empty := by
  have bare : r.entries = [] := List.length_eq_zero_iff.1 h
  exact ext_find? fun k => by rw [find?_empty, find?, bare, lookup]

/-! ## Keys -/

@[simp] theorem keys_empty : (empty : Roster α).keys = [] := rfl

theorem count_keys_insert (r : Roster α) (k k' : SessionKey) (a : α) :
    (r.insert k a).keys.count k' = if k' = k then 1 else r.keys.count k' := by
  simp only [count_keys, find?_insert]
  split <;> simp

theorem count_keys_erase (r : Roster α) (k k' : SessionKey) :
    (r.erase k).keys.count k' = if k' = k then 0 else r.keys.count k' := by
  simp only [count_keys, find?_erase]
  split <;> simp

@[simp] theorem keys_map {β : Type} (r : Roster α) (f : SessionKey → α → β) :
    (r.map f).keys = r.keys := by
  simp [keys, map]

/-! ## Selecting -/

theorem find?_of_filter {r : Roster α} {p : SessionKey → α → Bool} {k : SessionKey} {a : α}
    (h : (r.filter p).find? k = some a) : r.find? k = some a ∧ p k a = true := by
  have hmem : (k, a) ∈ r.entries.filter fun e => p e.1 e.2 := mem_entries_iff.2 h
  obtain ⟨hmem, hp⟩ := List.mem_filter.1 hmem
  exact ⟨mem_entries_iff.1 hmem, hp⟩

theorem find?_filter (r : Roster α) (p : SessionKey → α → Bool) (k : SessionKey) :
    (r.filter p).find? k = (r.find? k).filter (p k) := by
  refine Option.ext fun a => ?_
  rw [Option.filter_eq_some_iff, ← mem_entries_iff, ← mem_entries_iff]
  exact List.mem_filter

theorem count_keys_filter_le (r : Roster α) (p : SessionKey → α → Bool) (k : SessionKey) :
    (r.filter p).keys.count k ≤ r.keys.count k :=
  (List.filter_sublist.map _).count_le k

/-- Selecting splits the keys of a roster. -/
theorem count_keys_filter_add (r : Roster α) (p : SessionKey → α → Bool) (k : SessionKey) :
    (r.filter fun k a => !p k a).keys.count k + (r.filter p).keys.count k = r.keys.count k := by
  have count (l : List (SessionKey × α)) : (l.map (·.1)).count k = l.countP fun e => e.1 == k := by
    rw [List.count_eq_countP, List.countP_map]
    rfl
  show ((r.entries.filter fun e => !p e.1 e.2).map (·.1)).count k +
    ((r.entries.filter fun e => p e.1 e.2).map (·.1)).count k = (r.entries.map (·.1)).count k
  rw [count, count, count, Nat.add_comm, ← List.countP_eq_countP_filter_add]

/-- Selecting splits the entries of a roster. -/
theorem perm_entries_filter (r : Roster α) (p : SessionKey → α → Bool) :
    r.entries.Perm ((r.filter p).entries ++ (r.filter fun k a => !p k a).entries) :=
  (List.filter_append_perm _ _).symm

/-- Removing takes the entry of the key away. -/
theorem perm_entries_erase {r : Roster α} {k : SessionKey} {a : α} (found : r.find? k = some a) :
    r.entries.Perm ((k, a) :: (r.erase k).entries) := by
  have once (s : Roster α) : s.entries.Nodup := List.Nodup.of_map _ s.nodup_keys
  have absent : (k, a) ∉ (r.erase k).entries := by
    intro h
    simpa using mem_entries_iff.1 h
  refine (List.perm_ext_iff_of_nodup (once r) (List.nodup_cons.2 ⟨absent, once _⟩)).2 ?_
  rintro ⟨k', a'⟩
  rw [List.mem_cons, mem_entries_iff, mem_entries_iff, find?_erase]
  by_cases hk : k' = k
  · subst hk
    simp [found, eq_comm]
  · simp [hk]

/-- A roster lists its keys as often as any list that has each of them once. -/
theorem perm_keys_of_count {r : Roster α} {l : List SessionKey}
    (h : ∀ k, l.count k = r.keys.count k) : l.Perm r.keys :=
  List.perm_iff_count.2 h

end Roster

end ConnectionPool
