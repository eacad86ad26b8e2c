import ConnectionPool.SessionKey

set_option autoImplicit false

/-! # Rosters

A roster assigns values to session keys and lists them in ascending key order. The order is part of
the type, so two rosters with the same look-ups are the same roster (`ext_find?`), whatever the
history of insertions and removals was. -/

namespace ConnectionPool

/-- A finite assignment of values to session keys, kept in ascending key order. -/
structure Roster (α : Type) where
  entries : List (SessionKey × α)
  ordered : entries.Pairwise fun a b => a.1 < b.1
  deriving DecidableEq

namespace Roster

variable {α : Type}

/-- The roster without entries. -/
def empty : Roster α := ⟨[], .nil⟩

instance : Inhabited (Roster α) := ⟨empty⟩

/-- The number of entries. -/
def size (r : Roster α) : Nat := r.entries.length

/-- The keys in ascending order. -/
def keys (r : Roster α) : List SessionKey := r.entries.map (·.1)

/-- The values in ascending order of their keys. -/
def values (r : Roster α) : List α := r.entries.map (·.2)

/-! ## Looking up -/

/-- The value of a key in a list of entries. -/
def lookup (k : SessionKey) : List (SessionKey × α) → Option α
  | [] => none
  | (k', a) :: rest => if k = k' then some a else lookup k rest

/-- The value of a key. -/
def find? (r : Roster α) (k : SessionKey) : Option α := lookup k r.entries

/-- The entry of the smallest key whose value has the property. -/
def first? (r : Roster α) (p : α → Bool) : Option (SessionKey × α) :=
  r.entries.find? fun e => p e.2

@[simp] theorem find?_empty (k : SessionKey) : (empty : Roster α).find? k = none := rfl

theorem mem_of_lookup_eq_some {k : SessionKey} {a : α} {l : List (SessionKey × α)}
    (h : lookup k l = some a) : (k, a) ∈ l := by
  induction l with
  | nil => simp [lookup] at h
  | cons e rest ih =>
    obtain ⟨k', a'⟩ := e
    by_cases hk : k = k'
    · simp only [lookup, hk, if_true, Option.some.injEq] at h
      simp [hk, h]
    · simp only [lookup, hk, if_false] at h
      exact List.mem_cons_of_mem _ (ih h)

/-! ## Inserting -/

/-- Insertion into an ordered list of entries; an entry of the same key is replaced. -/
def place (k : SessionKey) (a : α) : List (SessionKey × α) → List (SessionKey × α)
  | [] => [(k, a)]
  | (k', a') :: rest =>
    if k < k' then (k, a) :: (k', a') :: rest
    else if k = k' then (k, a) :: rest
    else (k', a') :: place k a rest

theorem mem_place {k : SessionKey} {a : α} {l : List (SessionKey × α)} {e : SessionKey × α}
    (h : e ∈ place k a l) : e = (k, a) ∨ e ∈ l := by
  induction l with
  | nil => simpa [place] using h
  | cons head rest ih =>
    simp only [place] at h
    split at h
    · simpa using h
    · split at h
      · rcases List.mem_cons.1 h with h | h
        · exact .inl h
        · exact .inr (List.mem_cons_of_mem _ h)
      · rcases List.mem_cons.1 h with h | h
        · exact .inr (h ▸ List.mem_cons_self)
        · exact (ih h).imp id (List.mem_cons_of_mem _)

theorem ordered_place (k : SessionKey) (a : α) {l : List (SessionKey × α)}
    (h : l.Pairwise fun a b => a.1 < b.1) : (place k a l).Pairwise fun a b => a.1 < b.1 := by
  induction l with
  | nil => simp [place]
  | cons head rest ih =>
    obtain ⟨hhead, hrest⟩ := List.pairwise_cons.1 h
    simp only [place]
    split
    case isTrue hlt =>
      refine List.pairwise_cons.2 ⟨fun e he => ?_, h⟩
      rcases List.mem_cons.1 he with rfl | he
      · exact hlt
      · exact SessionKey.lt_trans hlt (hhead e he)
    case isFalse hge =>
      split
      case isTrue heq => exact List.pairwise_cons.2 ⟨fun e he => heq ▸ hhead e he, hrest⟩
      case isFalse hne =>
        refine List.pairwise_cons.2 ⟨fun e he => ?_, ih hrest⟩
        rcases mem_place he with rfl | he
        · exact SessionKey.lt_of_not_lt_of_ne hge hne
        · exact hhead e he

/-- The roster with one more entry, or with another value for a key that it has. -/
def insert (r : Roster α) (k : SessionKey) (a : α) : Roster α :=
  ⟨place k a r.entries, ordered_place k a r.ordered⟩

theorem lookup_place (k k' : SessionKey) (a : α) (l : List (SessionKey × α)) :
    lookup k' (place k a l) = if k' = k then some a else lookup k' l := by
  induction l with
  | nil => simp [place, lookup]
  | cons head rest ih =>
    obtain ⟨h, b⟩ := head
    simp only [place]
    split
    · simp only [lookup]
    · split
      · subst h
        simp only [lookup]
        split <;> rfl
      · next hne =>
        simp only [lookup, ih]
        by_cases hk : k' = h
        · have : k' ≠ k := fun e => hne (e ▸ hk)
          simp [hk, hk ▸ this]
        · simp [hk]

@[simp] theorem find?_insert (r : Roster α) (k k' : SessionKey) (a : α) :
    (r.insert k a).find? k' = if k' = k then some a else r.find? k' :=
  lookup_place k k' a r.entries

/-! ## Removing, selecting, changing values -/

/-- The entries whose keys and values have the property. -/
def filter (r : Roster α) (p : SessionKey → α → Bool) : Roster α :=
  ⟨r.entries.filter fun e => p e.1 e.2, r.ordered.filter _⟩

/-- The roster without the entry of a key. -/
def erase (r : Roster α) (k : SessionKey) : Roster α := r.filter fun k' _ => k' != k

/-- The roster with every value replaced by its image; keys stay. -/
def map {β : Type} (r : Roster α) (f : SessionKey → α → β) : Roster β :=
  ⟨r.entries.map fun e => (e.1, f e.1 e.2), by
    refine List.pairwise_map.2 ?_
    exact r.ordered⟩

@[simp] theorem size_map {β : Type} (r : Roster α) (f : SessionKey → α → β) :
    (r.map f).size = r.size := by
  simp [map, size]

theorem lookup_filter_ne (k k' : SessionKey) (l : List (SessionKey × α)) :
    lookup k' (l.filter fun e => e.1 != k) = if k' = k then none else lookup k' l := by
  induction l with
  | nil => simp [lookup]
  | cons head rest ih =>
    obtain ⟨h, b⟩ := head
    by_cases hk : h = k
    · subst hk
      by_cases hk' : k' = h
      · simpa [lookup, hk'] using ih
      · simpa [lookup, hk'] using ih
    · by_cases hk' : k' = h
      · simp [lookup, hk, hk']
      · simpa [lookup, hk, hk'] using ih

@[simp] theorem find?_erase (r : Roster α) (k k' : SessionKey) :
    (r.erase k).find? k' = if k' = k then none else r.find? k' :=
  lookup_filter_ne k k' r.entries

@[simp] theorem find?_map {β : Type} (r : Roster α) (f : SessionKey → α → β) (k : SessionKey) :
    (r.map f).find? k = (r.find? k).map (f k) := by
  obtain ⟨l, h⟩ := r
  show lookup k (l.map fun e => (e.1, f e.1 e.2)) = (lookup k l).map (f k)
  clear h
  induction l with
  | nil => rfl
  | cons head rest ih =>
    by_cases hk : k = head.1
    · simp [lookup, hk]
    · simp [lookup, hk, ih]

/-! ## Equality -/

theorem lookup_eq_none_of_forall_lt {k : SessionKey} {l : List (SessionKey × α)}
    (h : ∀ e ∈ l, k < e.1) : lookup k l = none := by
  cases hl : lookup k l with
  | none => rfl
  | some a => exact absurd (h _ (mem_of_lookup_eq_some hl)) (SessionKey.lt_irrefl k)

/-- Ordered lists with the same look-ups are equal. -/
theorem eq_of_lookup_eq {l m : List (SessionKey × α)} (hl : l.Pairwise fun a b => a.1 < b.1)
    (hm : m.Pairwise fun a b => a.1 < b.1) (h : ∀ k, lookup k l = lookup k m) : l = m := by
  induction l generalizing m with
  | nil =>
    cases m with
    | nil => rfl
    | cons e rest => simpa [lookup] using h e.1
  | cons d xs ih =>
    obtain ⟨hd, hxs⟩ := List.pairwise_cons.1 hl
    cases m with
    | nil => simpa [lookup] using h d.1
    | cons e ys =>
      obtain ⟨he, hys⟩ := List.pairwise_cons.1 hm
      have hkey : d.1 = e.1 := by
        by_cases hne : d.1 = e.1
        · exact hne
        have hd' : e.1 < d.1 := by
          have hs := h d.1
          simp only [lookup, if_true, if_neg hne] at hs
          exact he _ (mem_of_lookup_eq_some hs.symm)
        have he' : d.1 < e.1 := by
          have hs := h e.1
          simp only [lookup, if_true, if_neg (Ne.symm hne)] at hs
          exact hd _ (mem_of_lookup_eq_some hs)
        exact absurd (SessionKey.lt_trans hd' he') (SessionKey.lt_irrefl _)
      have hval : d.2 = e.2 := by
        have hs := h d.1
        simpa [lookup, hkey] using hs
      have hrest : xs = ys := by
        refine ih hxs hys fun k => ?_
        by_cases hk : k = d.1
        · subst hk
          rw [lookup_eq_none_of_forall_lt hd, lookup_eq_none_of_forall_lt (hkey ▸ he)]
        · have hs := h k
          simpa [lookup, hk, hkey ▸ hk] using hs
      rw [hrest, Prod.ext hkey hval]

/-- A roster is determined by its look-ups. -/
theorem ext_find? {r s : Roster α} (h : ∀ k, r.find? k = s.find? k) : r = s := by
  obtain ⟨l, hl⟩ := r
  obtain ⟨m, hm⟩ := s
  have : l = m := eq_of_lookup_eq hl hm h
  subst this
  rfl

/-! ## Sets of keys -/

/-- The given keys, each once. -/
def ofKeys (ks : List SessionKey) : Roster Unit := ks.foldl (fun r k => r.insert k ()) empty

end Roster

end ConnectionPool
