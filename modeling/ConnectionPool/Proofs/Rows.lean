import ConnectionPool.Lease
import ConnectionPool.Proofs.Custody

set_option autoImplicit false

/-! # Leases in a row

A single caller keeps the leases it gets in a row. The row holds the active sessions of the pool
(`Row`) as long as leases join it and leave it in the moves that lend their sessions and take them
back. -/

namespace ConnectionPool

open Interleaving (Role Moves Filed Lent)

variable {S : Type} {v : View S} {p q : Pool S} {en : List (SessionKey × S)}
  {held rest : List (Lease S)} {l : Lease S} {loan : Record S}

/-- The leases in a row hold the active sessions of their pool, each of them one. -/
structure Row (p : Pool S) (held : List (Lease S)) : Prop where
  keys : (held.map (·.info.key)).Perm p.active.keys
  leases : ∀ l ∈ held, ∃ r, p.active.find? l.info.key = some r ∧ l.session = some r.session

namespace Row

theorem nodup (row : Row p held) : (held.map (·.info.key)).Nodup :=
  row.keys.nodup_iff.2 p.active.nodup_keys

theorem length_eq (row : Row p held) : p.active.size = held.length := by
  have same := row.keys.length_eq
  rw [List.length_map, Roster.keys, List.length_map] at same
  exact same.symm

theorem congr (row : Row p held) (same : q.active = p.active) : Row q held :=
  ⟨same ▸ row.keys, same ▸ row.leases⟩

theorem perm (row : Row p held) (same : held.Perm rest) : Row p rest :=
  ⟨(same.map _).symm.trans row.keys, fun l hl => row.leases l (same.mem_iff.2 hl)⟩

/-- A session is lent, and its lease is put at the end of the row. -/
theorem lend {x : Role S} (row : Row p held) (filed : Filed en p)
    (m : Moves v none p x q (.loan loan)) (alive : v.alive = true) (none : x.stakes = [])
    (apart : ∀ key, x.recruits.count key + p.places key ≤ 1)
    (home : PoolId) : Row q (held ++ [.issue home loan]) := by
  have keys : ((held ++ [Lease.issue home loan]).map (·.info.key)).Perm q.active.keys := by
    refine Roster.perm_keys_of_count fun key => ?_
    have old := row.keys.count_eq key
    have custody := m.custody filed key (apart key) (by rw [none]; exact Nat.zero_le _)
    have gained := custody.1
    have lost := custody.2 alive
    have own : (Role.loan loan).stakes = [loan.info.key] := rfl
    rw [none, own, List.count_nil] at gained lost
    simp only [List.map_append, List.map_cons, List.map_nil, List.count_append, Lease.issue]
    omega
  refine ⟨keys, fun l hl => ?_⟩
  rcases List.mem_append.1 hl with hl | hl
  · -- the lease was there before, so its session is another one
    obtain ⟨r, found, holds⟩ := row.leases l hl
    have other : l.info.key ≠ loan.info.key := by
      have once := keys.nodup_iff.2 q.active.nodup_keys
      rw [List.map_append, List.nodup_append] at once
      exact once.2.2 _ (List.mem_map_of_mem hl) _ List.mem_cons_self
    refine ⟨r, ?_, holds⟩
    rw [m.frame (by rw [none]; rfl) (List.count_eq_zero.2 (by simpa [Role.stakes] using other)),
      found]
  · obtain rfl := List.mem_singleton.1 hl
    rcases m.loan with found | ⟨was, -⟩
    · exact ⟨loan, found, rfl⟩
    · rw [was] at none
      cases none

/-- The session of a lease is taken back or let go. -/
theorem giveUp (row : Row p (l :: rest)) (filed : Filed en p)
    (m : Moves v none p (.claim l.info.key) q .notice) (alive : v.alive = true)
    (apart : ∀ key, p.places key ≤ 1) : Row q rest := by
  have once := row.nodup
  rw [List.map_cons, List.nodup_cons] at once
  refine ⟨Roster.perm_keys_of_count fun key => ?_, fun l' hl' => ?_⟩
  · have old := row.keys.count_eq key
    have custody := m.custody filed key (by simpa [Role.recruits] using apart key) (by
      rw [← old, Role.stakes, List.map_cons]
      exact List.Sublist.count_le _ (List.Sublist.cons_cons _ (List.nil_sublist _)))
    have gained := custody.1
    have lost := custody.2 alive
    simp only [Role.stakes, List.count_nil, List.map_cons, List.count_cons] at old gained lost ⊢
    omega
  · obtain ⟨r, found, holds⟩ := row.leases l' (List.mem_cons_of_mem _ hl')
    refine ⟨r, ?_, holds⟩
    rw [m.frame ?_ rfl, found]
    simp only [Role.stakes, List.count_eq_zero, List.mem_singleton]
    intro same
    exact once.1 (same ▸ List.mem_map_of_mem hl')

end Row

end ConnectionPool
