import ConnectionPool.Proofs.Following
import ConnectionPool.Proofs.Sections

set_option autoImplicit false

/-! # Keys are given once

A session is made by a source, travels with its acquirer through the call that opens it, and gets
its key from the counter of the pool in one step. As long as the counter has not gone round, which
takes `2 ^ 64` sessions, a key that is drawn exceeds all keys drawn before it. And as long as
sources do not hand the same session over twice, a session gets at most one key of any pool.

The counter is a 64-bit word, so it shows the number of keys drawn so far, and one more, only up to
that bound (`Enrolled.counter`). -/

namespace ConnectionPool

namespace Interleaving

variable {S : Type} {v : View S} {reply : Option (Reply S)} {p p' : Pool S} {x y : Role S}

/-- How the sessions without a key move on: one comes in, one is dropped, one gets its key, or they
stay as they are. -/
theorem Moves.newcomers (m : Moves v reply p x p' y) :
    (x.enrolment y = [] ∧ p'.nextKey = p.nextKey ∧
      (y.newcomers = x.newcomers ∨ y.newcomers = [] ∨
        ∃ session, reply = some (.created (.value session)) ∧ x.newcomers = [] ∧
          y.newcomers = [session])) ∨
    ∃ session, x.newcomers = [session] ∧ y.newcomers = [] ∧
      x.enrolment y = [(p.nextKey, session)] ∧ p'.nextKey.number = p.nextKey.number + 1 := by
  cases m with
  | pass alike => exact .inl ⟨by cases x <;> rfl, alike.nextKey, .inl rfl⟩
  | enrol => exact .inr ⟨_, rfl, rfl, rfl, rfl⟩
  | receive hears => exact .inl ⟨rfl, rfl, .inr (.inr ⟨_, hears, rfl, rfl⟩)⟩
  | giveUp => exact .inl ⟨rfl, rfl, .inr (.inl rfl)⟩
  | accept => exact .inl ⟨rfl, rfl, .inl rfl⟩
  | reuse lend =>
    obtain ⟨key, record, -, -, -, rfl⟩ := Pool.lend_eq_reuse lend
    exact .inl ⟨rfl, rfl, .inl rfl⟩
  | reserve lend =>
    obtain ⟨-, rfl⟩ := Pool.lend_eq_reserve lend
    exact .inl ⟨rfl, rfl, .inl rfl⟩
  | install isOpen =>
    refine .inl ⟨rfl, ?_, .inl rfl⟩
    simp [Pool.install, isOpen, Pool.unreserve]
  | takeBack taken =>
    obtain ⟨record, idle, -, rfl, -⟩ := Pool.takeBack_eq_some taken
    exact .inl ⟨rfl, rfl, .inl rfl⟩
  | letGo taken =>
    obtain ⟨record, -, rfl⟩ := Pool.letGo_eq_some taken
    exact .inl ⟨rfl, rfl, .inl rfl⟩
  | resize set =>
    rw [Pool.setMaxConnections_eq_ok set]
    exact .inl ⟨rfl, rfl, .inl rfl⟩
  | retire shut => rcases shut with rfl | rfl <;> exact .inl ⟨rfl, rfl, .inl rfl⟩
  | _ => exact .inl ⟨rfl, rfl, .inl rfl⟩

namespace Ledger

/-- The sessions of the pool that have no key yet. -/
def newcomers (d : Ledger S) : List S := d.roles.flatMap Role.newcomers

/-- What is true of the keys drawn so far, and of the sessions they were drawn for. -/
structure Enrolled (d : Ledger S) : Prop where
  counter : d.pool.nextKey.number = .ofNat (d.enrolled.length + 1)
  drawn : ∀ e ∈ d.enrolled, 0 < e.1.number.toNat ∧ e.1.number.toNat ≤ d.enrolled.length
  keys : (d.enrolled.map (·.1)).Nodup
  sessions : (d.enrolled.map (·.2) ++ d.newcomers).Nodup
  made : ∀ session ∈ d.enrolled.map (·.2) ++ d.newcomers, session ∈ d.delivered

theorem Enrolled.new {d : Ledger S} (h : d.New) : d.Enrolled where
  counter := by simp [h.nextKey, h.enrolled]
  drawn := by simp [h.enrolled]
  keys := by simp [h.enrolled]
  sessions := by simp [h.enrolled, newcomers, h.roles]
  made := by simp [h.enrolled, newcomers, h.roles]

/-- Nothing is enrolled, and the sessions without a key are at most those there were. -/
theorem Enrolled.of_subset {d d' : Ledger S} (h : d.Enrolled) (enrolled : d'.enrolled = d.enrolled)
    (nextKey : d'.pool.nextKey = d.pool.nextKey)
    (fewer : ∃ gone, d.newcomers.Perm (gone ++ d'.newcomers))
    (delivered : d.delivered ⊆ d'.delivered) : d'.Enrolled := by
  obtain ⟨gone, fewer⟩ := fewer
  have sub : (d.enrolled.map (·.2) ++ d.newcomers).Perm
      (gone ++ (d.enrolled.map (·.2) ++ d'.newcomers)) :=
    (fewer.append_left _).trans (List.perm_append_comm_assoc _ _ _)
  refine ⟨by rw [nextKey, enrolled, h.counter], by rw [enrolled]; exact h.drawn,
    by rw [enrolled]; exact h.keys, ?_, fun session hs => delivered (h.made session ?_)⟩
  · rw [enrolled]
    exact (List.nodup_append.1 (sub.nodup_iff.1 h.sessions)).2.1
  · rw [enrolled] at hs
    exact sub.mem_iff.2 (List.mem_append_right _ hs)

theorem toNat_key {n : Nat} {k : SessionKey} (h : k.number = .ofNat n) (small : n < UInt64.size) :
    k.number.toNat = n := by
  rw [h]
  exact UInt64.toNat_ofNat_of_lt' small

theorem Enrolled.next {d d' : Ledger S} (step : d.Next d') (few : d'.enrolled.length < UInt64.size)
    (h : d.Enrolled) : d'.Enrolled := by
  have unchanged (nextKey : d'.pool.nextKey = d.pool.nextKey) (enrolled : d'.enrolled = d.enrolled)
      (newcomers : d.newcomers.Perm d'.newcomers) : d'.Enrolled :=
    h.of_subset enrolled nextKey ⟨[], newcomers⟩ step.delivered
  cases step.change with
  | quiet alike roles held enrolled =>
    exact unchanged alike.nextKey enrolled (roles.symm.flatMap_right _)
  | claim pool held roles enrolled =>
    exact unchanged (by rw [pool]) enrolled (roles.flatMap_right Role.newcomers).symm
  | issue pool roles held enrolled =>
    exact unchanged (by rw [pool]) enrolled (roles.flatMap_right Role.newcomers)
  | @move v reply x y rest moves before after held seen enrolled fresh calm =>
    have old : d.newcomers.Perm (x.newcomers ++ rest.flatMap Role.newcomers) :=
      Role.perm_flatMap rfl before
    have new : d'.newcomers.Perm (y.newcomers ++ rest.flatMap Role.newcomers) :=
      Role.perm_flatMap rfl after
    rcases moves.newcomers with ⟨none, nextKey, same | lost | ⟨session, hears, hx, hy⟩⟩ |
      ⟨session, hx, hy, one, nextKey⟩
    · rw [none] at enrolled
      exact unchanged nextKey enrolled (old.trans (same ▸ new.symm))
    · -- the session is dropped before it has got a key
      rw [none] at enrolled
      refine h.of_subset enrolled nextKey
        ⟨x.newcomers, old.trans (List.Perm.append_left _ ?_)⟩ step.delivered
      simpa [lost] using new.symm
    · -- a session that no source has handed over before
      obtain ⟨unseen, seen⟩ := fresh session hears
      rw [none, List.nil_append] at enrolled
      rw [hx, List.nil_append] at old
      have all : (d'.enrolled.map (·.2) ++ d'.newcomers).Perm
          (session :: (d.enrolled.map (·.2) ++ d.newcomers)) := by
        rw [enrolled]
        refine (List.Perm.append_left _ (new.trans ?_)).trans List.perm_middle
        rw [hy]
        exact old.symm.cons _
      refine ⟨by rw [nextKey, enrolled, h.counter], by rw [enrolled]; exact h.drawn,
        by rw [enrolled]; exact h.keys, ?_, fun other hs => ?_⟩
      · refine all.nodup_iff.2 (List.nodup_cons.2 ⟨fun hs => unseen (h.made _ hs), h.sessions⟩)
      · rcases List.mem_cons.1 (all.mem_iff.1 hs) with rfl | hs
        · exact seen
        · exact step.delivered (h.made other hs)
    · -- the key that is drawn exceeds all the others
      rw [one] at enrolled
      rw [hx] at old
      rw [hy] at new
      have size : d'.enrolled.length = d.enrolled.length + 1 := by simp [enrolled]
      have drawn : d.pool.nextKey.number.toNat = d.enrolled.length + 1 :=
        toNat_key h.counter (by omega)
      have all : (d'.enrolled.map (·.2) ++ d'.newcomers).Perm
          (d.enrolled.map (·.2) ++ d.newcomers) := by
        rw [enrolled]
        exact (new.append_left _).trans (List.perm_middle.symm.trans (old.symm.append_left _))
      refine ⟨?_, ?_, ?_, all.nodup_iff.2 h.sessions, ?_⟩
      · rw [nextKey, h.counter, size]
        simp [UInt64.ofNat_add]
      · intro e he
        rw [enrolled] at he
        rcases List.mem_cons.1 he with rfl | he
        · simp only
          omega
        · have := h.drawn e he
          omega
      · rw [enrolled, List.singleton_append, List.map_cons, List.nodup_cons]
        refine ⟨?_, h.keys⟩
        intro hmem
        obtain ⟨e, he, hkey⟩ := List.mem_map.1 hmem
        have hle := (h.drawn e he).2
        simp only [hkey] at hle
        omega
      · intro other hs
        exact step.delivered (h.made other (all.mem_iff.1 hs))

end Ledger

end Interleaving

end ConnectionPool
