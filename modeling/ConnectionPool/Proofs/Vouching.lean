import ConnectionPool.Proofs.Later
import ConnectionPool.Proofs.Spoils

set_option autoImplicit false

/-! # The keys that leases vouch for

A call that was handed a session by a lease has no record of it. It relies on the key that the lease
showed, and so would close or let go a stranger if leases could show wrong keys. They do not: a
lease that was not released shows the key of its session (`Run.known_of_lease`), and so does every
call that has taken a session over from a lease (`Run.vouched`). -/

namespace ConnectionPool

namespace Interleaving

variable {S : Type} {v : View S} {home : PoolId} {past : List (State S × Choice S)} {s s' : State S}
  {c : Choice S} {p p' : Pool S}

/-! ## Keys drawn so far -/

theorem enrolled_subset (e : State S × Choice S) :
    enrolled home past ⊆ enrolled home (e :: past) := by
  rw [enrolled_cons]
  exact List.subset_append_right _ _

theorem few_of_cons {e : State S × Choice S}
    (few : (enrolled home (e :: past)).length < UInt64.size) :
    (enrolled home past).length < UInt64.size := by
  rw [enrolled_cons, List.length_append] at few
  omega

/-- A choice draws one key at most. -/
theorem length_enrolled_le (home : PoolId) (past : List (State S × Choice S)) :
    (enrolled home past).length ≤ past.length := by
  have one (s : State S) (c : Choice S) : (s.enrolment home c).length ≤ 1 := by
    unfold State.enrolment
    split
    · split
      · split <;> simp
      · simp
    · simp
  induction past with
  | nil => exact Nat.le_refl 0
  | cons e past ih =>
    rw [enrolled_cons, List.length_append, List.length_cons]
    have := one e.1 e.2
    omega

/-! ## What leases show -/

/-- A lease that was not released knows the key of its session. -/
theorem Run.known_of_lease (run : Run past s)
    (few : (enrolled home past).length < UInt64.size) {l : Lease S} (hl : l ∈ s.allLeases)
    (at_ : l.home = home) {session : S} (holds : l.session = some session) :
    (l.info.key, session) ∈ enrolled home past := by
  have hlt : home < s.sites.length := by
    rw [← at_]
    rcases List.mem_append.1 hl with hl | hl
    · exact run.grounded.leases l hl
    · obtain ⟨call, hcall, hl⟩ := List.mem_flatMap.1 hl
      exact run.grounded.tasks call hcall l hl
  obtain ⟨p, built⟩ := State.exists_pool hlt
  obtain ⟨-, placed, owned⟩ := run.custody built few
  exact (placed.filed.active _ _ (owned.held _ (mem_held_of_lease hl at_ holds))).known

theorem vouched?_giveBack {l : Lease S} {e : SessionKey × S} (h : l.giveBack.2.vouched? = some e) :
    l.session = some e.2 ∧ e.1 = l.info.key := by
  obtain ⟨at_, session, info⟩ := l
  cases session <;> cases h
  exact ⟨rfl, rfl⟩

theorem vouched?_surrender {l : Lease S} {e : SessionKey × S}
    (h : (Surrender.start l).vouched? = some e) : l.session = some e.2 ∧ e.1 = l.info.key := by
  obtain ⟨at_, session, info⟩ := l
  cases session <;> cases h
  exact ⟨rfl, rfl⟩

end Interleaving

/-! ## What calls rely on -/

/-- Giving a session back goes on without the key and the session together. -/
theorem Return.not_vouched?_of_step {S : Type} {v : View S} {p p' : Pool S} {r r' : Return S}
    (h : r.step v p = some (p', r')) : r'.vouched? = none := by
  cases r with
  | reach session key =>
    cases h
    split <;> rfl
  | release r =>
    rcases release_of_step h with ⟨outcome, -, -, rfl⟩ | ⟨u, -, rfl⟩ <;> rfl
  | close | done => cases h

theorem Surrender.vouched?_of_step {S : Type} {v : View S} {p p' : Pool S} {d d' : Surrender S}
    {e : SessionKey × S} (h : d.step v p = some (p', d')) (vouched : d'.vouched? = some e) :
    d.vouched? = some e := by
  cases d with
  | reach session key =>
    cases h
    split at vouched
    · exact vouched
    · cases vouched
  | detach session d =>
    rcases detach_of_step h with ⟨outcome, -, -, rfl⟩ | ⟨u, hu, rfl⟩
    · cases vouched
    · cases d with
      | letGo key =>
        simp only [Detach.step] at hu
        split at hu <;> cases hu <;> cases vouched
      | announce =>
        cases hu
        cases vouched
      | done => cases hu
  | done => cases h

namespace Interleaving

variable {S : Type} {v : View S} {home : PoolId} {past : List (State S × Choice S)} {s s' : State S}
  {c : Choice S} {p p' : Pool S}

/-- A call is vouched for as it was before, or has taken over the source of a transfer. -/
theorem Task.vouched?_of_step {t t' : Task S} {e : SessionKey × S} (h : t.step v p = some (p', t'))
    (vouched : t'.vouched? = some e) : t.vouched? = some e ∨
      ∃ source ∈ t.leases, t.source? = some source ∧ source.session = some e.2 ∧
      e.1 = source.info.key := by
  cases t with
  | giveBack kept r =>
    obtain ⟨u, hu, rfl⟩ := exists_of_map_step h
    rw [vouched?, Return.not_vouched?_of_step hu] at vouched
    cases vouched
  | surrender d =>
    obtain ⟨u, hu, rfl⟩ := exists_of_map_step h
    exact .inl (Surrender.vouched?_of_step hu vouched)
  | transfer t =>
    obtain ⟨u, hu, rfl⟩ := exists_of_map_step h
    cases Transfer.steps_of_step hu with
    | giving around did =>
      cases around <;> rw [vouched?, Return.not_vouched?_of_step did] at vouched <;> cases vouched
    | @replaced old source given =>
      cases given with
      | panic text =>
        obtain ⟨holds, key⟩ := vouched?_giveBack vouched
        exact .inr ⟨source, by simp [leases], rfl, holds, key⟩
      | _ => cases vouched
    | @refused target given => cases given <;> cases vouched
    | abandoned => cases vouched
  | returned => cases h
  | _ =>
    obtain ⟨u, -, rfl⟩ := exists_of_map_step h
    cases vouched

theorem Task.not_vouched?_of_answer {t t' : Task S} {reply : Reply S}
    (h : t.answer reply = some t') : t'.vouched? = none := by
  have giving {r r' : Return S} (h : r.status.answer reply = some r') : r'.vouched? = none := by
    cases r with
    | release r =>
      obtain ⟨u, -, rfl⟩ := Status.answer_embed h
      rfl
    | close session =>
      cases reply with
      | closed outcome =>
        cases h
        cases outcome with
        | error e => exact e.elim
        | _ => rfl
      | _ => cases h
    | _ => cases h
  cases t with
  | giveBack kept r =>
    obtain ⟨u, hu, rfl⟩ := Option.map_eq_some_iff.1 h
    exact giving hu
  | transfer t =>
    obtain ⟨u, hu, rfl⟩ := Option.map_eq_some_iff.1 h
    cases t with
    | done => cases reply <;> cases hu
    | _ =>
      obtain ⟨r, hr, rfl⟩ := Status.answer_embed hu
      exact giving hr
  | surrender d =>
    obtain ⟨u, hu, rfl⟩ := Option.map_eq_some_iff.1 h
    exact (Surrender.not_answer hu).elim
  | resize | returned => cases h
  | _ =>
    obtain ⟨u, -, rfl⟩ := Option.map_eq_some_iff.1 h
    rfl

/-! ## In every run -/

/-- Whatever a call is vouched for is known under the key that goes with it. -/
theorem Run.vouched (run : Run past s) {i : Nat} {call : Call S} (atWork : s.calls[i]? = some call)
    (few : (enrolled call.home past).length < UInt64.size) {e : SessionKey × S}
    (vouched : call.task.vouched? = some e) : e ∈ enrolled call.home past := by
  induction run generalizing i call e with
  | start => simp at atWork
  | @next past s s' c run fresh act ih =>
    have earlier := few_of_cons few
    -- whoever begins is vouched for by a lease
    have own {l : Lease S} (hl : l ∈ s.leases) (at_ : l.home = call.home)
        (h : l.session = some e.2 ∧ e.1 = l.info.key) :
        e ∈ enrolled call.home ((s, c) :: past) := by
      have known := run.known_of_lease earlier (List.mem_append_left _ hl) at_ h.1
      rw [← h.2] at known
      exact enrolled_subset _ known
    cases came_of_act act atWork with
    | stays was => exact enrolled_subset _ (ih was earlier vouched)
    | begins new =>
      cases begins_of_act act new atWork with
      | giveBack hl => exact own hl rfl (vouched?_giveBack vouched)
      | surrender hl => exact own hl rfl (vouched?_surrender vouched)
      | transfer ht hs =>
        simp only [Transfer.start] at vouched
        split at vouched
        · next same => exact own ht same (vouched?_giveBack vouched)
        · exact own hs rfl (vouched?_giveBack vouched)
      | _ => cases vouched
    | @steps connected contended old site q was at_ found did =>
      rw [at_] at earlier ⊢
      rcases Task.vouched?_of_step did vouched with before | ⟨source, hs, from_, holds, key⟩
      · exact enrolled_subset _ (ih was earlier before)
      · have hold := List.mem_of_getElem? was
        have hs : source ∈ s.allLeases :=
          List.mem_append_right _ (List.mem_flatMap.2 ⟨old, hold, hs⟩)
        have known := run.known_of_lease earlier hs
          (run.grounded.sources old hold source from_) holds
        rw [← key] at known
        exact enrolled_subset _ known
    | hears was at_ did =>
      rw [Task.not_vouched?_of_answer did] at vouched
      cases vouched
    | ends was ended last =>
      rw [last] at vouched
      cases vouched

end Interleaving

end ConnectionPool
