import ConnectionPool.Proofs.Custody
import ConnectionPool.Proofs.Giving
import ConnectionPool.Proofs.Trying

set_option autoImplicit false

/-! # The order of releases

Leases that are given back one after the other can be given back in any order. The sessions that are
closed are the same, and so is the pool, apart from the stamps of its sessions: releasing is a fold
over the leases, and two steps of the fold can be exchanged (`Releases.eq_foldl`). Whoever asks the
pool for sessions afterwards, without waiting, is answered, and cannot tell the order either
(`LeftAlike.of_timeless`).

In every order the leases can be given back to the end, because nobody who gives a session back has
to wait (`Guards.exists_releases`). -/

namespace ConnectionPool

namespace Interleaving

variable {S : Type} {h : Health S} {p p' : Pool S} {l : Lease S} {ms : List (Move S)}

/-! ## One after the other -/

/-- Leases are given back one after the other while nobody else does anything: the sessions that are
closed, and the state in the end. -/
inductive Releases (h : Health S) : State S → List (Lease S) → List S → State S → Prop
  | none {s : State S} : Releases h s [] [] s
  | next {s s₁ s' : State S} {n : Nat} {l : Lease S} {session : S} {request : Request}
      {ms : List (Move S)} {t : Task S} {ls : List (Lease S)} {closed : List S}
      (found : s.leases[n]? = some l) (has : l.session = some session)
      (gives : request = .release n ∨ request = .dropLease n)
      (one : AnsweredAlone s request ms t s₁)
      (shown : Shown h session ms) (rest : Releases h s₁ ls closed s') :
      Releases h s (l :: ls) (closedSessions (contacts ms) ++ closed) s'

variable {home : PoolId} {s s' s₁ s₂ : State S} {guards guards' ls : List (Lease S)}
  {closed : List S} {n : Nat}

/-- Whoever gives a lease back makes a call on its pool. -/
theorem State.exists_enter_gives {request : Request} (found : s.leases[n]? = some l)
    (gives : request = .release n ∨ request = .dropLease n) :
    ∃ kept, s.enter request =
      some (s.leases.eraseIdx n, ⟨l.home, false, .giveBack kept l.giveBack.2⟩) := by
  rcases gives with rfl | rfl
  · refine ⟨some l.giveBack.1, ?_⟩
    simp only [State.enter, found]
    rfl
  · refine ⟨none, ?_⟩
    simp only [State.enter, found]
    rfl

/-- Whoever gives a session back hears of no new one. -/
theorem delivery_of_return {r r' : Return S} {reply : Reply S}
    (hears : r.status.answer reply = some r') : reply.delivery = none := by
  cases r with
  | release r =>
    obtain ⟨u, hears', -⟩ := Status.answer_embed hears
    cases r with
    | close session closing =>
      cases reply with
      | closed outcome => rfl
      | _ => cases hears'
    | _ => cases hears'
  | close session =>
    cases reply with
    | closed outcome => rfl
    | _ => cases hears
  | reach | done => cases hears

theorem Course.delivers_nothing {t₀ t : Task S} (course : Course t₀ ms t)
    {kept : Option (Lease S)} {r : Return S} (gives : t₀ = .giveBack kept r) :
    deliveries (contacts ms) = [] ∧ (t = .returned ∨ ∃ kept r, t = .giveBack kept r) := by
  induction course with
  | here => exact ⟨rfl, .inr ⟨kept, r, gives⟩⟩
  | step course did ih =>
    obtain ⟨none, rfl | ⟨kept, r, rfl⟩⟩ := ih
    · cases did
    · obtain ⟨r', -, rfl⟩ := exists_of_map_step did
      exact ⟨none, .inr ⟨kept, r', rfl⟩⟩
  | @hear ms t t' reply contact course did learned ih =>
    obtain ⟨none, rfl | ⟨kept, r, rfl⟩⟩ := ih
    · cases did
    · obtain ⟨r', hears, rfl⟩ := Option.map_eq_some_iff.1 did
      refine ⟨?_, .inr ⟨kept, r', rfl⟩⟩
      rw [contacts_hear, deliveries_cons, none, Task.delivery_of_contact? learned,
        delivery_of_return hears]
      rfl
  | ends course ended ih => exact ⟨ih.1, .inl rfl⟩

/-- A lease that is given back while nobody else does anything has the same effect as if that were
done in one go. -/
theorem AnsweredAlone.eq_give {session : S} {request : Request} {t : Task S}
    (one : AnsweredAlone s request ms t s') (found : s.leases[n]? = some l)
    (has : l.session = some session)
    (gives : request = .release n ∨ request = .dropLease n) (shown : Shown h session ms)
    (built : s.pool? l.home = some p)
    (own : ∀ r, p.active.find? l.info.key = some r → r.session = session)
    (m : Multiset S) : s'.alive l.home = s.alive l.home ∧ ∃ p', s'.pool? l.home = some p' ∧
      (p'.timeless, ↑(closedSessions (contacts ms)) + m) =
        h.give (s.alive l.home) (p.timeless, m) l := by
  obtain ⟨kept, admitted⟩ := State.exists_enter_gives found gives
  have idle : (Task.giveBack kept l.giveBack.2).keeps = false := by
    simp only [Lease.giveBack, has]
    rfl
  obtain ⟨ended, course, p', built', chained⟩ := one.course admitted built
  obtain ⟨alive, first⟩ := one.alive admitted idle
  refine ⟨alive, p', built', ?_⟩
  have given := course.gives
  cases Task.ended_of_isEnded ended with
  | giveBack kept' outcome =>
    exact GivenBack.eq_give given.1 ⟨has, own, shown, chained, first⟩ m
  | _ => exact given.elim

/-- Nothing is delivered meanwhile, and every pool keeps its owner. -/
theorem Releases.keeps (released : Releases h s ls closed s') (built : s.pool? home = some p)
    (at_ : ∀ l ∈ ls, l.home = home) :
    s'.delivered = s.delivered ∧ ∀ home, s'.owned home = s.owned home := by
  induction released generalizing p with
  | none => exact ⟨rfl, fun _ => rfl⟩
  | @next s s₁ s' n l session request ms t ls closed found has gives one shown rest ih =>
    obtain rfl := at_ l List.mem_cons_self
    obtain ⟨kept, admitted⟩ := State.exists_enter_gives found gives
    obtain ⟨-, course, p₁, built₁, -⟩ := one.course admitted built
    obtain ⟨delivered, owned⟩ := ih built₁ fun l' hl' => at_ l' (List.mem_cons_of_mem _ hl')
    refine ⟨?_, fun home => (owned home).trans (one.owned home)⟩
    rw [delivered, one.delivered_eq, (course.delivers_nothing rfl).1, List.nil_append]

/-- Any number of leases have the same effect as if each were given back in one go. -/
theorem Releases.eq_foldl (released : Releases h s ls closed s') (built : s.pool? home = some p)
    (at_ : ∀ l ∈ ls, l.home = home)
    (own : ∀ l ∈ ls, ∀ r, p.timeless.active.find? l.info.key = some r → l.session = some r.session)
    (m : Multiset S) :
    ∃ p', s'.pool? home = some p' ∧
      (p'.timeless, ↑closed + m) = ls.foldl (h.give (s.alive home)) (p.timeless, m) := by
  induction released generalizing p m with
  | none => exact ⟨p, built, by simp⟩
  | @next s s₁ s' n l session request ms t ls closed found has gives one shown rest ih =>
    obtain rfl := at_ l List.mem_cons_self
    have own₁ (r : Record S) (known : p.active.find? l.info.key = some r) :
        r.session = session := by
      have same := own l List.mem_cons_self r.timeless (by simp [Pool.timeless, known])
      rw [has] at same
      exact (Option.some.inj same).symm
    obtain ⟨alive, p₁, built₁, given⟩ := one.eq_give found has gives shown built own₁ m
    have fewer {k : SessionKey} {r : Record S} (known : p₁.timeless.active.find? k = some r) :
        p.timeless.active.find? k = some r := by
      have pools : p₁.timeless = (h.give (s.alive l.home) (p.timeless, m) l).1 :=
        congrArg Prod.fst given
      rw [pools] at known
      exact Health.find?_active_give known
    obtain ⟨p', built', all⟩ := ih built₁ (fun l' hl' => at_ l' (List.mem_cons_of_mem _ hl'))
      (fun l' hl' r known => own l' (List.mem_cons_of_mem _ hl') r (fewer known))
      (↑(closedSessions (contacts ms)) + m)
    refine ⟨p', built', ?_⟩
    rw [List.foldl_cons, ← given, ← alive, ← all, ← Multiset.coe_add]
    exact congrArg (p'.timeless, ·) (by rw [add_assoc, add_left_comm])

/-! ## That it comes to an end -/

/-- A call can come to its end while nobody else does anything, seeing of a session what is to be
expected. -/
def Finishes (h : Health S) (session : S) (i : Nat) (s : State S) : Prop :=
  ∃ since s' call, Leads s since s' ∧ Solitary i since ∧ Shown h session (moves i since) ∧
    s'.calls[i]? = some call ∧ call.task.isEnded = true ∧ s'.leases = s.leases

section

variable {session : S} {i : Nat} {call : Call S} {c : Choice S} {move : Move S}

/-- A call can come to its end if it can from the next state on. -/
theorem Finishes.of_act (act : s.act c = some s₁) (fresh : c.Fresh s) (mine : c.caller? = some i)
    (moved : s.move? i c = some move) (expected : Shown h session [move])
    (leases : s₁.leases = s.leases)
    (next : Finishes h session i s₁) : Finishes h session i s := by
  obtain ⟨since, s', call, leads, alone, shown, was, ended, kept⟩ := next
  obtain ⟨leads', alone', all⟩ := leads.after_alone act fresh mine moved alone
  refine ⟨_, s', call, leads', alone', ?_, was, ended, kept.trans leases⟩
  rw [all]
  refine ⟨fun v q q' learned mem => ?_, fun outcome mem => ?_⟩
  · rcases List.mem_append.1 mem with mem | mem
    · exact shown.connected v q q' learned mem
    · exact expected.connected v q q' learned mem
  · rw [contacts_append] at mem
    rcases List.mem_append.1 mem with mem | mem
    · exact shown.closing outcome mem
    · exact expected.closing outcome mem

theorem Finishes.of_step {t' : Task S} (was : s.calls[i]? = some call)
    (built : s.pool? call.home = some p)
    (did : call.task.step (s.view call h.connected false) p = some (p', t'))
    (silent : call.task.finding? (s.view call h.connected false) p = none)
    (next : ∀ s₁ : State S, s₁.calls[i]? = some { call with task := t' } →
      s₁.pool? call.home = some p' → Finishes h session i s₁) : Finishes h session i s := by
  obtain ⟨s₁, act, was₁, built₁⟩ := State.exists_act_step was built did
  have moved : s.move? i (.step i h.connected false) =
      some (.step (s.view call h.connected false) p p' none) := by
    simp [State.move?, was, built, did, silent]
  have leases : s₁.leases = s.leases := by
    cases happens_of_act act with
    | step => rfl
  refine .of_act act trivial rfl moved ⟨?_, fun outcome mem => by cases mem⟩ leases
    (next s₁ was₁ built₁)
  intro v q q' learned mem
  cases List.mem_singleton.1 mem
  rfl

theorem Finishes.of_closing {t' : Task S} {x : S} (was : s.calls[i]? = some call)
    (built : s.pool? call.home = some p) (did : call.task.answer (.closed (h.closing x)) = some t')
    (learned : call.task.contact? (.closed (h.closing x)) = some (.closed x (h.closing x)))
    (next : ∀ s₁ : State S, s₁.calls[i]? = some { call with task := t' } →
      s₁.pool? call.home = some p → Finishes h session i s₁) : Finishes h session i s := by
  obtain ⟨s₁, act, was₁, built₁⟩ := State.exists_act_answer was built did
  have moved : s.move? i (.answer i (.closed (h.closing x))) =
      some (.hear (.closed x (h.closing x))) := by
    simp [State.move?, was, learned]
  have leases : s₁.leases = s.leases := by
    cases happens_of_act act with
    | answer => rfl
  refine .of_act act (fun _ mem => by cases mem) rfl moved
    ⟨fun v q q' learned mem => ?_, fun outcome mem => ?_⟩ leases (next s₁ was₁ built₁)
  · cases List.mem_singleton.1 mem
  · cases List.mem_singleton.1 mem
    rfl

theorem Finishes.of_ended (was : s.calls[i]? = some call) (ended : call.task.isEnded = true) :
    Finishes h session i s := by
  refine ⟨[], s, call, .here, by simp [Solitary], ⟨?_, ?_⟩, was, ended, rfl⟩
  · intro v q q' learned mem
    cases mem
  · intro outcome mem
    cases mem

end

section

variable {session x : S} {i : Nat} {byWorker closing : Bool} {key : SessionKey}

/-- A call that gives a session back to its pool. -/
def releasing (home : PoolId) (byWorker : Bool) (r : Release S) : Call S :=
  ⟨home, byWorker, .giveBack none (.release r)⟩

namespace Finishes

theorem of_done {outcome : Outcome Error Unit}
    (was : s.calls[i]? = some (releasing home byWorker (.done outcome)))
    (built : s.pool? home = some p) : Finishes h session i s := by
  refine .of_step was built rfl rfl fun s₁ was₁ built₁ => ?_
  exact .of_ended was₁ rfl

theorem of_announce (was : s.calls[i]? = some (releasing home byWorker .announce))
    (built : s.pool? home = some p) : Finishes h session i s := by
  refine .of_step was built rfl rfl fun s₁ was₁ built₁ => ?_
  exact .of_done was₁ built₁

theorem of_count (was : s.calls[i]? = some (releasing home byWorker (.count closing)))
    (built : s.pool? home = some p) : Finishes h session i s := by
  refine .of_step was built rfl rfl fun s₁ was₁ built₁ => ?_
  exact .of_announce was₁ built₁

/-- Whether closing the session comes to an end or not, the call does. -/
theorem of_close (was : s.calls[i]? = some (releasing home byWorker (.close x closing)))
    (built : s.pool? home = some p) : Finishes h session i s := by
  refine .of_closing (x := x) was built rfl rfl fun s₁ was₁ built₁ => ?_
  cases ends : h.closing x with
  | value u =>
    rw [ends] at was₁
    exact .of_count was₁ built₁
  | error e => exact e.elim
  | panic text =>
    rw [ends] at was₁
    exact .of_done was₁ built₁

theorem of_readClosed (was : s.calls[i]? = some (releasing home byWorker (.readClosed x)))
    (built : s.pool? home = some p) : Finishes h session i s := by
  refine .of_step was built rfl rfl fun s₁ was₁ built₁ => ?_
  exact .of_close was₁ built₁

theorem of_takeBack (was : s.calls[i]? = some (releasing home byWorker (.takeBack key)))
    (built : s.pool? home = some p) : Finishes h session i s := by
  let v := s.view (releasing home byWorker (.takeBack key)) h.connected false
  obtain ⟨p', r', took, next⟩ := Release.exists_step_takeBack v p key
  have did : (releasing home byWorker (.takeBack key)).task.step v p =
      some (p', .giveBack none (.release r')) := by
    simp [releasing, Task.step, Return.step, took]
  refine .of_step was built did rfl fun s₁ was₁ built₁ => ?_
  rcases next with ⟨outcome, rfl⟩ | rfl | ⟨x, rfl⟩
  · exact .of_done was₁ built₁
  · exact .of_announce was₁ built₁
  · exact .of_readClosed was₁ built₁

/-- Giving back to a pool that is there comes to an end. -/
theorem of_release (r : Release S) (was : s.calls[i]? = some (releasing home byWorker r))
    (built : s.pool? home = some p) : Finishes h session i s := by
  cases r with
  | takeBack key => exact .of_takeBack was built
  | readClosed session => exact .of_readClosed was built
  | close session closing => exact .of_close was built
  | count closing => exact .of_count was built
  | announce => exact .of_announce was built
  | done outcome => exact .of_done was built

/-- So does closing a session whose pool is gone. -/
theorem of_gone (was : s.calls[i]? = some ⟨home, byWorker, .giveBack none (.close x)⟩)
    (built : s.pool? home = some p) : Finishes h session i s := by
  refine .of_closing (x := x) was built rfl rfl fun s₁ was₁ built₁ => ?_
  cases ends : h.closing x with
  | value u =>
    rw [ends] at was₁
    exact .of_ended was₁ rfl
  | error e => exact e.elim
  | panic text =>
    rw [ends] at was₁
    exact .of_ended was₁ rfl

/-- Giving back comes to an end, whether the pool is still there or not. -/
theorem of_reach (was : s.calls[i]? = some ⟨home, byWorker, .giveBack none (.reach x key)⟩)
    (built : s.pool? home = some p) : Finishes h session i s := by
  refine .of_step was built rfl rfl fun s₁ was₁ built₁ => ?_
  split at was₁
  · exact .of_release _ was₁ built₁
  · exact .of_gone was₁ built₁

end Finishes

end

/-- A lease can be given back while nobody else does anything, and the others are still there
afterwards. -/
theorem exists_answeredAlone {session : S} (found : s.leases[n]? = some l)
    (has : l.session = some session) (built : s.pool? l.home = some p) (h : Health S) :
    ∃ ms t s', AnsweredAlone s (.dropLease n) ms t s' ∧ Shown h session ms ∧
      s.leases.eraseIdx n ⊆ s'.leases ∧ ∃ p', s'.pool? l.home = some p' := by
  have begun : s.act (.begin (.dropLease n)) = some { s with
      leases := s.leases.eraseIdx n
      calls := s.calls ++ [⟨l.home, false, .giveBack none (.reach session l.info.key)⟩] } := by
    simp [State.act, State.enter, found, Lease.giveBack, has]
  have was₁ : (s.calls ++
      [(⟨l.home, false, .giveBack none (.reach session l.info.key)⟩ : Call S)])[s.calls.length]? =
      some ⟨l.home, false, .giveBack none (.reach session l.info.key)⟩ :=
    List.getElem?_concat_length
  have built₁ : (State.mk s.now s.sites (s.leases.eraseIdx n)
      (s.calls ++ [⟨l.home, false, .giveBack none (.reach session l.info.key)⟩])
      s.delivered).pool? l.home = some p := built
  have finishes : Finishes h session s.calls.length { s with
      leases := s.leases.eraseIdx n
      calls := s.calls ++ [⟨l.home, false, .giveBack none (.reach session l.info.key)⟩] } :=
    .of_reach was₁ built₁
  obtain ⟨since, s₂, call, leads, alone, shown, was, ended, leases⟩ := finishes
  have finished : s₂.act (.finish s.calls.length) = some { s₂ with
      leases := s₂.leases ++ call.yields
      calls := s₂.calls.set s.calls.length { call with task := .returned } } := by
    simp [State.act, was, ended]
  refine ⟨_, _, _, .intro begun leads alone was finished, shown, ?_, leads.exists_pool? built₁⟩
  rw [leases]
  exact List.subset_append_left _ _

/-- Some of the leases of a pool that callers hold and have not released. -/
structure Guards (home : PoolId) (s : State S) (guards : List (Lease S)) : Prop where
  held : guards ⊆ s.leases
  distinct : guards.Nodup
  at_ : ∀ l ∈ guards, l.home = home
  unreleased : ∀ l ∈ guards, l.isReleased = false

namespace Guards

theorem of_perm (guarded : Guards home s guards) (perm : guards'.Perm guards) :
    Guards home s guards' where
  held _ hl := guarded.held (perm.mem_iff.1 hl)
  distinct := perm.nodup_iff.2 guarded.distinct
  at_ l hl := guarded.at_ l (perm.mem_iff.1 hl)
  unreleased l hl := guarded.unreleased l (perm.mem_iff.1 hl)

theorem exists_session (guarded : Guards home s guards) (hl : l ∈ guards) :
    ∃ session, l.session = some session := by
  have unreleased := guarded.unreleased l hl
  rw [Lease.isReleased, Option.isNone_eq_false_iff] at unreleased
  exact Option.isSome_iff_exists.1 unreleased

/-- They can be given back one after the other, whatever the sessions are like. -/
theorem exists_releases (guarded : Guards home s guards)
    (built : s.pool? home = some p) (h : Health S) :
    ∃ closed s', Releases h s guards closed s' := by
  induction guards generalizing s p with
  | nil => exact ⟨[], s, .none⟩
  | cons l ls ih =>
    obtain ⟨n, found⟩ := List.getElem?_of_mem (guarded.held List.mem_cons_self)
    obtain ⟨session, has⟩ := guarded.exists_session List.mem_cons_self
    obtain rfl := guarded.at_ l List.mem_cons_self
    obtain ⟨fresh, distinct⟩ := List.nodup_cons.1 guarded.distinct
    obtain ⟨ms, t, s₁, one, shown, kept, p₁, built₁⟩ := exists_answeredAlone found has built h
    have others : Guards l.home s₁ ls := by
      refine ⟨fun l' hl' => kept ?_, distinct,
        fun l' hl' => guarded.at_ l' (List.mem_cons_of_mem _ hl'),
        fun l' hl' => guarded.unreleased l' (List.mem_cons_of_mem _ hl')⟩
      obtain ⟨m, found'⟩ := List.getElem?_of_mem (guarded.held (List.mem_cons_of_mem l hl'))
      refine List.mem_eraseIdx_iff_getElem?.2 ⟨m, ?_, found'⟩
      rintro rfl
      cases found.symm.trans found'
      exact fresh hl'
    obtain ⟨closed, s', rest⟩ := ih others built₁
    exact ⟨_, s', .next found has (.inr rfl) one shown rest⟩

end Guards

/-! ## Main result -/

/-- What two states have in common if a pool was left alike by both, apart from the stamps of its
sessions: the pool, its owner, and whatever becomes of requests for sessions that do not wait. -/
structure LeftAlike (home : PoolId) (s₁ s₂ : State S) : Prop where
  pools : ∃ p₁ p₂, s₁.pool? home = some p₁ ∧ s₂.pool? home = some p₂ ∧ p₁.timeless = p₂.timeless
  owned : s₁.owned home = s₂.owned home
  delivered : s₁.delivered = s₂.delivered
  tries : ∀ w heard₁ heard₂ outcomes₁ outcomes₂ t₁ t₂, Tries w home s₁ heard₁ outcomes₁ t₁ →
    Tries w home s₂ heard₂ outcomes₂ t₂ → outcomes₁.length = outcomes₂.length →
      outcomes₁.map timelessAnswer = outcomes₂.map timelessAnswer ∧ heard₁ = heard₂
  /-- While the pool has its owner, any number of requests comes to an end in both. -/
  answered : ∀ w n, s₁.owned home = true → w.Inventive s₁.delivered →
    ∃ heard outcomes₁ outcomes₂ t₁ t₂, Tries w home s₁ heard outcomes₁ t₁ ∧
      Tries w home s₂ heard outcomes₂ t₂ ∧ outcomes₁.length = n ∧
      outcomes₁.map timelessAnswer = outcomes₂.map timelessAnswer

/-- Pools that are the same apart from the stamps of their sessions are left alike, if they have
owners or not and the same sessions were delivered. -/
theorem LeftAlike.of_timeless {q : Pool S} (built₁ : s₁.pool? home = some p)
    (built₂ : s₂.pool? home = some q) (alike : p.timeless = q.timeless)
    (owned : s₁.owned home = s₂.owned home)
    (delivered : s₁.delivered = s₂.delivered) : LeftAlike home s₁ s₂ := by
  have agree : ∀ w heard₁ heard₂ outcomes₁ outcomes₂ t₁ t₂, Tries w home s₁ heard₁ outcomes₁ t₁ →
      Tries w home s₂ heard₂ outcomes₂ t₂ → outcomes₁.length = outcomes₂.length →
        outcomes₁.map timelessAnswer = outcomes₂.map timelessAnswer ∧ heard₁ = heard₂ := by
    intro w heard₁ heard₂ outcomes₁ outcomes₂ t₁ t₂ tries₁ tries₂ same
    obtain ⟨answers, heards, -⟩ := tries₁.agree tries₂ same built₁ built₂ alike
    exact ⟨answers, heards⟩
  refine ⟨⟨p, q, built₁, built₂, alike⟩, owned, delivered, agree, ?_⟩
  intro w n owned₁ inventive
  obtain ⟨heard₁, outcomes₁, t₁, tries₁, count₁⟩ := exists_tries inventive owned₁ n
  obtain ⟨heard₂, outcomes₂, t₂, tries₂, count₂⟩ :=
    exists_tries (delivered ▸ inventive) (owned.symm.trans owned₁) n
  obtain ⟨answers, rfl⟩ := agree w _ _ _ _ _ _ tries₁ tries₂ (count₁.trans count₂.symm)
  exact ⟨heard₁, outcomes₁, outcomes₂, t₁, t₂, tries₁, tries₂, count₁, answers⟩

/-- Leases can be given back in any order, and it does not matter in which: the sessions that are
closed are the same, and the pool is left alike. -/
theorem order_of_releases {past : List (State S × Choice S)} (run : Run past s)
    (built : s.pool? home = some p) (few : (enrolled home past).length < UInt64.size)
    (guarded : Guards home s guards) (h : Health S) :
    (∀ order, order.Perm guards → ∃ closed s', Releases h s order closed s') ∧
      ∀ order₁ order₂ closed₁ closed₂ s₁ s₂, order₁.Perm guards → order₂.Perm guards →
        Releases h s order₁ closed₁ s₁ → Releases h s order₂ closed₂ s₂ →
          closed₁.Perm closed₂ ∧ LeftAlike home s₁ s₂ := by
  refine ⟨fun order perm => (guarded.of_perm perm).exists_releases built h, ?_⟩
  intro order₁ order₂ closed₁ closed₂ s₁ s₂ perm₁ perm₂ first second
  -- a lease holds the session that the pool has under its key
  obtain ⟨-, -, holders⟩ := run.custody built few
  have own : ∀ l ∈ guards, ∀ r, p.timeless.active.find? l.info.key = some r →
      l.session = some r.session := by
    intro l hl r known
    obtain ⟨session, has⟩ := guarded.exists_session hl
    have active : p.active.find? l.info.key = some ⟨session, l.info⟩ :=
      holders.held _ (mem_held_of_lease (List.mem_append_left _ (guarded.held hl))
        (guarded.at_ l hl) has)
    simp only [Pool.timeless, Roster.find?_map, active, Option.map_some, Option.some.injEq] at known
    rw [has, ← known]
    rfl
  have at₁ (l : Lease S) (hl : l ∈ order₁) : l.home = home := guarded.at_ l (perm₁.mem_iff.1 hl)
  have at₂ (l : Lease S) (hl : l ∈ order₂) : l.home = home := guarded.at_ l (perm₂.mem_iff.1 hl)
  obtain ⟨p₁, built₁, all₁⟩ := first.eq_foldl built at₁ (fun l hl => own l (perm₁.mem_iff.1 hl)) 0
  obtain ⟨p₂, built₂, all₂⟩ := second.eq_foldl built at₂ (fun l hl => own l (perm₂.mem_iff.1 hl)) 0
  rw [(perm₁.trans perm₂.symm).foldl_eq, ← all₂] at all₁
  obtain ⟨alike, sessions⟩ := Prod.mk.inj all₁
  obtain ⟨delivered₁, owned₁⟩ := first.keeps built at₁
  obtain ⟨delivered₂, owned₂⟩ := second.keeps built at₂
  refine ⟨Multiset.coe_eq_coe.1 (by simpa using sessions), .of_timeless built₁ built₂ alike ?_ ?_⟩
  · rw [owned₁, owned₂]
  · rw [delivered₁, delivered₂]

/-- Two sessions are lent, by one pool. -/
def lendingBoth : List (Choice Nat) :=
  List.flatten [[.build { settings := { maxConnections := 2 }, source := some .server }],
    lending 1 10, lending 2 20]

/-- One of them is connected. -/
def oneConnected : Health Nat := ⟨fun session => session == 10, fun _ => .value ()⟩

theorem order_of_releases_of_lendingBoth :
    ∃ past s p closed₁ closed₂ s₁ s₂, Run (S := Nat) past s ∧ s.pool? 0 = some p ∧
      (enrolled 0 past).length < UInt64.size ∧ s.leases.length = 2 ∧ Guards 0 s s.leases ∧
      Releases oneConnected s s.leases closed₁ s₁ ∧
      Releases oneConnected s s.leases.reverse closed₂ s₂ ∧
      closed₁.Perm closed₂ ∧ LeftAlike 0 s₁ s₂ ∧ ∃ heard outcomes₁ outcomes₂ t₁ t₂,
        Tries (.numbering s₁.delivered) 0 s₁ heard outcomes₁ t₁ ∧
        Tries (.numbering s₁.delivered) 0 s₂ heard outcomes₂ t₂ ∧ outcomes₁.length = 3 ∧
        outcomes₁.map timelessAnswer = outcomes₂.map timelessAnswer := by
  have h : ((play lendingBoth).any fun r => decide ((r.2.pool? 0).isSome = true ∧
      (enrolled 0 r.1).length < UInt64.size ∧ r.2.leases.length = 2 ∧ r.2.leases.Nodup ∧
        (∀ l ∈ r.2.leases, l.home = 0) ∧ (∀ l ∈ r.2.leases, l.isReleased = false) ∧
        r.2.owned 0 = true)) = true := by
    decide +kernel
  obtain ⟨⟨past, s⟩, played, h⟩ := (Option.any_eq_true _ _).1 h
  obtain ⟨exists_, few, two, distinct, at_, unreleased, owned⟩ := of_decide_eq_true h
  obtain ⟨p, built⟩ := Option.isSome_iff_exists.1 exists_
  have guarded : Guards 0 s s.leases := ⟨List.Subset.refl _, distinct, at_, unreleased⟩
  obtain ⟨releases, agree⟩ := order_of_releases (run_of_play played) built few guarded oneConnected
  obtain ⟨closed₁, s₁, first⟩ := releases s.leases (.refl _)
  obtain ⟨closed₂, s₂, second⟩ := releases s.leases.reverse (List.reverse_perm _)
  obtain ⟨closed, alike⟩ :=
    agree _ _ closed₁ closed₂ s₁ s₂ (.refl _) (List.reverse_perm _) first second
  have owned₁ : s₁.owned 0 = true := ((first.keeps built at_).2 0).trans owned
  have answered := alike.answered _ 3 owned₁ (Surroundings.inventive_numbering _)
  exact ⟨past, s, p, closed₁, closed₂, s₁, s₂, run_of_play played, built, few, two, guarded,
    first, second, closed, alike, answered⟩

end Interleaving

end ConnectionPool
