import Mathlib.Algebra.BigOperators.Group.Finset.Basic
import ConnectionPool.Proofs.Accounting
import ConnectionPool.Proofs.Records
import ConnectionPool.Proofs.Requests

set_option autoImplicit false

/-! # Who was lent what, and how often

A record counts how often its session was lent, its pool counts the requests that were met, and
callers count the leases that they are handed. A session is lent in a locked section, the request is
counted as met in a later step, and the lease is handed over later still; in between the acquirer
has the loan in its hands. So the count of a record is ahead of the leases by what is in hand
(`Lendings.records`), and the count of the pool by what is ready to be handed over
(`Lendings.total`). -/

namespace ConnectionPool

namespace Interleaving

variable {S : Type} {v : View S} {reply : Option (Reply S)} {home : PoolId}
  {past : List (State S × Choice S)} {s s' : State S} {c : Choice S} {p p' : Pool S} {x y : Role S}

/-! ## What is lent, and what is handed over -/

/-- The keys of the sessions that an acquirer was lent. -/
def Role.loans : Role S → List SessionKey
  | loan record => [record.info.key]
  | _ => []

/-- The key of the session that a call on the pool is about to hand over in a lease. -/
def Call.issue (home : PoolId) (call : Call S) : List SessionKey :=
  if call.home = home then call.task.loan?.toList.map (·.info.key) else []

/-- The keys of the sessions that acquirers were lent and have not handed over yet. -/
def State.lending (s : State S) (home : PoolId) : List SessionKey :=
  (s.roles home).flatMap Role.loans

/-- The keys of the sessions that are ready to be handed over. -/
def State.ready (s : State S) (home : PoolId) : List SessionKey := s.calls.flatMap (Call.issue home)

/-- The key of the session for which a choice hands a lease over. -/
def State.issues (s : State S) (home : PoolId) : Choice S → List SessionKey
  | .finish i => (s.calls[i]?).toList.flatMap (Call.issue home)
  | _ => []

/-- The keys of the sessions for which leases were handed over, one for each lease, the latest
first. -/
def issued (home : PoolId) (past : List (State S × Choice S)) : List SessionKey :=
  past.flatMap fun e => e.1.issues home e.2

theorem issued_cons : issued home ((s, c) :: past) = s.issues home c ++ issued home past :=
  List.flatMap_cons

theorem Role.loans_of_not_acquires {x : Role S} (h : x.acquires = false) : x.loans = [] := by
  cases x <;> first | rfl | cases h

theorem Task.loan?_of_not_acquire {t : Task S} (h : ∀ a, t ≠ .acquire a) : t.loan? = none := by
  cases t with
  | acquire a => exact (h a rfl).elim
  | _ => rfl

/-- An acquirer is ready to hand over a lease exactly if it has counted its request as met. -/
theorem Acquire.length_loan? (a : Acquire S) :
    (Task.acquire a).loan?.toList.length = a.counted.1 := by
  cases a with
  | done outcome =>
    cases outcome with
    | value loan? => cases loan? <;> rfl
    | _ => rfl
  | giveBack failure | announceSlot failure => cases failure <;> rfl
  | _ => rfl

/-- Whatever a step counts as met becomes ready to be handed over. -/
theorem Task.exists_met_of_step {t t' : Task S} (h : t.step v p = some (p', t')) :
    ∃ n, p'.tally.checkouts = p.tally.checkouts + .ofNat n ∧
      t'.loan?.toList.length = t.loan?.toList.length + n := by
  have none {q : Pool S} (same : q.requests = p.requests) :
      q.tally.checkouts = p.tally.checkouts + .ofNat 0 :=
    (congrArg Prod.fst same : q.tally.checkouts = _).trans (UInt64.add_zero _).symm
  rcases Task.requests_of_step h with ⟨a, a', rfl, rfl, stepped⟩ | ⟨same, other⟩
  · rw [Acquire.length_loan?, Acquire.length_loan?]
    rcases Acquire.requests_of_step stepped with
      ⟨same, counted⟩ | ⟨met, zero, one⟩ | ⟨failed, zero, zero'⟩
    · exact ⟨0, none same, by rw [counted, Nat.add_zero]⟩
    · exact ⟨1, congrArg Prod.fst met, by rw [zero, one]⟩
    · exact ⟨0, (congrArg Prod.fst failed : p'.tally.checkouts = _).trans (UInt64.add_zero _).symm,
        by rw [zero, zero']⟩
  · rw [Task.loan?_of_not_acquire fun a => (other a).1,
      Task.loan?_of_not_acquire fun a => (other a).2]
    exact ⟨0, none same, rfl⟩

theorem Begins.loan? {call : Call S} (h : Begins s c call) : call.task.loan? = none := by
  cases h with
  | acquire first => rcases first with rfl | ⟨limit, rfl⟩ <;> rfl
  | _ => rfl

theorem Task.loan?_of_answer {t t' : Task S} {reply : Reply S} (h : t.answer reply = some t') :
    t.loan? = none ∧ t'.loan? = none := by
  have none {a : Acquire S} (zero : a.counted = (0, 0)) : (Task.acquire a).loan? = none := by
    have length := Acquire.length_loan? a
    rw [zero] at length
    exact Option.toList_eq_nil_iff.1 (List.length_eq_zero_iff.1 length)
  cases t with
  | acquire a =>
    obtain ⟨a', heard, rfl⟩ := Option.map_eq_some_iff.1 h
    obtain ⟨zero, zero'⟩ := Acquire.counted_of_answer heard
    exact ⟨none zero, none zero'⟩
  | _ =>
    refine ⟨rfl, Task.loan?_of_not_acquire fun a same => ?_⟩
    subst same
    obtain ⟨a₀, same, -⟩ := Task.acquire_of_answer h
    cases same

/-! ## Lending in one move -/

/-- What a change of the pool and of a role does to the counts of the records. -/
inductive Lends (p : Pool S) (x : Role S) (p' : Pool S) (y : Role S) : Prop
  | keeps (loans : y.loans = x.loans)
      (records : ∀ key r, p'.Has key r → ∃ old, p.Has key old ∧
      r.info.checkouts = old.info.checkouts)
  /-- A session is lent: one that was idle, or a new one. -/
  | lends {loan : Record S} (free : x.loans = []) (lent : y = .loan loan)
      (counted : x = .recruit loan ∨
        ∃ old, p.Has loan.info.key old ∧ loan.info.checkouts = old.info.checkouts + 1)
      (records : ∀ key r, p'.Has key r → key = loan.info.key ∧ r = loan ∨
      key ≠ loan.info.key ∧ p.Has key r)

theorem Moves.lends {en : List (SessionKey × S)} (m : Moves v reply p x p' y) (filed : Filed en p)
    (vacant : ∀ r, x = .recruit r → p.places r.info.key = 0) : Lends p x p' y := by
  -- a move that lends nothing makes every record of one with the same count
  have keeps (loans : y.loans = x.loans) (other : ∀ loan, y ≠ .loan loan) : Lends p x p' y := by
    refine .keeps loans fun key r has => ?_
    rcases has with lent | shelved
    · cases m.activeFrom filed lent with
      | stays was => exact ⟨r, .inl was, rfl⟩
      | reused was free made same => exact (other _ same).elim
      | installed was own same => exact (other _ same).elim
    · cases m.idleFrom shelved with
      | stays was => exact ⟨r, .inr was, rfl⟩
      | @shelved old was made => exact ⟨old, .inl was, by rw [made]; rfl⟩
      | @marked old was made => exact ⟨old, .inr was, by rw [made]; rfl⟩
      | @passed old was made => exact ⟨old, .inr was, by rw [made]; rfl⟩
  cases m with
  | pass alike =>
    refine .keeps rfl fun key r has => ⟨r, ?_, rfl⟩
    rw [Pool.Has, alike.active, alike.idle] at has
    exact has
  | @reuse epoch cap p' loan lend =>
    obtain ⟨k, record, was, -, rfl, rfl⟩ := Pool.lend_eq_reuse lend
    have own : record.info.key = k := (filed.idle k record was).own
    refine .lends rfl rfl (.inr ⟨record, .inr (own.symm ▸ was), rfl⟩) fun key r has => ?_
    rw [Pool.Has, Roster.find?_insert, Roster.find?_erase, Record.key_checkOut, own] at *
    by_cases same : key = k
    · rw [if_pos same, if_pos same] at has
      rcases has with lent | gone
      · cases lent
        exact .inl ⟨same, rfl⟩
      · cases gone
    · rw [if_neg same, if_neg same] at has
      exact .inr ⟨same, has⟩
  | @install loan isOpen =>
    have away : p.places loan.info.key = 0 := vacant loan rfl
    refine .lends rfl rfl (.inl rfl) fun key r has => ?_
    simp only [Pool.Has, Pool.install, isOpen, Pool.unreserve, Bool.false_eq_true, if_false,
      Roster.find?_insert] at has
    by_cases same : key = loan.info.key
    · rw [if_pos same] at has
      rcases has with lent | shelved
      · cases lent
        exact .inl ⟨same, rfl⟩
      · rw [same] at shelved
        have here := Roster.count_keys_of_some shelved
        rw [Pool.places] at away
        omega
    · rw [if_neg same] at has
      exact .inr ⟨same, has⟩
  | retire shut => rcases shut with rfl | rfl <;> exact keeps rfl (by simp)
  | _ => exact keeps rfl (by simp)

theorem HandsOver.lends {t t' : Task S} (h : HandsOver t t') : Lends p t.role p t'.role := by
  refine .keeps ?_ fun key r has => ⟨r, has, rfl⟩
  rw [Role.loans_of_not_acquires h.acquires.1, Role.loans_of_not_acquires h.acquires.2]

/-! ## One call among the others -/

section

variable {i : Nat} {call : Call S} (atWork : s.calls[i]? = some call)
include atWork

/-- A call that goes on leaves the loans of the others alone. -/
theorem State.exists_count_lending (home : PoolId) : ∃ others : SessionKey → Nat,
    (∀ key, (s.lending home).count key =
      (if call.home = home then call.task.role.loans else []).count key + others key) ∧
      ∀ (s' : State S) (task : Task S), s'.calls = s.calls.set i { call with task } →
        ∀ key, (s'.lending home).count key =
          (if call.home = home then task.role.loans else []).count key + others key := by
  obtain ⟨rest, before, after⟩ := State.exists_roles_set atWork home
  refine ⟨fun key => (rest.flatMap Role.loans).count key, fun key => ?_,
    fun s' task calls key => ?_⟩
  · rw [State.lending, (before.flatMap_right _).count_eq, List.flatMap_append,
      Call.flatMap_roleAt rfl, List.count_append]
  · rw [State.lending, State.roles, calls, ((after task).flatMap_right _).count_eq,
      List.flatMap_append, Call.flatMap_roleAt rfl, List.count_append]

theorem State.exists_length_ready (home : PoolId) : ∃ others : Nat,
    (s.ready home).length = (call.issue home).length + others ∧
      ∀ (s' : State S) (task : Task S), s'.calls = s.calls.set i { call with task } →
        (s'.ready home).length = (({ call with task } : Call S).issue home).length + others := by
  obtain ⟨rest, before, after⟩ := exists_perm_flatMap_set (Call.issue home) atWork
  refine ⟨rest.length,
    by rw [State.ready, before.length_eq, List.length_append], fun s' task calls => ?_⟩
  rw [State.ready, calls, (after _).length_eq, List.length_append]

end

/-! ## The invariant -/

/-- What was counted agrees with what was handed over and what is in hand. -/
structure Lendings (home : PoolId) (past : List (State S × Choice S)) (s : State S)
    (p : Pool S) : Prop where
  records : ∀ key r, p.Has key r →
    r.info.checkouts = .ofNat ((issued home past).count key + (s.lending home).count key)
  /-- A session that is about to be installed is lent for the first time. -/
  recruits : ∀ r, .recruit r ∈ s.roles home → r.info.checkouts = 1 ∧
    (issued home past).count r.info.key + (s.lending home).count r.info.key = 0
  known : ∀ key, 0 < (issued home past).count key + (s.lending home).count key →
    key ∈ (enrolled home past).map (·.1)
  total : p.tally.checkouts = .ofNat ((issued home past).length + (s.ready home).length)

/-- The key that is drawn next was never drawn before. -/
theorem Ledger.Enrolled.fresh {d : Ledger S} (h : d.Enrolled)
    (few : d.enrolled.length < UInt64.size) : d.pool.nextKey ∉ d.enrolled.map (·.1) := by
  intro mem
  obtain ⟨e, he, same⟩ := List.mem_map.1 mem
  obtain ⟨pos, le⟩ := h.drawn e he
  have counter := congrArg UInt64.toNat h.counter
  have size : UInt64.size = 2 ^ 64 := rfl
  rw [← same, UInt64.toNat_ofNat'] at counter
  -- the counter is ahead of all keys, or it has come round to zero
  by_cases last : d.enrolled.length + 1 = 2 ^ 64
  · rw [last, Nat.mod_self] at counter
    omega
  · rw [Nat.mod_eq_of_lt (by omega)] at counter
    omega

theorem mem_enrolled_cons {key : SessionKey} (h : key ∈ (enrolled home past).map (·.1)) :
    key ∈ (enrolled home ((s, c) :: past)).map (·.1) := by
  rw [enrolled_cons, List.map_append]
  exact List.mem_append_right _ h

namespace Lendings

/-- A choice that makes no loan, and hands none over. -/
theorem still (h : Lendings home past s p) (issues : s.issues home c = [])
    (lending : ∀ key, (s'.lending home).count key = (s.lending home).count key)
    (recruits : ∀ r, .recruit r ∈ s'.roles home → .recruit r ∈ s.roles home ∨
      r.info.checkouts = 1 ∧ r.info.key ∉ (enrolled home past).map (·.1))
    (records : ∀ key r, p'.Has key r → ∃ old, p.Has key old ∧ r.info.checkouts = old.info.checkouts)
    (counted : p'.tally.checkouts = .ofNat ((issued home past).length + (s'.ready home).length)) :
    Lendings home ((s, c) :: past) s' p' := by
  have same : issued home ((s, c) :: past) = issued home past := by
    rw [issued_cons, issues, List.nil_append]
  refine ⟨fun key r has => ?_, fun r mem => ?_, fun key pos => ?_, by rw [same]; exact counted⟩
  · obtain ⟨old, has₀, count⟩ := records key r has
    rw [same, lending, count]
    exact h.records key old has₀
  · rw [same, lending]
    rcases recruits r mem with was | ⟨one, new⟩
    · exact h.recruits r was
    · exact ⟨one, Nat.eq_zero_of_not_pos fun pos => new (h.known _ pos)⟩
  · rw [same, lending] at pos
    exact mem_enrolled_cons (h.known key pos)

/-- A choice that leaves the pool and the calls alone, or those at least that it shows to this
pool. -/
theorem rests (h : Lendings home past s p) (issues : s.issues home c = [])
    (roles : s'.roles home = s.roles home) (ready : s'.ready home = s.ready home) :
    Lendings home ((s, c) :: past) s' p :=
  h.still issues (fun key => by rw [State.lending, State.lending, roles])
    (fun r mem => .inl (roles ▸ mem)) (fun key r has => ⟨r, has, rfl⟩)
    (by rw [ready]; exact h.total)

/-- A call that begins has been lent nothing. -/
theorem begins (h : Lendings home past s p) {call : Call S} (issues : s.issues home c = [])
    (begun : Begins s c call) (calls : s'.calls = s.calls ++ [call]) :
    Lendings home ((s, c) :: past) s' p := by
  have roles : s'.roles home = s.roles home ++ call.roleAt home := by simp [State.roles, calls]
  refine h.still issues (fun key => ?_) (fun r mem => .inl (begun.mem_roles calls rfl mem))
    (fun key r has => ⟨r, has, rfl⟩) ?_
  · rw [State.lending, roles, List.flatMap_append, Call.flatMap_roleAt rfl,
      Role.loans_of_not_acquires begun.acquires, ite_self, List.append_nil]
    rfl
  · rw [h.total]
    simp [State.ready, calls, Call.issue, begun.loan?]

/-- What a call on another pool does. -/
theorem elsewhere (h : Lendings home past s p) {i : Nat} {call : Call S} {task : Task S}
    (atWork : s.calls[i]? = some call) (away : call.home ≠ home) (issues : s.issues home c = [])
    (calls : s'.calls = s.calls.set i { call with task }) :
    Lendings home ((s, c) :: past) s' p := by
  obtain ⟨others, before, after⟩ := State.exists_count_lending atWork home
  obtain ⟨rest, ready, ready'⟩ := State.exists_length_ready atWork home
  refine h.still issues (fun key => ?_) (fun r mem => ?_) (fun key r has => ⟨r, has, rfl⟩) ?_
  · rw [after s' task calls, before, if_neg away, if_neg away]
  · exact .inl ((State.mem_roles_set atWork calls mem).resolve_right fun here => away here.1)
  · rw [ready' s' task calls, Call.issue, if_neg away, h.total, ready, Call.issue, if_neg away]

/-- A session is lent. -/
theorem lends (h : Lendings home past s p) (run' : Run ((s, c) :: past) s')
    (built' : s'.pool? home = some p') (few : (enrolled home ((s, c) :: past)).length < UInt64.size)
    {loan : Record S} (lent : .loan loan ∈ s'.roles home)
    (issues : s.issues home c = [])
    (lending : ∀ key, (s'.lending home).count key = [loan.info.key].count key +
      (s.lending home).count key)
    (recruits : ∀ r, .recruit r ∈ s'.roles home → .recruit r ∈ s.roles home)
    (origin : .recruit loan ∈ s.roles home ∨
      ∃ old, p.Has loan.info.key old ∧ loan.info.checkouts = old.info.checkouts + 1)
    (records : ∀ key r, p'.Has key r → key = loan.info.key ∧ r = loan ∨
      key ≠ loan.info.key ∧ p.Has key r)
    (counted : p'.tally.checkouts = .ofNat ((issued home past).length + (s'.ready home).length)) :
    Lendings home ((s, c) :: past) s' p' := by
  obtain ⟨-, placed, owned⟩ := run'.custody built' few
  have active : p'.active.find? loan.info.key = some loan := owned.loans loan lent
  have same : issued home ((s, c) :: past) = issued home past := by
    rw [issued_cons, issues, List.nil_append]
  have own : (s'.lending home).count loan.info.key = (s.lending home).count loan.info.key + 1 := by
    rw [lending, List.count_cons_self, List.count_nil, Nat.add_comm]
  have other {key : SessionKey} (ne : key ≠ loan.info.key) :
      (s'.lending home).count key = (s.lending home).count key := by
    rw [lending, List.count_cons_of_ne (Ne.symm ne), List.count_nil, Nat.zero_add]
  refine ⟨fun key r has => ?_, fun r mem => ?_, fun key pos => ?_, by rw [same]; exact counted⟩
  · rw [same]
    rcases records key r has with ⟨rfl, rfl⟩ | ⟨ne, was⟩
    · rw [own, ← Nat.add_assoc, UInt64.ofNat_add]
      rcases origin with was | ⟨r₀, was, count⟩
      · obtain ⟨one, zero⟩ := h.recruits _ was
        rw [one, zero]
        rfl
      · rw [count, h.records _ _ was]
        rfl
    · rw [other ne]
      exact h.records key r was
  · -- the key of a session that is lent is not the key of one that is about to be installed
    have ne : r.info.key ≠ loan.info.key := by
      intro eq
      have apart : ((s'.roles home).flatMap Role.recruits).count r.info.key +
          p'.places r.info.key ≤ 1 :=
        placed.apart r.info.key
      have here : 0 < ((s'.roles home).flatMap Role.recruits).count r.info.key :=
        List.count_pos_iff.2 (List.mem_flatMap.2 ⟨_, mem, List.mem_singleton.2 rfl⟩)
      have there := Roster.count_keys_of_some active
      rw [Pool.places, eq, there] at apart
      rw [eq] at here
      omega
    rw [same, other ne]
    exact h.recruits r (recruits r mem)
  · by_cases eq : key = loan.info.key
    · have known := (placed.filed.active _ _ active).known
      exact eq ▸ List.mem_map.2 ⟨_, known, rfl⟩
    · rw [same, other eq] at pos
      exact mem_enrolled_cons (h.known key pos)

/-- A call on the pool goes on. -/
theorem goes {i : Nat} {call : Call S} {t' : Task S} (h : Lendings call.home past s p)
    (run : Run past s) (built : s.pool? call.home = some p) (run' : Run ((s, c) :: past) s')
    (built' : s'.pool? call.home = some p')
    (few : (enrolled call.home ((s, c) :: past)).length < UInt64.size)
    (atWork : s.calls[i]? = some call) (calls : s'.calls = s.calls.set i { call with task := t' })
    (issues : s.issues call.home c = []) (lends : Lends p call.task.role p' t'.role)
    (recruit : ∀ r, t'.role = .recruit r →
      call.task.role = .recruit r ∨ ∃ session now, r = .lent p.nextKey session now)
    (counted : p'.tally.checkouts =
      .ofNat ((issued call.home past).length + (s'.ready call.home).length)) :
    Lendings call.home ((s, c) :: past) s' p' := by
  obtain ⟨enrolled, -, -⟩ := run.custody built (few_of_cons few)
  obtain ⟨others, before, after⟩ := State.exists_count_lending atWork call.home
  have after := after s' t' calls
  rw [if_pos rfl] at before after
  have mine {r : Record S} (role : call.task.role = .recruit r) : .recruit r ∈ s.roles call.home :=
    (State.mem_roles_iff (by simp)).2 ⟨i, call, atWork, rfl, role⟩
  have recruits {r : Record S} (mem : .recruit r ∈ s'.roles call.home) :
      .recruit r ∈ s.roles call.home ∨ t'.role = .recruit r :=
    (State.mem_roles_set atWork calls mem).imp id And.right
  cases lends with
  | keeps loans records =>
    refine h.still issues (fun key => by rw [after, before, loans])
      (fun r mem => ?_) records counted
    rcases recruits mem with was | role
    · exact .inl was
    · rcases recruit r role with was | ⟨session, now, rfl⟩
      · exact .inl (mine was)
      · exact .inr ⟨rfl, enrolled.fresh (few_of_cons few)⟩
  | @lends loan free lent origin records =>
    have atWork' : s'.calls[i]? = some { call with task := t' } := by
      rw [calls, List.getElem?_set_self (List.getElem?_eq_some_iff.1 atWork).1]
    refine h.lends run' built' few
      ((State.mem_roles_iff (by simp)).2 ⟨i, _, atWork', rfl, lent⟩) issues (fun key => ?_)
      (fun r mem => ?_) (origin.imp mine id) records counted
    · rw [after, before, lent, free]
      simp [Role.loans]
    · exact (recruits mem).resolve_right fun role => by cases lent.symm.trans role

/-- What a call hands over at its end was in its hands before. -/
theorem finish {i : Nat} {call : Call S} (h : Lendings home past s p)
    (atWork : s.calls[i]? = some call) (ended : call.task.isEnded = true)
    (calls : s'.calls = s.calls.set i { call with task := .returned }) :
    Lendings home ((s, .finish i) :: past) s' p := by
  have same : issued home ((s, .finish i) :: past) = call.issue home ++ issued home past := by
    rw [issued_cons, State.issues, atWork, Option.toList_some, List.flatMap_singleton]
  have hers : (if call.home = home then call.task.role.loans else []) = call.issue home := by
    rw [← Call.flatMap_roleAt rfl, roleAt_of_isEnded ended, Call.issue]
    split
    · cases call.task.loan? <;> rfl
    · rfl
  obtain ⟨others, before, after⟩ := State.exists_count_lending atWork home
  have lent (key : SessionKey) :
      (issued home ((s, .finish i) :: past)).count key + (s'.lending home).count key =
        (issued home past).count key + (s.lending home).count key := by
    rw [same, List.count_append, before, hers, after s' .returned calls]
    simp [Task.role, Role.loans]
    omega
  obtain ⟨rest, ready, ready'⟩ := State.exists_length_ready atWork home
  refine ⟨fun key r has => ?_, fun r mem => ?_, fun key pos => ?_, ?_⟩
  · rw [lent]
    exact h.records key r has
  · rw [lent]
    refine h.recruits r ((State.mem_roles_set atWork calls mem).resolve_right fun here => ?_)
    cases here.2
  · rw [lent] at pos
    exact mem_enrolled_cons (h.known key pos)
  · have none : ({ call with task := .returned } : Call S).issue home = [] := ite_self _
    rw [h.total, same, ready, ready' s' .returned calls, none, List.length_append, List.length_nil]
    congr 1
    omega

/-- A step of a call on the pool. -/
theorem step {i : Nat} {connected : S → Bool} {contended : Bool} {call : Call S}
    {site : Site S} {q : Pool S} {t' : Task S} (h : Lendings call.home past s site.pool)
    (run : Run past s) (atWork : s.calls[i]? = some call)
    (found : s.sites[call.home]? = some site) (fresh : (Choice.step i connected contended).Fresh s)
    (act : s.act (.step i connected contended) = some (s.put i call site q t'))
    (few : (enrolled call.home ((s, .step i connected contended) :: past)).length < UInt64.size)
    (did : call.task.step (s.view call connected contended) site.pool = some (q, t')) :
    Lendings call.home ((s, .step i connected contended) :: past) (s.put i call site q t') q := by
  have built := State.pool?_of_site found
  have built' : (s.put i call site q t').pool? call.home = some q := by
    rw [State.pool?_put found, if_pos rfl]
  obtain ⟨rest, before, after⟩ := State.exists_length_ready atWork call.home
  have after := after (s.put i call site q t') t' rfl
  have issue (task : Task S) :
      (({ call with task } : Call S).issue call.home).length = task.loan?.toList.length := by
    simp [Call.issue]
  -- a request is counted as met in the step that makes its acquirer ready
  have counted : q.tally.checkouts =
      .ofNat ((issued call.home past).length +
        ((s.put i call site q t').ready call.home).length) := by
    have was := h.total
    rw [before, issue call.task] at was
    rw [after, issue t']
    obtain ⟨n, met, ready⟩ := Task.exists_met_of_step did
    rw [met, was, ready, ← UInt64.ofNat_add]
    congr 1
    omega
  rcases Task.moves_of_step did with ⟨-, moves⟩ | ⟨rfl, passes⟩
  · have lends := moves.lends (run.filed built) fun r role =>
      run.vacant_of_recruit atWork built (few_of_cons few) role
    refine h.goes run built (run.next fresh act) built' few atWork rfl rfl lends
      (fun r role => ?_) counted
    rw [role] at moves
    exact moves.recruit.imp id fun ⟨session, _, made⟩ => ⟨session, _, made⟩
  · refine h.goes run built (run.next fresh act) built' few atWork rfl rfl passes.lends
      (fun r role => ?_) counted
    have acquires := passes.acquires.2
    rw [role] at acquires
    cases acquires

/-- A call on the pool hears an answer. -/
theorem answer {i : Nat} {reply : Reply S} {call : Call S} {t' : Task S}
    (h : Lendings call.home past s p) (run : Run past s) (built : s.pool? call.home = some p)
    (atWork : s.calls[i]? = some call)
    (fresh : (Choice.answer i reply).Fresh s) (act : s.act (.answer i reply) = some s')
    (built' : s'.pool? call.home = some p)
    (calls : s'.calls = s.calls.set i { call with task := t' })
    (few : (enrolled call.home ((s, .answer i reply) :: past)).length < UInt64.size)
    (did : call.task.answer reply = some t') :
    Lendings call.home ((s, .answer i reply) :: past) s' p := by
  have moves := (Task.moves_of_answer (v := s.view call (fun _ => true) false) (p := p) did).2
  have lends := moves.lends (run.filed built) fun r role =>
    run.vacant_of_recruit atWork built (few_of_cons few) role
  obtain ⟨loan, loan'⟩ := Task.loan?_of_answer did
  obtain ⟨rest, before, after⟩ := State.exists_length_ready atWork call.home
  refine h.goes run built (run.next fresh act) built' few atWork calls rfl lends
    (fun r role => ?_) ?_
  · rw [role] at moves
    exact moves.recruit.imp id fun ⟨session, _, made⟩ => ⟨session, _, made⟩
  · rw [h.total, before, after s' t' calls, Call.issue, Call.issue, loan, loan']

theorem next (h : Lendings home past s p) (run : Run past s) (fresh : c.Fresh s)
    (act : s.act c = some s') (built : s.pool? home = some p) (built' : s'.pool? home = some p')
    (few : (enrolled home ((s, c) :: past)).length < UInt64.size) :
    Lendings home ((s, c) :: past) s' p' := by
  obtain ⟨q, hq, alters⟩ := alters_of_act act built
  cases hq.symm.trans built'
  have act' := act
  cases happens_of_act act with
  | pass d =>
    cases alters
    exact h.rests rfl rfl rfl
  | build =>
    cases alters
    exact h.begins rfl .work rfl
  | begin admitted =>
    cases alters
    exact h.begins rfl (begins_of_enter admitted) rfl
  | drop =>
    cases alters
    exact h.begins rfl .drop rfl
  | @adjust at_ change site found =>
    cases alters with
    | rests => exact h.rests rfl rfl rfl
    | adjusts =>
      have alike := @Adjustment.alike _ p change
      refine h.still rfl (fun _ => rfl) (fun r mem => .inl mem) (fun key r has => ⟨r, ?_, rfl⟩) ?_
      · rw [Pool.Has, alike.active, alike.idle] at has
        exact has
      · rw [(@Adjustment.books _ p change).1]
        exact h.total
  | @step i connected contended call site q t' atWork found did =>
    by_cases hh : call.home = home
    · subst hh
      cases built.symm.trans (State.pool?_of_site found)
      rw [State.pool?_put found, if_pos rfl] at built'
      cases built'
      exact h.step run atWork found fresh act few did
    · rw [State.pool?_put found, if_neg (Ne.symm hh), built] at built'
      cases built'
      exact h.elsewhere atWork hh rfl rfl
  | answer atWork found did =>
    cases alters
    rename_i i reply call site t'
    by_cases hh : call.home = home
    · subst hh
      exact h.answer run built atWork fresh act built' rfl few did
    · exact h.elsewhere atWork hh rfl rfl
  | finish atWork ended =>
    cases alters
    exact h.finish atWork ended rfl

end Lendings

/-- Nothing is handed over for a pool that is not there. -/
theorem Run.issued_unbuilt (run : Run past s) (h : s.pool? home = none) :
    issued home past = [] := by
  refine List.flatMap_eq_nil_iff.2 fun e he => ?_
  obtain ⟨before, -, -, -, run₀, -⟩ := run.of_mem he
  have old := run.pool?_eq_none h e he
  obtain ⟨s₀, c₀⟩ := e
  cases c₀ with
  | finish i =>
    refine List.flatMap_eq_nil_iff.2 fun call hc => if_neg (run₀.grounded.elsewhere old ?_)
    exact List.mem_of_getElem? (Option.mem_toList.1 hc)
  | _ => rfl

theorem Run.lendings (run : Run past s) (built : s.pool? home = some p)
    (few : (enrolled home past).length < UInt64.size) : Lendings home past s p := by
  refine run.pool_induction (motive := fun past s p => (enrolled home past).length < UInt64.size →
    Lendings home past s p) (fun {past s s' p c} run act old built few => ?_)
    (fun {past s s' p p' c} run fresh act built built' ih few =>
      (ih (few_of_cons few)).next run fresh act built built' few) built few
  obtain ⟨builder, made, rfl, -⟩ := exists_build act old built
  have new := run.new_ledger act old built
  obtain ⟨tally, -⟩ := books_of_build made
  have roles : s'.roles home = [] := new.roles
  have lending : s'.lending home = [] := by
    rw [State.lending, roles]
    rfl
  have issued : issued home ((s, .build builder) :: past) = [] := by
    rw [issued_cons, run.issued_unbuilt old]
    rfl
  -- nobody is at work on it yet but its worker, who hands nothing over
  have ready : s'.ready home = [] := by
    refine List.flatMap_eq_nil_iff.2 fun call hc => ?_
    cases happens_of_act act with
    | build =>
    rcases List.mem_append.1 hc with hc | hc
    · exact if_neg (run.grounded.elsewhere old hc)
    · rw [List.mem_singleton.1 hc]
      exact ite_self _
  refine ⟨fun key r has => ?_, fun r mem => ?_, fun key pos => ?_, ?_⟩
  · rw [Pool.Has, show p.active = .empty from new.active, show p.idle = .empty from new.idle] at has
    simp at has
  · rw [roles] at mem
    cases mem
  · rw [issued, lending] at pos
    simp at pos
  · rw [tally, issued, ready]
    rfl

/-! ## Counting checkouts -/

/-- What the counters of requests and of lendings say, at some moment of a run. -/
structure CheckoutCounts (home : PoolId) (past : List (State S × Choice S)) (s : State S)
    (p : Pool S) : Prop where
  /-- An acquirer has raised the counters of its pool by what its answer says, and not otherwise. -/
  answered : ∀ (i : Nat) (call : Call S) (outcome : Outcome Error (Option (Record S))),
    s.calls[i]? = some call → call.task = .acquire (.done outcome) →
    Answered (effects (moves i past)) outcome
  /-- A record counts the leases that were handed over for its session, and the loan that is in the
  hands of an acquirer, of which there is one at most. -/
  records : ∀ key r, p.Has key r →
    r.info.checkouts.toNat = (issued home past).count key + (s.lending home).count key
  once : ∀ key, (s.lending home).count key ≤ 1
  /-- When no call is in progress, the requests that were met are the leases that were handed over,
  key by key. -/
  met : (∀ call ∈ s.calls, call.home = home → call.task.rests = true) →
    p.tally.checkouts.toNat = ∑ key ∈ (issued home past).toFinset, (issued home past).count key

/-- Requests and lendings are counted right, in every run in which no counter goes round: fewer than
`2 ^ 64` keys of the pool were drawn, and fewer than `2 ^ 64` sessions were lent. -/
theorem checkout_counts (run : Run past s) (built : s.pool? home = some p)
    (few : (enrolled home past).length < UInt64.size)
    (fewLoans : (issued home past).length + (s.lending home).length < UInt64.size) :
    CheckoutCounts home past s p := by
  have lendings := run.lendings built few
  obtain ⟨-, -, owned⟩ := run.custody built few
  have size : UInt64.size = 2 ^ 64 := rfl
  refine ⟨fun i call outcome was task => run.answered was task, fun key r has => ?_,
    fun key => ?_, fun rest => ?_⟩
  · have issued := List.count_le_length (a := key) (l := issued home past)
    have lending := List.count_le_length (a := key) (l := s.lending home)
    rw [lendings.records key r has, UInt64.toNat_ofNat', Nat.mod_eq_of_lt (by omega)]
  · -- a loan is one of the stakes, of which each key has one at most
    have loans : (s.lending home).Sublist ((s.roles home).flatMap Role.stakes) := by
      refine List.Sublist.flatMap_right _ fun role _ => ?_
      cases role with
      | loan record => exact .refl _
      | _ => exact List.nil_sublist _
    have one := owned.most_one key
    rw [Ledger.stakes, List.count_append] at one
    have := loans.count_le key
    exact Nat.le_trans this (Nat.le_trans (Nat.le_add_left _ _) one)
  · have ready : s.ready home = [] := by
      refine List.flatMap_eq_nil_iff.2 fun call hc => ?_
      unfold Call.issue
      split
      · next here =>
        have rests := rest call hc here
        cases task : call.task with
        | acquire a =>
          rw [task] at rests
          cases rests
        | _ => rfl
      · rfl
    rw [lendings.total, ready, List.sum_toFinset_count_eq_length,
      UInt64.toNat_ofNat', List.length_nil, Nat.add_zero, Nat.mod_eq_of_lt (by omega)]

/-- A session is lent, given back and lent again; then no other can be made, then one can, and then
no more is allowed. -/
def recounting : List (Choice Nat) :=
  List.flatten [
    [.build { settings := { maxConnections := 2 }, source := some .server }], lending 1 10,
    [.begin (.dropLease 0)], steps 2 4, [.finish 2, .begin (.tryAcquire 0)], steps 3 6,
    [.finish 3, .begin (.tryAcquire 0)], steps 4 6,
    [.answer 4 (.created (.error { message := "refused" }))],
    steps 4 3, [.finish 4], lending 5 20, [.begin (.tryAcquire 0)], steps 6 5, [.finish 6]]

theorem checkout_counts_of_recounting :
    ∃ past s p, Run (S := Nat) past s ∧ s.pool? 0 = some p ∧
      (enrolled 0 past).length < UInt64.size ∧
      (issued 0 past).length + (s.lending 0).length < UInt64.size ∧ AtRest s ∧
      p.requests = (3, 1) ∧ issued 0 past = [⟨2⟩, ⟨1⟩, ⟨1⟩] ∧
      (p.active.entries.map fun e => (e.1, e.2.info.checkouts)) = [(⟨1⟩, 2), (⟨2⟩, 1)] ∧
      CheckoutCounts 0 past s p := by
  have h : ((play recounting).bind fun r =>
      if (enrolled 0 r.1).length < UInt64.size ∧
        (issued 0 r.1).length + (r.2.lending 0).length < UInt64.size ∧ AtRest r.2 ∧
        issued 0 r.1 = [⟨2⟩, ⟨1⟩, ⟨1⟩]
      then (r.2.pool? 0).map fun p =>
        (p.requests, p.active.entries.map fun e => (e.1, e.2.info.checkouts))
      else none) = some ((3, 1), [(⟨1⟩, 2), (⟨2⟩, 1)]) := by
    decide +kernel
  obtain ⟨⟨past, s⟩, played, h⟩ := Option.bind_eq_some_iff.1 h
  split at h
  · next holds =>
    obtain ⟨few, fewLoans, rest, issued⟩ := holds
    obtain ⟨p, built, h⟩ := Option.map_eq_some_iff.1 h
    obtain ⟨requests, records⟩ := Prod.mk.inj h
    have run := run_of_play played
    exact ⟨past, s, p, run, built, few, fewLoans, rest, requests, issued, records,
      checkout_counts run built few fewLoans⟩
  · cases h

end Interleaving

end ConnectionPool
