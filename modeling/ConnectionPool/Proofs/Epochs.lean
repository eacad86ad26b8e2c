import ConnectionPool.Proofs.Capacity
import ConnectionPool.Proofs.Custody

set_option autoImplicit false

/-! # No change goes unnoticed

An acquirer reads the epoch, reads the cap, has its request decided and waits, in four steps.
Whoever changes the pool in favour of those who wait raises the epoch, but in a later step of its
own. So there are times when an acquirer is about to fall asleep, or is asleep, next to a session
that it could have.

What is true at all times is said by `Watchful`: unless some call still has a notice to give, an
acquirer that has seen the present epoch has seen the present cap as well, and one that waits for a
newer epoch waits rightly. A notice makes all that was seen out of date, since the epoch shows how
many notices were given, as long as it has not gone round. -/

namespace ConnectionPool

/-- A pool that can lend nothing still cannot with the same idle sessions and no less load. -/
theorem Pool.Full.of_load_le {S : Type} {p p' : Pool S} {cap : UInt32} (h : p.Full cap)
    (idle : p'.idle = p.idle) (load : p.load ≤ p'.load) : p'.Full cap :=
  ⟨idle ▸ h.unavailable, Nat.le_trans h.reached load⟩

namespace Interleaving

variable {S : Type} {v : View S} {reply : Option (Reply S)} {p p' : Pool S} {x y : Role S}

/-! ## Epochs in one move -/

def Role.sight? : Role S → Option UInt64
  | dated epoch | poised epoch _ | waiting epoch => some epoch
  | _ => .none

/-- An acquirer that has seen an epoch has just read it, or had seen it before. -/
theorem Moves.sight (m : Moves v reply p x p' y) {epoch : UInt64} (h : y.sight? = some epoch) :
    x.sight? = some epoch ∨ epoch = p.epoch := by
  cases m with
  | pass alike => exact .inl h
  | readEpoch =>
    cases h
    exact .inr rfl
  | readCap | queue => exact .inl h
  | _ => cases h

/-- Two states of a pool with the same epoch and cap, both open or both closed. -/
structure Steady (p p' : Pool S) : Prop where
  epoch : p'.epoch = p.epoch
  cap : p'.settings.maxConnections = p.settings.maxConnections
  closed : p'.closed = p.closed

/-- The moves that matter to those who wait, apart from what they do to the rosters. -/
theorem Moves.steady (m : Moves v reply p x p' y) :
    Steady p p' ∨ p' = p.notify ∧ (x = .notice ∧ y = .none ∨ x = .closing ∧ y = .draining) ∨
      p' = p.close ∧ x = .none ∧ y = .closing ∨
      y = .notice ∧ ∃ count, p.setMaxConnections count = .ok p' := by
  cases m with
  | notify => exact .inr (.inl ⟨rfl, .inl ⟨rfl, rfl⟩⟩)
  | proclaim => exact .inr (.inl ⟨rfl, .inr ⟨rfl, rfl⟩⟩)
  | close => exact .inr (.inr (.inl ⟨rfl, rfl, rfl⟩))
  | resize set => exact .inr (.inr (.inr ⟨rfl, _, set⟩))
  | pass alike => exact .inl ⟨alike.epoch, alike.cap, alike.closed⟩
  | reuse lend =>
    obtain ⟨key, record, -, -, -, rfl⟩ := Pool.lend_eq_reuse lend
    exact .inl ⟨rfl, rfl, rfl⟩
  | reserve lend =>
    obtain ⟨-, rfl⟩ := Pool.lend_eq_reserve lend
    exact .inl ⟨rfl, rfl, rfl⟩
  | install isOpen =>
    simp only [Pool.install, isOpen, Pool.unreserve, Bool.false_eq_true, if_false]
    exact .inl ⟨rfl, rfl, isOpen.symm⟩
  | takeBack taken =>
    obtain ⟨record, idle, -, rfl, -⟩ := Pool.takeBack_eq_some taken
    exact .inl ⟨rfl, rfl, rfl⟩
  | letGo taken =>
    obtain ⟨record, -, rfl⟩ := Pool.letGo_eq_some taken
    exact .inl ⟨rfl, rfl, rfl⟩
  | _ => exact .inl ⟨rfl, rfl, rfl⟩

/-- A pool that was closed stays closed. -/
theorem Moves.closed (m : Moves v reply p x p' y) (h : p.closed = true) : p'.closed = true := by
  rcases m.steady with same | ⟨rfl, -⟩ | ⟨rfl, -⟩ | ⟨-, count, set⟩
  · exact same.closed.trans h
  · exact h
  · rfl
  · rw [Pool.setMaxConnections_eq_ok set]
    exact h

/-- A notice that is owed is given or still owed, unless a session breaks off. -/
theorem Moves.owes (m : Moves v reply p .notice p' y)
    (calm : ∀ text, reply ≠ some (.closed (.panic text))) :
    y = .notice ∧ p'.epoch = p.epoch ∨ y = .none ∧ p'.epoch = p.epoch + 1 := by
  cases m with
  | pass alike => exact .inl ⟨rfl, alike.epoch⟩
  | notify => exact .inr ⟨rfl, rfl⟩
  | breakOff hears => exact absurd hears (calm _)
  | retire shut => simp at shut

/-- A shutdown goes on with a role only if it had one, or has just closed the pool. -/
theorem Moves.shutting (m : Moves v reply p x p' y) (h : y = .closing ∨ y = .draining) :
    x = .closing ∨ x = .draining ∨ p' = p.close := by
  cases m with
  | pass alike => exact h.imp_right .inl
  | close => exact .inr (.inr rfl)
  | proclaim => exact .inl rfl
  | drain => exact .inr (.inl rfl)
  | _ => simp at h

/-- An acquirer that waits had its request decided, or waited before. -/
theorem Moves.waits {epoch : UInt64} (m : Moves v reply p x p' (.waiting epoch)) :
    x = .waiting epoch ∨ ∃ cap, x = .poised epoch cap ∧ p' = p ∧ p.Full cap := by
  cases m with
  | pass alike => exact .inl rfl
  | queue lend => exact .inr ⟨_, rfl, rfl, Pool.lend_eq_full_iff.1 lend⟩

/-- A pool that can lend nothing still cannot after a move, as long as it is not closed and no
notice is owed. A session that is installed takes the place of a slot, and not that of another
session. -/
theorem Moves.full {cap : UInt32} (m : Moves v reply p x p' y) (silent : y ≠ .notice)
    (held : x.slots ≤ p.reserved.toNat)
    (apart : ∀ loan, x = .recruit loan → p.active.keys.count loan.info.key = 0)
    (shut : x = .draining → p.closed = true) (isOpen : p'.closed = false) (full : p.Full cap) :
    p'.Full cap := by
  have slots := m.reserved held
  cases m with
  | pass alike => exact full.of_load_le alike.idle (Nat.le_of_eq alike.load.symm)
  | reuse lend =>
    -- no session was to be had
    obtain ⟨key, record, hfind, available, -, -⟩ := Pool.lend_eq_reuse lend
    rw [full.unavailable key record hfind] at available
    cases available
  | @reserve epoch cap p' lend =>
    -- another acquirer may still have read a greater cap; that makes the pool no less full
    obtain ⟨-, rfl⟩ := Pool.lend_eq_reserve lend
    have hadd : (p.reserved + 1).toNat = p.reserved.toNat + 1 := slots
    refine full.of_load_le rfl ?_
    simp only [Pool.load, Pool.total, hadd]
    omega
  | @install loan admits =>
    -- the key is new, so the session takes exactly the room of the slot
    have inserted := Roster.size_insert p.active loan.info.key loan
    rw [apart loan rfl] at inserted
    simp only [Pool.install, admits, Pool.unreserve, Role.slots, Role.hasSlot] at slots ⊢
    simp only [Bool.false_eq_true, if_false, if_true] at slots ⊢
    refine full.of_load_le rfl ?_
    simp only [Pool.load, Pool.total]
    omega
  | beginProbes =>
    refine ⟨?_, ?_⟩
    · intro key record hfind
      obtain ⟨old, hold, rfl | ⟨-, rfl⟩⟩ := Pool.find?_beginProbes hfind
      · exact full.unavailable key _ hold
      · rfl
    · simpa [Pool.total, Pool.beginProbes] using full.reached
  | drain => cases (shut rfl).symm.trans isOpen
  | takeBack | letGo | refuse | unreserve | endProbes | resize => exact absurd rfl silent
  | _ => exact ⟨full.unavailable, full.reached⟩

/-! ## The invariant -/

namespace Ledger

/-- Nobody waits in vain. -/
structure Watchful (d : Ledger S) : Prop where
  /-- The epoch shows how many notices were given. -/
  epoch : d.pool.epoch = .ofNat d.notices
  /-- An epoch that was seen is not ahead of the present one. -/
  past : ∀ r ∈ d.roles, ∀ epoch ∈ r.sight?, epoch.toNat ≤ d.notices
  /-- The pool of a shutdown that is under way is closed. -/
  shut : .closing ∈ d.roles ∨ .draining ∈ d.roles → d.pool.closed = true
  /-- Whoever has seen the present epoch has read the present cap, -/
  poised : d.pool.closed = false → .notice ∉ d.roles → ∀ cap,
    .poised d.pool.epoch cap ∈ d.roles → cap = d.pool.settings.maxConnections
  /-- and waits only if the pool can lend nothing. -/
  waits : d.pool.closed = false → .notice ∉ d.roles →
    .waiting d.pool.epoch ∈ d.roles → d.pool.Full d.pool.settings.maxConnections

theorem Watchful.new {d : Ledger S} (h : d.New) : d.Watchful where
  epoch := by simp [h.epoch, h.notices]
  past := by simp [h.roles]
  shut := by simp [h.roles]
  poised := by simp [h.roles]
  waits := by simp [h.roles]

theorem Next.notices_le {d d' : Ledger S} (step : d.Next d') : d.notices ≤ d'.notices := by
  rw [step.notices]
  exact Nat.le_add_right _ _

theorem toNat_epoch {d : Ledger S} (h : d.pool.epoch = .ofNat d.notices)
    (few : d.notices < UInt64.size) : d.pool.epoch.toNat = d.notices := by
  rw [h]
  exact UInt64.toNat_ofNat_of_lt' few

theorem succ_epoch_ne (epoch : UInt64) : epoch + 1 ≠ epoch := by
  intro h
  have h := congrArg UInt64.toNat h
  rw [UInt64.toNat_add, UInt64.toNat_one] at h
  have := epoch.toNat_lt
  omega

theorem Change.epoch {d d' : Ledger S} (h : d.Change d') :
    d'.pool.epoch = d.pool.epoch ∨ d'.pool.epoch = d.pool.epoch + 1 := by
  cases h with
  | quiet alike roles held enrolled => exact .inl alike.epoch
  | claim pool held roles enrolled | issue pool roles held enrolled => exact .inl (by rw [pool])
  | move moves before after held seen enrolled fresh calm =>
    rcases moves.steady with same | ⟨told, -⟩ | ⟨shut, -⟩ | ⟨-, count, set⟩
    · exact .inl same.epoch
    · exact .inr (congrArg Pool.epoch told)
    · exact .inl (by rw [shut, Pool.close])
    · exact .inl (by rw [Pool.setMaxConnections_eq_ok set])

theorem Next.epoch {d d' : Ledger S} (step : d.Next d') (h : d.pool.epoch = .ofNat d.notices) :
    d'.pool.epoch = .ofNat d'.notices := by
  rw [step.notices]
  rcases step.change.epoch with same | raised
  · rw [if_pos same, same, h, Nat.add_zero]
  · rw [if_neg (raised ▸ succ_epoch_ne _), raised, h]
    simp [UInt64.ofNat_add]

/-- What does not concern those who wait leaves them watchful. -/
theorem Watchful.of_alike {d d' : Ledger S} (h : d.Watchful) (step : d.Next d')
    (alike : Alike d.pool d'.pool) (roles : ∀ r ∈ d'.roles, r ∈ d.roles ∨ ∃ key, r = .claim key)
    (owed : .notice ∈ d.roles → .notice ∈ d'.roles) : d'.Watchful := by
  have old {r : Role S} (hr : r ∈ d'.roles) (hne : ∀ key, r ≠ .claim key) : r ∈ d.roles :=
    (roles r hr).resolve_right (not_exists.2 hne)
  refine ⟨step.epoch h.epoch, fun r hr epoch seen => ?_, fun hr => ?_,
    fun isOpen silent cap hr => ?_, fun isOpen silent hr => ?_⟩
  · refine Nat.le_trans (h.past r (old hr ?_) epoch seen) step.notices_le
    intro key heq
    subst heq
    cases seen
  · exact alike.closed.trans (h.shut (hr.imp (old · (by simp)) (old · (by simp))))
  · rw [alike.epoch] at hr
    rw [alike.cap]
    exact h.poised (alike.closed.symm.trans isOpen) (fun hn => silent (owed hn)) cap
      (old hr (by simp))
  · rw [alike.epoch] at hr
    rw [alike.cap]
    refine (h.waits (alike.closed.symm.trans isOpen) (fun hn => silent (owed hn))
      (old hr (by simp))).of_load_le alike.idle (Nat.le_of_eq alike.load.symm)

/-- What was seen before a notice is out of date after it. -/
theorem Watchful.of_told {d d' : Ledger S} (step : d.Next d') (few : d'.notices < UInt64.size)
    (epoch : d.pool.epoch = .ofNat d.notices) (told : d'.pool.epoch = d.pool.epoch + 1)
    (past : ∀ r ∈ d'.roles, ∀ epoch ∈ r.sight?, epoch.toNat ≤ d.notices)
    (shut : .closing ∈ d'.roles ∨ .draining ∈ d'.roles → d'.pool.closed = true) : d'.Watchful := by
  have more : d'.notices = d.notices + 1 := by
    rw [step.notices, if_neg (told ▸ succ_epoch_ne _)]
  have now : d'.pool.epoch.toNat = d.notices + 1 := more ▸ toNat_epoch (step.epoch epoch) few
  have stale {r : Role S} (hr : r ∈ d'.roles) (seen : r.sight? = some d'.pool.epoch) : False := by
    have := past r hr _ seen
    omega
  exact
    { epoch := step.epoch epoch
      past := fun r hr epoch seen => Nat.le_trans (past r hr epoch seen) step.notices_le
      shut
      poised := fun _ _ cap hr => (stale hr rfl).elim
      waits := fun _ _ hr => (stale hr rfl).elim }

/-! What follows is about a pool on which one call moves, and the others play the roles `rest`. -/

section Moving

variable {d d' : Ledger S} {rest : List (Role S)} (moves : Moves v reply d.pool x d'.pool y)
  (before : d.roles.Perm (x.toList ++ rest)) (after : d'.roles.Perm (y.toList ++ rest))

theorem mem_of_moving (before : d.roles.Perm (x.toList ++ rest)) (hne : x ≠ .none) : x ∈ d.roles :=
  before.mem_iff.2 (List.mem_append_left _ (Role.mem_toList hne))

theorem eq_or_mem_of_moved (after : d'.roles.Perm (y.toList ++ rest)) {r : Role S}
    (hr : r ∈ d'.roles) : r = y ∨ r ∈ rest :=
  (List.mem_append.1 (after.mem_iff.1 hr)).imp_left Role.eq_of_mem_toList

include moves before after

theorem Watchful.past_of_moves (h : d.Watchful) (few : d.notices < UInt64.size) :
    ∀ r ∈ d'.roles, ∀ epoch ∈ r.sight?, epoch.toNat ≤ d.notices := by
  intro r hr epoch saw
  rcases eq_or_mem_of_moved after hr with rfl | hr
  · rcases moves.sight saw with old | rfl
    · refine h.past x (mem_of_moving before ?_) epoch old
      intro hnone
      subst hnone
      cases old
    · exact Nat.le_of_eq (toNat_epoch h.epoch few)
  · exact h.past r (before.mem_iff.2 (List.mem_append_right _ hr)) epoch saw

theorem Watchful.shut_of_moves (h : d.Watchful) :
    .closing ∈ d'.roles ∨ .draining ∈ d'.roles → d'.pool.closed = true := by
  have old (hr : .closing ∈ d.roles ∨ .draining ∈ d.roles) := moves.closed (h.shut hr)
  have own (hy : y = .closing ∨ y = .draining) : d'.pool.closed = true := by
    rcases moves.shutting hy with rfl | rfl | shut
    · exact old (.inl (mem_of_moving before (by simp)))
    · exact old (.inr (mem_of_moving before (by simp)))
    · rw [shut, Pool.close]
  rintro (hr | hr)
  · rcases eq_or_mem_of_moved after hr with hy | hr
    · exact own (.inl hy.symm)
    · exact old (.inl (before.mem_iff.2 (List.mem_append_right _ hr)))
  · rcases eq_or_mem_of_moved after hr with hy | hr
    · exact own (.inr hy.symm)
    · exact old (.inr (before.mem_iff.2 (List.mem_append_right _ hr)))

/-- While the epoch stays, an acquirer that was watchful remains so, unless a notice is owed. -/
theorem Watchful.of_steady (step : d.Next d') (h : d.Watchful) (counted : d.Counted)
    (placed : d.Placed) (calm : ∀ text, reply ≠ some (.closed (.panic text)))
    (same : Steady d.pool d'.pool)
    (few : d.notices < UInt64.size) : d'.Watchful := by
  have hrest {r : Role S} (hr : r ∈ rest) : r ∈ d.roles :=
    before.mem_iff.2 (List.mem_append_right _ hr)
  -- a notice that was owed before is still owed
  have owed (silent : .notice ∉ d'.roles) : .notice ∉ d.roles := by
    intro hr
    rcases List.mem_append.1 (before.mem_iff.1 hr) with hx | hr
    · obtain rfl := Role.eq_of_mem_toList hx
      rcases moves.owes calm with ⟨rfl, -⟩ | ⟨-, told⟩
      · exact silent (mem_of_moving after (by simp))
      · exact succ_epoch_ne _ (told.symm.trans same.epoch)
    · exact silent (after.mem_iff.2 (List.mem_append_right _ hr))
  refine
    { epoch := step.epoch h.epoch
      past := fun r hr epoch saw =>
        Nat.le_trans (h.past_of_moves moves before after few r hr epoch saw) step.notices_le
      shut := h.shut_of_moves moves before after
      poised := fun isOpen silent cap hr => ?_
      waits := fun isOpen silent hr => ?_ }
  · rw [same.epoch] at hr
    rw [same.cap]
    have wasOpen := same.closed.symm.trans isOpen
    rcases eq_or_mem_of_moved after hr with rfl | hr
    · rcases moves.poised with rfl | current
      · exact h.poised wasOpen (owed silent) cap (mem_of_moving before (by simp))
      · exact current
    · exact h.poised wasOpen (owed silent) cap (hrest hr)
  · rw [same.epoch] at hr
    rw [same.cap]
    have wasOpen := same.closed.symm.trans isOpen
    -- whatever makes room leaves a notice behind
    have still (full : d.pool.Full d.pool.settings.maxConnections) :
        d'.pool.Full d.pool.settings.maxConnections := by
      refine moves.full ?_ ?_ ?_ ?_ isOpen full
      · intro hy
        subst hy
        exact silent (mem_of_moving after (by simp))
      · rw [counted.slots, before.countP_eq, List.countP_append, countP_toList]
        exact Nat.le_add_right _ _
      · intro loan hx
        have apart := placed.apart loan.info.key
        rw [recruits, (Role.perm_flatMap rfl before).count_eq, List.count_append, hx] at apart
        simp only [Role.recruits, List.count_cons_self, Pool.places] at apart
        omega
      · intro hx
        subst hx
        exact h.shut (.inr (mem_of_moving before (by simp)))
    rcases eq_or_mem_of_moved after hr with rfl | hr
    · rcases moves.waits with rfl | ⟨cap, rfl, unchanged, full⟩
      · exact still (h.waits wasOpen (owed silent) (mem_of_moving before (by simp)))
      · have current := h.poised wasOpen (owed silent) cap (mem_of_moving before (by simp))
        rw [unchanged, ← current]
        exact full
    · exact still (h.waits wasOpen (owed silent) (hrest hr))

theorem Watchful.of_moves (step : d.Next d') (h : d.Watchful) (counted : d.Counted)
    (placed : d.Placed) (calm : ∀ text, reply ≠ some (.closed (.panic text)))
    (few : d'.notices < UInt64.size) : d'.Watchful := by
  have few₀ := Nat.lt_of_le_of_lt step.notices_le few
  have past := h.past_of_moves moves before after few₀
  have shut := h.shut_of_moves moves before after
  rcases moves.steady with same | ⟨told, -⟩ | ⟨closed, -⟩ | ⟨rfl, -⟩
  · exact h.of_steady moves before after step counted placed calm same few₀
  · exact .of_told step few h.epoch (congrArg Pool.epoch told) past shut
  · -- a closed pool promises nothing
    have closed : d'.pool.closed = true := by rw [closed, Pool.close]
    exact
      { epoch := step.epoch h.epoch
        past := fun r hr epoch saw => Nat.le_trans (past r hr epoch saw) step.notices_le
        shut
        poised := fun isOpen => absurd (closed.symm.trans isOpen) (by simp)
        waits := fun isOpen => absurd (closed.symm.trans isOpen) (by simp) }
  · have owed : .notice ∈ d'.roles := mem_of_moving after (by simp)
    exact
      { epoch := step.epoch h.epoch
        past := fun r hr epoch saw => Nat.le_trans (past r hr epoch saw) step.notices_le
        shut
        poised := fun _ silent => absurd owed silent
        waits := fun _ silent => absurd owed silent }

end Moving

theorem Watchful.next {d d' : Ledger S} (step : d.Next d') (calm : d'.calm)
    (few : d'.notices < UInt64.size) (counted : d.Counted) (placed : d.Placed) (h : d.Watchful) :
    d'.Watchful := by
  cases step.change with
  | quiet alike roles held enrolled =>
    exact h.of_alike step alike (fun r hr => .inl (roles.mem_iff.1 hr)) roles.mem_iff.2
  | @claim record pool held roles enrolled =>
    refine h.of_alike step (pool ▸ .rfl) ?_ ?_
    · intro r hr
      exact (List.mem_cons.1 (roles.mem_iff.1 hr)).symm.imp_right fun heq => ⟨_, heq⟩
    · intro hr
      exact roles.mem_iff.2 (List.mem_cons_of_mem _ hr)
  | issue pool roles held enrolled =>
    refine h.of_alike step (pool ▸ .rfl) ?_ ?_
    · intro r hr
      exact .inl (roles.mem_iff.2 (List.mem_cons_of_mem _ hr))
    · intro hr
      simpa using roles.mem_iff.1 hr
  | move moves before after held seen enrolled fresh calmly =>
    exact h.of_moves moves before after step counted placed (calmly calm) few

end Ledger

/-! ## In every run -/

variable {past : List (State S × Choice S)} {s : State S} {home : PoolId}

theorem Run.epoch (run : Run past s) (built : s.pool? home = some p) :
    p.epoch = .ofNat (notices home past) :=
  run.ledger_induction (motive := fun d => d.pool.epoch = .ofNat d.notices)
    (fun _ new => by simp [new.epoch, new.notices]) (fun _ _ step => step.epoch) built

/-- If the epoch is what it was before, no notice was given since. -/
theorem Run.silent {since : List (State S × Choice S)} {s₀ : State S} {p₀ : Pool S}
    (run : Run (since ++ past) s) (run₀ : Run past s₀) (built : s.pool? home = some p)
    (built₀ : s₀.pool? home = some p₀) (same : p.epoch = p₀.epoch)
    (few : notices home (since ++ past) < UInt64.size) : notices home since = 0 := by
  have split : notices home (since ++ past) = notices home since + notices home past :=
    List.countP_append
  have few₀ : notices home past < UInt64.size := by omega
  have numbers := congrArg UInt64.toNat same
  rw [run.epoch built, run₀.epoch built₀, UInt64.toNat_ofNat_of_lt' few,
    UInt64.toNat_ofNat_of_lt' few₀] at numbers
  omega

/-- As long as no session breaks off while it is closed, and neither the epoch nor the counter of
keys has gone round, nobody waits in vain. -/
theorem Run.watchful (run : Run past s) (built : s.pool? home = some p) (calm : Calm past)
    (few : notices home past < UInt64.size) (fewer : (enrolled home past).length < UInt64.size) :
    (ledger home past s p).Watchful := by
  let Inv (d : Ledger S) : Prop := d.Counted ∧ (d.calm → d.notices < UInt64.size →
    d.enrolled.length < UInt64.size → d.Enrolled ∧ d.Placed ∧ d.Watchful)
  have inv : Inv (ledger home past s p) := by
    refine run.ledger_induction
      (fun d new => ⟨.new new, fun _ _ _ => ⟨.new new, .new new, .new new⟩⟩)
      (fun d d' step ⟨hCounted, ih⟩ => ⟨hCounted.next step, fun calm few fewer => ?_⟩) built
    obtain ⟨hEnrolled, hPlaced, hWatchful⟩ := ih (step.calm calm)
      (Nat.lt_of_le_of_lt step.notices_le few) (Nat.lt_of_le_of_lt step.change.enrolled_le fewer)
    have hEnrolled' := hEnrolled.next step fewer
    exact ⟨hEnrolled', hPlaced.next step hEnrolled', hWatchful.next step calm few hCounted hPlaced⟩
  exact (inv.2 calm few fewer).2.2

end Interleaving

end ConnectionPool
