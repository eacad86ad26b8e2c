import ConnectionPool.Lease
import ConnectionPool.Operation.Acquire
import ConnectionPool.Operation.Resize
import ConnectionPool.Solo
import ConnectionPool.Proofs.Sections

set_option autoImplicit false

/-! # What an operation does alone

With nobody else at work an operation runs through in a few moves (`Solo.Goes`), and what it comes
to depends on the pool and the server alone: one lemma for each operation says what it leaves
behind, and how it ends. When it ends is of no account here, so the clock is left open. -/

namespace ConnectionPool

namespace Solo

/-! ## Moves -/

section

variable {τ ε α : Type} [Stepwise Serial τ ε α] {n m fuel : Nat} {s s₁ s' : Solo} {t t₁ t' : τ}

/-- So many moves lead an operation from one phase to another. -/
inductive Goes : Nat → Solo → τ → Solo → τ → Prop
  | stays {s : Solo} {t : τ} : Goes 0 s t s t
  | moves {n : Nat} {s s₁ s' : Solo} {t t₁ t' : τ} (first : s.move t = some (s₁, t₁))
      (rest : Goes n s₁ t₁ s' t') : Goes (n + 1) s t s' t'

theorem Goes.trans (goes : Goes n s t s₁ t₁) (rest : Goes m s₁ t₁ s' t') :
    Goes (n + m) s t s' t' := by
  induction goes with
  | stays => rwa [Nat.zero_add]
  | moves first _ ih =>
    rw [Nat.add_right_comm]
    exact .moves first (ih rest)

/-- An operation that reaches its end within the moves it has runs to that end. -/
theorem run_of_goes {outcome : Outcome ε α} (goes : Goes n s t s' t')
    (ended : Stepwise.status (S := Serial) t' = .ended outcome) (enough : n ≤ fuel) :
    s.run fuel t = (s', some outcome) := by
  induction goes generalizing fuel with
  | stays => cases fuel <;> simp [run, ended]
  | @moves n s s₁ s' t t₁ t' first _ ih =>
    cases fuel with
    | zero => cases enough
    | succ fuel =>
      have going (outcome : Outcome ε α) : Stepwise.status (S := Serial) t ≠ .ended outcome := by
        intro h
        simp [move, h] at first
      rw [run]
      split
      · next h => exact (going _ h).elim
      · rw [first]
        exact ih ended (Nat.le_of_succ_le_succ enough)

theorem move_of_step {p' : Pool Serial} (running : Stepwise.status (S := Serial) t = .running)
    (did : Stepwise.step s.view s.pool t = some (p', t')) :
    s.move t = some (({ s with pool := p' } : Solo).tick, t') := by
  simp [move, running, did]

theorem move_of_creating {next : Outcome Cause Serial → τ}
    (creating : Stepwise.status (S := Serial) t = .creating .server next) :
    s.move t = some (({ s with server := s.server.create.1 } : Solo).tick,
      next (ServerError.outcome s.server.create.2)) := by
  simp [move, creating, ask]

theorem move_of_opening {session : Serial} {next : Outcome Cause Unit → τ}
    (opening : Stepwise.status (S := Serial) t = .opening session next) :
    s.move t = some (({ s with server := s.server.modify session .connect } : Solo).tick,
      next (.value ())) := by
  simp [move, opening]

theorem move_of_closing {session : Serial} {next : Outcome Empty Unit → τ}
    (closing : Stepwise.status (S := Serial) t = .closing session next) :
    s.move t = some (({ s with server := s.server.modify session .disconnect } : Solo).tick,
      next (.value ())) := by
  simp [move, closing]

/-- A server forgets no session. -/
theorem length_sessions_of_move (h : s.move t = some (s', t')) :
    s.server.sessions.length ≤ s'.server.sessions.length := by
  have create : s.server.sessions.length ≤ s.server.create.1.sessions.length := by
    unfold Server.create
    split
    · simp
    · exact Nat.le_refl _
  unfold move at h
  split at h
  · cases h
  · split at h
    · cases h
      exact Nat.le_refl _
    · obtain ⟨at_, -, same⟩ := Option.map_eq_some_iff.1 h
      cases same
      exact Nat.le_refl _
  · next source next _ =>
    cases h
    cases source with
    | server => exact create
    | refusing text => exact Nat.le_refl _
  · cases h
    simp [tick, Server.modify]
  · cases h
    simp [tick, Server.modify]
  · cases h
    simp [tick, Server.modify]

theorem length_sessions_of_run (fuel : Nat) (s : Solo) (t : τ) :
    s.server.sessions.length ≤ (s.run fuel t).1.server.sessions.length := by
  induction fuel generalizing s t with
  | zero =>
    rw [run]
    split <;> exact Nat.le_refl _
  | succ fuel ih =>
    rw [run]
    split
    · exact Nat.le_refl _
    · split
      · next h => exact Nat.le_trans (length_sessions_of_move h) (ih _ _)
      · exact Nat.le_refl _

end

variable {s : Solo} {fuel : Nat}

/-! ## Acquiring -/

/-- What becomes of a request for a session that does not wait: the pool and its server afterwards,
and the answer. -/
inductive Acquired (s : Solo) : Solo → Outcome Error (Option (Record Serial)) → Prop
  | reused {p' : Pool Serial} {loan : Record Serial} {now now' : Instant}
      (lends : s.pool.lend s.pool.settings.maxConnections now = (p', .reuse loan)) :
      Acquired s
        { s with
          pool := p'.count fun t => { t with checkouts := t.checkouts + 1 }
          now := now' } (.value (some loan))
  | full {now' : Instant} (full : s.pool.Full s.pool.settings.maxConnections) :
      Acquired s { s with now := now' } (.value none)
  | refused {now' : Instant} (room : ¬ s.pool.Full s.pool.settings.maxConnections)
      (refuses : s.server.refusals ≠ 0) : Acquired s
        { pool := { s.pool with
            epoch := s.pool.epoch + 1
            tally := { s.pool.tally with checkoutFailures := s.pool.tally.checkoutFailures + 1 } }
          server := s.server.create.1
          now := now' }
        (.error (.creationFailed ServerError.refused.cause))
  | made {now now' : Instant} (room : ¬ s.pool.Full s.pool.settings.maxConnections)
      (accepts : s.server.refusals = 0) :
      Acquired s
        { pool := { s.pool with
            active := s.pool.active.insert s.pool.nextKey
              (.lent s.pool.nextKey (s.server.created + 1) now)
            nextKey := ⟨s.pool.nextKey.number + 1⟩
            tally := { s.pool.tally with
              created := s.pool.tally.created + 1, checkouts := s.pool.tally.checkouts + 1 } }
          server := s.server.create.1.modify (s.server.created + 1) .connect
          now := now' }
        (.value (some (.lent s.pool.nextKey (s.server.created + 1) now)))

/-- An acquirer at an open pool comes to have its request decided. -/
theorem goes_choose (isOpen : s.pool.closed = false) (limit : Option Duration) :
    ∃ now, Goes 4 s (Acquire.start limit) { s with now }
      (.choose (limit.map fun d => ⟨d, s.now.after? d⟩) s.pool.epoch
        s.pool.settings.maxConnections) := by
  have opened (patience : Option Patience) :
      s.tick.move (.checkOpen patience) = some (s.tick.tick, Acquire.readEpoch patience) :=
    move_of_step rfl (by simp [Stepwise.step, Acquire.step, tick, isOpen])
  exact ⟨_, .moves (move_of_step rfl rfl) (.moves (opened _)
    (.moves (move_of_step rfl rfl) (.moves (move_of_step rfl rfl) .stays)))⟩

/-- An acquirer that was refused a session gives its slot back. -/
theorem goes_failed (reason : Error) : ∃ now, Goes 3 s (Acquire.countFailure reason true)
    { s with
      pool := { s.pool with
        reserved := s.pool.reserved - 1
        epoch := s.pool.epoch + 1
        tally := { s.pool.tally with checkoutFailures := s.pool.tally.checkoutFailures + 1 } }
      now } (.done (.error reason)) :=
  ⟨_, .moves (move_of_step rfl rfl)
    (.moves (move_of_step rfl rfl) (.moves (move_of_step rfl rfl) .stays))⟩

/-- The server is asked for a session, and refuses. -/
theorem goes_refused (sourced : s.pool.source = some .server) (refuses : s.server.refusals ≠ 0) :
    ∃ now, Goes 5 s Acquire.readSource
      { pool := { s.pool with
          reserved := s.pool.reserved - 1
          epoch := s.pool.epoch + 1
          tally := { s.pool.tally with checkoutFailures := s.pool.tally.checkoutFailures + 1 } }
        server := s.server.create.1
        now } (.done (.error (.creationFailed ServerError.refused.cause))) := by
  have looked : s.move Acquire.readSource = some (s.tick, .create .server) :=
    move_of_step rfl (by simp [Stepwise.step, Acquire.step, sourced])
  have heard : s.tick.move (Acquire.create .server) = some
      (({ s.tick with server := s.server.create.1 } : Solo).tick,
        .countFailure (.creationFailed ServerError.refused.cause) true) := by
    rw [move_of_creating rfl]
    simp [tick, Server.create, refuses, ServerError.outcome, Outcome.ofExcept]
  obtain ⟨now, failed⟩ :=
    goes_failed (s := ({ s.tick with server := s.server.create.1 } : Solo).tick)
      (.creationFailed ServerError.refused.cause)
  exact ⟨now, .moves looked (.moves heard failed)⟩

/-- An open pool takes a new session in. -/
theorem move_install (isOpen : s.pool.closed = false) (loan : Record Serial) :
    s.move (Acquire.install loan) = some
      (({ s with pool := { s.pool.unreserve with
            active := s.pool.active.insert loan.info.key loan } } : Solo).tick,
        .countNew loan) :=
  move_of_step rfl (by simp [Stepwise.step, Acquire.step, Pool.install, isOpen])

/-- The server is asked for a session, and makes one that nobody has opened yet. -/
theorem goes_made (isOpen : s.pool.closed = false) (sourced : s.pool.source = some .server)
    (accepts : s.server.refusals = 0)
    (fresh : ∀ x ∈ s.server.sessions, x.serial ≠ s.server.created + 1) :
    ∃ now now', Goes 7 s Acquire.readSource
      { pool := { s.pool with
          reserved := s.pool.reserved - 1
          active := s.pool.active.insert s.pool.nextKey
            (.lent s.pool.nextKey (s.server.created + 1) now)
          nextKey := ⟨s.pool.nextKey.number + 1⟩
          tally := { s.pool.tally with
            created := s.pool.tally.created + 1, checkouts := s.pool.tally.checkouts + 1 } }
        server := s.server.create.1.modify (s.server.created + 1) .connect
        now := now' }
      (.done (.value (some (.lent s.pool.nextKey (s.server.created + 1) now)))) := by
  have looked : s.move Acquire.readSource = some (s.tick, .create .server) :=
    move_of_step rfl (by simp [Stepwise.step, Acquire.step, sourced])
  have heard : s.tick.move (Acquire.create .server) = some
      (({ s.tick with server := s.server.create.1 } : Solo).tick,
        .inspect (s.server.created + 1)) := by
    rw [move_of_creating rfl]
    simp [tick, Server.create, accepts, ServerError.outcome, Outcome.ofExcept]
  have unopened : s.server.create.1.connected (s.server.created + 1) = false := by
    have none : s.server.sessions.find? (fun x => x.serial == s.server.created + 1) = none := by
      simpa using fresh
    simp [Server.connected, Server.find?, Server.create, accepts, none]
  have inspected (now : Instant) :
      Solo.move ⟨s.pool, s.server.create.1, now⟩ (Acquire.inspect (s.server.created + 1)) =
        some ((⟨s.pool, s.server.create.1, now⟩ : Solo).tick, .openNew (s.server.created + 1)) :=
    move_of_step rfl (by simp [Stepwise.step, Acquire.step, view, unopened])
  exact ⟨_, _, .moves looked (.moves heard (.moves (inspected _) (.moves (move_of_opening rfl)
    (.moves (move_of_step rfl rfl)
      (.moves (move_install (by exact isOpen) _) (.moves (move_of_step rfl rfl) .stays))))))⟩

/-- A request to an open pool that does not wait comes to its end, in one of four ways. -/
theorem run_impatient (isOpen : s.pool.closed = false) (sourced : s.pool.source = some .server)
    (fresh : ∀ x ∈ s.server.sessions, x.serial ≠ s.server.created + 1) (enough : 12 ≤ fuel) :
    ∃ s' outcome, s.run fuel (Acquire.impatient (S := Serial)) = (s', some outcome) ∧
      Acquired s s' outcome := by
  obtain ⟨now, chosen⟩ := goes_choose isOpen none
  have decided : ({ s with now } : Solo).move
      (.choose none s.pool.epoch s.pool.settings.maxConnections) =
      some
        (({ s with pool := (s.pool.lend s.pool.settings.maxConnections now).1, now } : Solo).tick,
          Acquire.follow none s.pool.epoch
            (s.pool.lend s.pool.settings.maxConnections now).2) :=
    move_of_step rfl rfl
  have upToThere := chosen.trans (.moves decided .stays)
  rcases lends : s.pool.lend s.pool.settings.maxConnections now with ⟨p', decision⟩
  rw [lends] at upToThere
  cases decision with
  | reuse loan =>
    exact ⟨_, _, run_of_goes (upToThere.trans (.moves (move_of_step rfl rfl) .stays)) rfl
      (by omega), .reused lends⟩
  | reserve =>
    have room : ¬ s.pool.Full s.pool.settings.maxConnections := fun full => by
      rw [Pool.lend_eq_full_iff.2 full] at lends
      cases lends
    obtain ⟨-, rfl⟩ := Pool.lend_eq_reserve lends
    have back : s.pool.reserved + 1 - 1 = s.pool.reserved := UInt32.add_sub_cancel _ _
    by_cases accepts : s.server.refusals = 0
    · obtain ⟨now₁, now₂, made⟩ :=
        goes_made (s := (⟨{ s.pool with reserved := s.pool.reserved + 1 }, s.server, now⟩ :
          Solo).tick) isOpen sourced accepts fresh
      simp only [tick, back] at made
      exact ⟨_, _, run_of_goes (upToThere.trans made) rfl enough, .made room accepts⟩
    · obtain ⟨now₁, failed⟩ :=
        goes_refused (s := (⟨{ s.pool with reserved := s.pool.reserved + 1 }, s.server, now⟩ :
          Solo).tick) sourced accepts
      simp only [tick, back] at failed
      exact ⟨_, _, run_of_goes (upToThere.trans failed) rfl (by omega), .refused room accepts⟩
  | full =>
    obtain rfl := Pool.eq_of_lend_full lends
    exact ⟨_, _, run_of_goes upToThere rfl (by omega), .full (Pool.lend_eq_full_iff.1 lends)⟩

/-! ## Giving a session back -/

/-- What becomes of a session that is given back to an open pool. -/
inductive GivenBack (s : Solo) (key : SessionKey) : Solo → Prop
  | shelved {p' : Pool Serial} {now now' : Instant}
      (taken : s.pool.takeBack key s.server.connected now = some (p', none)) :
      GivenBack s key { s with pool := p'.notify, now := now' }
  | discarded {p' : Pool Serial} {session : Serial} {now now' : Instant}
      (taken : s.pool.takeBack key s.server.connected now = some (p', some session)) :
      GivenBack s key
        { pool := (p'.count fun t => { t with
            closed := t.closed + 1, evictions := t.evictions + 1 }).notify
          server := s.server.modify session .disconnect
          now := now' }

/-- A lease whose session is active gives it back. -/
theorem run_giveBack {l : Lease Serial} {session : Serial} {record : Record Serial}
    (isOpen : s.pool.closed = false) (holds : l.session = some session)
    (found : s.pool.active.find? l.info.key = some record) (enough : 7 ≤ fuel) :
    ∃ s', s.run fuel l.giveBack.2 = (s', some (.value ())) ∧ GivenBack s l.info.key s' := by
  have begins : l.giveBack.2 = .reach session l.info.key := by simp [Lease.giveBack, holds]
  rw [begins]
  have reached : s.move (Return.reach session l.info.key) =
      some (s.tick, .release (.takeBack l.info.key)) :=
    move_of_step rfl rfl
  cases taken : s.tick.pool.takeBack l.info.key s.tick.view.connected s.tick.view.now with
  | none =>
    have absent : s.pool.active.find? l.info.key = none := Pool.find?_of_takeBack_eq_none taken
    rw [absent] at found
    cases found
  | some e =>
    obtain ⟨p', rejected⟩ := e
    cases rejected with
    | none =>
      have shelved : s.tick.move (Return.release (.takeBack l.info.key)) = some
          ((⟨p', s.server, s.tick.now⟩ : Solo).tick, .release .announce) :=
        move_of_step rfl (by simp [Stepwise.step, Return.step, Release.step, taken])
      exact ⟨_, run_of_goes (.moves reached (.moves shelved (.moves (move_of_step rfl rfl)
        (.moves (move_of_step rfl rfl) .stays)))) rfl (by omega), .shelved taken⟩
    | some unwanted =>
      have rejects : s.tick.move (Return.release (.takeBack l.info.key)) = some
          ((⟨p', s.server, s.tick.now⟩ : Solo).tick, .release (.readClosed unwanted)) :=
        move_of_step rfl (by simp [Stepwise.step, Return.step, Release.step, taken])
      have stillOpen : p'.closed = false := by
        obtain ⟨-, -, -, rfl⟩ := Pool.takeBack_eq_rejected taken
        exact isOpen
      have looked (now : Instant) :
          Solo.move ⟨p', s.server, now⟩ (Return.release (.readClosed unwanted)) =
            some ((⟨p', s.server, now⟩ : Solo).tick, .release (.close unwanted false)) :=
        move_of_step rfl (by simp [Stepwise.step, Return.step, Release.step, stillOpen])
      exact ⟨_, run_of_goes
        (.moves reached (.moves rejects
          (.moves (looked _) (.moves (move_of_closing rfl)
            (.moves (move_of_step rfl rfl)
              (.moves (move_of_step rfl rfl) (.moves (move_of_step rfl rfl) .stays)))))))
        rfl enough, .discarded taken⟩

/-! ## Taking a session out -/

/-- A lease whose session is active has it taken out for the caller. -/
theorem run_surrender {l : Lease Serial} {session : Serial} {record : Record Serial}
    (holds : l.session = some session) (found : s.pool.active.find? l.info.key = some record)
    (enough : 4 ≤ fuel) :
    ∃ p' now, s.pool.letGo l.info.key = some p' ∧
      s.run fuel (Surrender.start l) =
        ({ s with pool := p'.notify, now }, some (.value session)) := by
  have begins : Surrender.start l = .reach session l.info.key := by simp [Surrender.start, holds]
  rw [begins]
  cases gone : s.tick.pool.letGo l.info.key with
  | none =>
    have absent : s.pool.active.find? l.info.key = none := Pool.find?_of_letGo_eq_none gone
    rw [absent] at found
    cases found
  | some p' =>
    have goes : s.tick.move (Surrender.detach session (.letGo l.info.key)) =
        some ((⟨p', s.server, s.tick.now⟩ : Solo).tick, .detach session .announce) :=
      move_of_step rfl (by simp [Stepwise.step, Surrender.step, Detach.step, gone])
    exact ⟨p', _, gone, run_of_goes
      (.moves (move_of_step rfl rfl)
        (.moves goes (.moves (move_of_step rfl rfl) (.moves (move_of_step rfl rfl) .stays))))
      rfl enough⟩

/-! ## Changing the cap -/

/-- A new cap is set, unless it leaves no room for a session. -/
theorem run_resize (count : UInt32) (enough : 2 ≤ fuel) :
    ∃ now, s.run fuel (Resize.write count) = if count = 0
      then ({ s with now }, some (.error (.invalidSettings Settings.Flaw.noCapacity.message)))
      else
        ({ s with
            pool := { s.pool with
              settings := { s.pool.settings with maxConnections := count }
              epoch := s.pool.epoch + 1 }
            now },
          some (.value ())) := by
  by_cases none : count = 0
  · have refused : s.move (Resize.write count) = some
        (s.tick, .done (.error (.invalidSettings Settings.Flaw.noCapacity.message))) :=
      move_of_step rfl (by simp [Stepwise.step, Resize.step, Pool.setMaxConnections, none])
    exact ⟨_, by rw [if_pos none]; exact run_of_goes (.moves refused .stays) rfl (by omega)⟩
  · have written : s.move (Resize.write count) = some
        ((⟨{ s.pool with settings := { s.pool.settings with maxConnections := count } }, s.server,
          s.now⟩ : Solo).tick, .announce) :=
      move_of_step rfl (by simp [Stepwise.step, Resize.step, Pool.setMaxConnections, none])
    exact ⟨_, by
      rw [if_neg none]
      exact run_of_goes (.moves written (.moves (move_of_step rfl rfl) .stays)) rfl enough⟩

end Solo

end ConnectionPool
