import ConnectionPool.Proofs.Departures

set_option autoImplicit false

/-! # Assertions

A pool asserts that the records of its sessions come in a sensible order: a session is lent that is
free, one is taken back that is lent, a probe begins of one that is free and ends of one that nobody
has, and who gives a session back, or lets it go, has been lent it. A build that checks the
assertions evaluates them before a step is taken (`Task.assertions`), and breaks the step off at the
first one that does not hold; what happens then is nowhere laid down (`Task.assertedStep`).

None of them ever fails. The record of a session tells which roster it is in, and a key that a call
has in its hands is one of an active session; this is all that is needed. So a build that checks
them and one that does not have the same runs (`asserting_run_iff`), and no lease is ever told that
its session is not lent. -/

namespace ConnectionPool

/-- A check that a program makes of itself, and what it says when the check fails. -/
structure Assertion where
  holds : Bool
  message : String
  deriving DecidableEq, Repr

variable {S : Type}

namespace Record

/-! Each passage of a record from standing to standing asserts what the standing was. -/

def assertCheckOut (r : Record S) : Assertion where
  holds := r.standing.isAvailable
  message := "checkout of session " ++ r.info.key.text ++ " in state " ++ r.standing.name

def assertCheckIn (r : Record S) : Assertion where
  holds := !r.standing.isShelved
  message := "checkin of session " ++ r.info.key.text ++ " that is already idle"

def assertBeginProbe (r : Record S) : Assertion where
  holds := r.standing.isAvailable
  message := "assertion failed: self.meta.state.is_available()"

def assertEndProbe (r : Record S) : Assertion where
  holds := r.standing.isShelved
  message := "assertion failed: self.meta.state.is_idle_collection()"

end Record

namespace Pool

/-- A caller has the session that is to leave the roster of active sessions. -/
def assertActive (p : Pool S) (what : String) (key : SessionKey) : Assertion where
  holds := (p.active.find? key).isSome
  message := what ++ " of session " ++ key.text ++ " not checked out from this pool"

/-- What lending an idle session asserts of it. -/
def lendAssertions (p : Pool S) : List Assertion :=
  ((p.idle.first? fun r => r.standing.isAvailable).map fun e => e.2.assertCheckOut).toList

/-- What taking a session back asserts; it is checked in only if it becomes idle. -/
def takeBackAssertions (p : Pool S) (key : SessionKey) (connected : S → Bool) : List Assertion :=
  p.assertActive "release" key ::
    ((p.active.find? key).filter fun r => !p.closed && connected r.session).toList.map
    Record.assertCheckIn

def beginProbesAssertions (p : Pool S) (interval : Duration) (now : Instant) : List Assertion :=
  (p.idle.values.filter fun r => r.isDue interval now).map Record.assertBeginProbe

def endProbesAssertions (p : Pool S) (verdicts : List (SessionKey × Verdict)) : List Assertion :=
  (p.idle.entries.filter fun e => (Roster.lookup e.1 verdicts).isSome &&
    e.2.standing == .probing).map fun e => e.2.assertEndProbe

end Pool

/-! ## What the steps assert -/

def Acquire.assertions (p : Pool S) : Acquire S → List Assertion
  | choose _ _ _ => p.lendAssertions
  | _ => []

def Release.assertions (v : View S) (p : Pool S) : Release S → List Assertion
  | takeBack key => p.takeBackAssertions key v.connected
  | _ => []

def Detach.assertions (p : Pool S) : Detach → List Assertion
  | letGo key => [p.assertActive "detach" key]
  | _ => []

def Return.assertions (v : View S) (p : Pool S) : Return S → List Assertion
  | release r => r.assertions v p
  | _ => []

def Transfer.assertions (v : View S) (p : Pool S) : Transfer S → List Assertion
  | replace _ _ giving | refuse _ giving | abandon _ _ giving => giving.assertions v p
  | done _ _ => []

def Surrender.assertions (p : Pool S) : Surrender S → List Assertion
  | detach _ d => d.assertions p
  | _ => []

/-- A cycle that is turned off, or finds somebody at the rosters, begins no probes. -/
def Heartbeat.assertions (v : View S) (p : Pool S) : Heartbeat S → List Assertion
  | select interval _ =>
    if interval.isZero || v.contended then [] else p.beginProbesAssertions interval v.now
  | settle verdicts => p.endProbesAssertions verdicts
  | _ => []

/-! ## What leases are told

The error that an operation on a lease ends with, or carries to its end. -/

def Release.failure? : Release S → Option Error
  | done (.error e) => some e
  | _ => none

def Detach.failure? : Detach → Option Error
  | done (.error e) => some e
  | _ => none

def Return.failure? : Return S → Option Error
  | release r => r.failure?
  | done (.error e) => some e
  | _ => none

def Transfer.failure? : Transfer S → Option Error
  | replace _ _ giving | refuse _ giving | abandon _ _ giving => giving.failure?
  | done _ (.error e) => some e
  | done _ _ => none

def Surrender.failure? : Surrender S → Option Error
  | detach _ d => d.failure?
  | done (.error e) => some e
  | _ => none

namespace Interleaving

def Task.failure? : Task S → Option Error
  | giveBack _ r => r.failure?
  | transfer t => t.failure?
  | surrender d => d.failure?
  | _ => none

/-- What the next step of a call asserts, in the order in which it does so. -/
def Task.assertions (v : View S) (p : Pool S) : Task S → List Assertion
  | acquire a => a.assertions p
  | giveBack _ r => r.assertions v p
  | transfer t => t.assertions v p
  | surrender d => d.assertions p
  | cycle b | work (.cycle _ _ b) => b.assertions v p
  | work _ | resize _ | shutDown _ | drop _ | returned => []

/-! ## A build that checks -/

/-- What comes of a step that has failed an assertion. Nothing is known about it. -/
abbrev Failing (S : Type) := View S → Pool S → Task S → String → Option (Pool S × Task S)

/-- A step that is broken off at the first assertion that does not hold. -/
def Task.assertedStep (fails : Failing S) (v : View S) (p : Pool S)
    (t : Task S) : Option (Pool S × Task S) :=
  match (t.assertions v p).find? fun a => !a.holds with
  | some failed => fails v p t failed.message
  | none => t.step v p

/-- The state after a choice, in a build that checks. Only steps of calls assert anything. -/
def State.actAsserting (fails : Failing S) (s : State S) : Choice S → Option (State S)
  | .step i connected contended =>
    s.advance i fun call p => call.task.assertedStep fails (s.view call connected contended) p
  | c => s.act c

/-- The runs of a build that checks. -/
inductive AssertingRun (fails : Failing S) : List (State S × Choice S) → State S → Prop
  | start (now : Instant) : AssertingRun fails [] { now }
  | next {past : List (State S × Choice S)} {s s' : State S} {c : Choice S}
      (run : AssertingRun fails past s) (fresh : c.Fresh s)
      (act : s.actAsserting fails c = some s') : AssertingRun fails ((s, c) :: past) s'

end Interleaving

open Interleaving (Task Filed Sound Reply)

/-! ## Why the assertions hold -/

variable {v : View S} {p p' : Pool S} {en : List (SessionKey × S)}

namespace Pool

theorem holds_of_lend {a : Assertion} (h : a ∈ p.lendAssertions) : a.holds = true := by
  obtain ⟨⟨key, r⟩, first, rfl⟩ := Option.map_eq_some_iff.1 (Option.mem_toList.1 h)
  exact (Roster.first?_eq_some first).2

theorem holds_of_takeBack {key : SessionKey} {connected : S → Bool} {a : Assertion}
    (filed : Filed en p) (lent : ∃ r, p.active.find? key = some r)
    (h : a ∈ p.takeBackAssertions key connected) : a.holds = true := by
  obtain ⟨r, found⟩ := lent
  rcases List.mem_cons.1 h with rfl | h
  · simp [assertActive, found]
  · obtain ⟨r', kept, rfl⟩ := List.mem_map.1 h
    obtain ⟨same, -⟩ := Option.filter_eq_some_iff.1 (Option.mem_toList.1 kept)
    have standing := (filed.active key r' same).standing
    simp [Record.assertCheckIn, standing, Standing.isShelved]

theorem holds_of_beginProbes {interval : Duration} {now : Instant} {a : Assertion}
    (h : a ∈ p.beginProbesAssertions interval now) : a.holds = true := by
  obtain ⟨r, due, rfl⟩ := List.mem_map.1 h
  have idle := Record.standing_of_isDue (List.mem_filter.1 due).2
  simp [Record.assertBeginProbe, idle, Standing.isAvailable]

theorem holds_of_endProbes {verdicts : List (SessionKey × Verdict)} {a : Assertion}
    (h : a ∈ p.endProbesAssertions verdicts) : a.holds = true := by
  obtain ⟨e, judged, rfl⟩ := List.mem_map.1 h
  have marked := (List.mem_filter.1 judged).2
  simp only [Bool.and_eq_true, beq_iff_eq] at marked
  simp [Record.assertEndProbe, marked.2, Standing.isShelved]

end Pool

theorem Heartbeat.assertions_hold {b : Heartbeat S} {a : Assertion} (h : a ∈ b.assertions v p) :
    a.holds = true := by
  cases b with
  | select interval statement =>
    simp only [assertions] at h
    split at h
    · cases h
    · exact Pool.holds_of_beginProbes h
  | settle verdicts => exact Pool.holds_of_endProbes h
  | _ => cases h

theorem Return.assertions_hold {r : Return S} {a : Assertion} (filed : Filed en p)
    (mine : ∀ key, r.role = .claim key → ∃ record, p.active.find? key = some record)
    (h : a ∈ r.assertions v p) : a.holds = true := by
  cases r with
  | release r =>
    cases r with
    | takeBack key => exact Pool.holds_of_takeBack filed (mine key rfl) h
    | _ => cases h
  | _ => cases h

theorem Surrender.assertions_hold {d : Surrender S} {a : Assertion}
    (mine : ∀ key, d.role = .claim key → ∃ record, p.active.find? key = some record)
    (h : a ∈ d.assertions p) : a.holds = true := by
  cases d with
  | detach session d =>
    cases d with
    | letGo key =>
      obtain ⟨r, found⟩ := mine key rfl
      obtain rfl := List.mem_singleton.1 h
      simp [Pool.assertActive, found]
    | _ => cases h
  | _ => cases h

namespace Interleaving

/-- Whatever a call asserts holds if the call knows what it knows in every run. -/
theorem Task.assertions_hold {t : Task S} {a : Assertion} (sound : Sound en p t)
    (h : a ∈ t.assertions v p) : a.holds = true := by
  cases t with
  | acquire u =>
    cases u with
    | choose patience epoch cap => exact Pool.holds_of_lend h
    | _ => cases h
  | giveBack kept r => exact Return.assertions_hold sound.filed sound.mine h
  | transfer t =>
    cases t with
    | done => cases h
    | _ => exact Return.assertions_hold sound.filed sound.mine h
  | surrender d => exact Surrender.assertions_hold sound.mine h
  | cycle b => exact Heartbeat.assertions_hold h
  | work w =>
    cases w with
    | cycle nominal busy b => exact Heartbeat.assertions_hold h
    | _ => cases h
  | _ => cases h

end Interleaving

/-! ## What leases are told, by their own steps

As long as the assertions hold, no operation on a lease comes upon an error of its pool. -/

theorem Release.failure?_of_step {r r' : Release S} (met : ∀ a ∈ r.assertions v p, a.holds = true)
    (h : r.step v p = some (p', r')) : r'.failure? = none := by
  cases r with
  | takeBack key =>
    simp only [step] at h
    split at h
    · next refused =>
      -- the session is lent, so it is there to be taken
      have lent := met (p.assertActive "release" key) List.mem_cons_self
      rw [Pool.assertActive, Pool.find?_of_takeBack_eq_none refused] at lent
      cases lent
    · cases h
      rfl
    · cases h
      rfl
  | close | done => cases h
  | _ =>
    cases h
    rfl

theorem Detach.failure?_of_step {d d' : Detach} (met : ∀ a ∈ d.assertions p, a.holds = true)
    (h : d.step v p = some (p', d')) : d'.failure? = none := by
  cases d with
  | letGo key =>
    simp only [step] at h
    split at h
    · next refused =>
      have lent := met (p.assertActive "detach" key) List.mem_cons_self
      rw [Pool.assertActive, Pool.find?_of_letGo_eq_none refused] at lent
      cases lent
    · cases h
      rfl
  | announce =>
    cases h
    rfl
  | done => cases h

theorem Return.failure?_of_step {r r' : Return S} (met : ∀ a ∈ r.assertions v p, a.holds = true)
    (h : r.step v p = some (p', r')) : r'.failure? = r.failure? ∨ r'.failure? = none := by
  cases r with
  | reach session key =>
    cases h
    split <;> exact .inr rfl
  | release r =>
    rcases release_of_step h with ⟨outcome, rfl, rfl, rfl⟩ | ⟨u, hu, rfl⟩
    · cases outcome <;> exact .inl rfl
    · exact .inr (Release.failure?_of_step met hu)
  | close | done => cases h

@[simp] theorem Return.failure?_giveBack (l : Lease S) : l.giveBack.2.failure? = none := by
  obtain ⟨at_, session, info⟩ := l
  cases session <;> rfl

/-- Besides passing on what it is told, a transfer only complains of leases from two pools. -/
theorem Transfer.failure?_of_step {t t' : Transfer S} (met : ∀ a ∈ t.assertions v p, a.holds = true)
    (h : t.step v p = some (p', t')) :
    t'.failure? = t.failure? ∨ t'.failure? = none ∨ t'.failure? = some .foreignLease := by
  cases steps_of_step h with
  | giving around did =>
    cases around with
    | _ => exact (Return.failure?_of_step met did).imp_right .inl
  | @replaced old source given =>
    cases given with
    | panic text => exact .inr (.inl (Return.failure?_giveBack source))
    | _ => exact .inl rfl
  | @refused target given =>
    cases given with
    | panic text => exact .inr (.inl rfl)
    | _ => exact .inr (.inr rfl)
  | abandoned => exact .inr (.inl rfl)

theorem Surrender.failure?_of_step {d d' : Surrender S} (met : ∀ a ∈ d.assertions p, a.holds = true)
    (h : d.step v p = some (p', d')) : d'.failure? = d.failure? ∨ d'.failure? = none := by
  cases d with
  | reach session key =>
    cases h
    split <;> exact .inr rfl
  | detach session d =>
    rcases detach_of_step h with ⟨outcome, rfl, rfl, rfl⟩ | ⟨u, hu, rfl⟩
    · cases outcome <;> exact .inl rfl
    · exact .inr (Detach.failure?_of_step met hu)
  | done => cases h

/-! An answer brings no error to an operation on a lease: a session that is closed can only break
off. -/

variable {reply : Reply S}

theorem Return.failure?_of_answer {r r' : Return S} (h : r.status.answer reply = some r') :
    r'.failure? = none := by
  cases r with
  | release r =>
    obtain ⟨u, hu, rfl⟩ := Status.answer_embed h
    cases r with
    | close session closing =>
      cases reply with
      | closed outcome =>
        cases hu
        cases outcome with
        | error e => exact e.elim
        | _ => rfl
      | _ => cases hu
    | _ => cases hu
  | close session =>
    cases reply with
    | closed outcome =>
      cases h
      cases outcome with
      | error e => exact e.elim
      | _ => rfl
    | _ => cases h
  | _ => cases h

theorem Transfer.failure?_of_answer {t t' : Transfer S} (h : t.status.answer reply = some t') :
    t'.failure? = none := by
  cases t with
  | done => cases reply <;> cases h
  | _ =>
    obtain ⟨u, hu, rfl⟩ := Status.answer_embed h
    exact Return.failure?_of_answer hu

namespace Interleaving

theorem Task.failure?_of_step {t t' : Task S} (met : ∀ a ∈ t.assertions v p, a.holds = true)
    (h : t.step v p = some (p', t')) :
    t'.failure? = t.failure? ∨ t'.failure? = none ∨ t'.failure? = some .foreignLease := by
  cases t with
  | giveBack kept r =>
    obtain ⟨u, hu, rfl⟩ := exists_of_map_step h
    exact (Return.failure?_of_step met hu).imp_right .inl
  | transfer t =>
    obtain ⟨u, hu, rfl⟩ := exists_of_map_step h
    exact Transfer.failure?_of_step met hu
  | surrender d =>
    obtain ⟨u, hu, rfl⟩ := exists_of_map_step h
    exact (Surrender.failure?_of_step met hu).imp_right .inl
  | returned => cases h
  | _ =>
    obtain ⟨u, -, rfl⟩ := exists_of_map_step h
    exact .inl rfl

theorem Task.failure?_of_answer {t t' : Task S} (h : t.answer reply = some t') :
    t'.failure? = none := by
  cases t with
  | giveBack kept r =>
    obtain ⟨u, hu, rfl⟩ := Option.map_eq_some_iff.1 h
    exact Return.failure?_of_answer hu
  | transfer t =>
    obtain ⟨u, hu, rfl⟩ := Option.map_eq_some_iff.1 h
    exact Transfer.failure?_of_answer hu
  | surrender d =>
    obtain ⟨u, hu, rfl⟩ := Option.map_eq_some_iff.1 h
    exact (Surrender.not_answer hu).elim
  | resize | returned => cases h
  | _ =>
    obtain ⟨u, -, rfl⟩ := Option.map_eq_some_iff.1 h
    rfl

variable {past : List (State S × Choice S)} {s s' : State S} {c : Choice S}

/-- A call that begins has been told at most that its lease is empty. -/
theorem Begins.failure? {call : Call S} (h : Begins s c call) :
    call.task.failure? = none ∨ call.task.failure? = some .spentLease := by
  cases h with
  | giveBack => exact .inl (Return.failure?_giveBack _)
  | @transfer c target source =>
    left
    rw [Task.failure?, Transfer.start]
    split <;> exact Return.failure?_giveBack _
  | @surrender c l =>
    obtain ⟨at_, session, info⟩ := l
    cases session with
    | none => exact .inr rfl
    | some session => exact .inl rfl
  | _ => exact .inl rfl

/-! ## In every run -/

theorem Run.assertions_hold (run : Run past s)
    (few : ∀ home, (enrolled home past).length < UInt64.size) {i : Nat} {call : Call S}
    {site : Site S} (atWork : s.calls[i]? = some call)
    (found : s.sites[call.home]? = some site) {a : Assertion}
    (h : a ∈ call.task.assertions v site.pool) :
    a.holds = true :=
  Task.assertions_hold (run.sound atWork found (few call.home)) h

/-- No lease is told that its session is not lent. -/
theorem Run.lent (run : Run past s)
    (few : ∀ home, (enrolled home past).length < UInt64.size) {i : Nat} {call : Call S}
    (is : s.calls[i]? = some call) (key : SessionKey) :
    call.task.failure? ≠ some (.notCheckedOut key) := by
  induction run generalizing i call with
  | start => simp at is
  | @next past s s' c run fresh act ih =>
    have few' (home : PoolId) : (enrolled home past).length < UInt64.size := few_of_cons (few home)
    cases came_of_act act is with
    | stays was => exact ih few' was
    | begins new =>
      rcases (begins_of_act act new is).failure? with none | spent
      · simp [none]
      · simp [spent]
    | steps was at_ found did =>
      rcases Task.failure?_of_step (fun a => run.assertions_hold few' was found) did with
        same | none | foreign
      · rw [same]
        exact ih few' was
      · simp [none]
      · simp [foreign]
    | hears was at_ did => simp [Task.failure?_of_answer did]
    | ends was ended last => simp [last, Task.failure?]

/-- A choice does the same in both builds if its assertions hold. -/
theorem State.actAsserting_eq {fails : Failing S}
    (met : ∀ (i : Nat) (call : Call S) (site : Site S) (v : View S), s.calls[i]? = some call →
      s.sites[call.home]? = some site → ∀ a ∈ call.task.assertions v site.pool, a.holds = true) :
    s.actAsserting fails c = s.act c := by
  cases c with
  | step i connected contended =>
    rw [actAsserting, act, advance, advance]
    cases atWork : s.calls[i]? with
    | none => rfl
    | some call =>
      cases found : s.sites[call.home]? with
      | none => simp [found]
      | some site =>
        have passes : (call.task.assertions (s.view call connected contended) site.pool).find?
            (fun a => !a.holds) = none :=
          List.find?_eq_none.2 fun a ha => by simp [met i call site _ atWork found a ha]
        simp [found, Task.assertedStep, passes]
  | _ => rfl

/-- How the assertions of all pools fare at some moment of a run. -/
structure Vindicated (s : State S) : Prop where
  /-- Whatever any call is about to assert holds. -/
  met : ∀ (i : Nat) (call : Call S) (site : Site S) (connected : S → Bool) (contended : Bool),
    s.calls[i]? = some call → s.sites[call.home]? = some site →
      ∀ a ∈ call.task.assertions (s.view call connected contended) site.pool, a.holds = true
  /-- No operation on a lease has been told that the session is not checked out. -/
  lent : ∀ call ∈ s.calls, ∀ key, call.task.failure? ≠ some (.notCheckedOut key)

/-- No assertion ever fails, so a build that checks them and one that does not have the same runs,
whatever the failure of one would lead to; this holds as long as fewer than `2 ^ 64` keys of each
pool were drawn. -/
theorem assertions_never_fail (fails : Failing S)
    (few : ∀ home, (enrolled home past).length < UInt64.size) :
    (AssertingRun fails past s ↔ Run past s) ∧ (Run past s → Vindicated s) := by
  refine ⟨⟨fun run => ?_, fun run => ?_⟩,
    fun run => ⟨fun i call site connected contended atWork found a =>
    run.assertions_hold few atWork found, fun call mem key => ?_⟩⟩
  · induction run with
    | start now => exact .start now
    | next run fresh act ih =>
      have before := ih fun home => few_of_cons (few home)
      rw [State.actAsserting_eq fun i call site v atWork found a =>
        before.assertions_hold (fun home => few_of_cons (few home)) atWork found] at act
      exact before.next fresh act
  · induction run with
    | start now => exact .start now
    | next run fresh act ih =>
      refine (ih fun home => few_of_cons (few home)).next fresh ?_
      rw [State.actAsserting_eq fun i call site v atWork found a =>
        run.assertions_hold (fun home => few_of_cons (few home)) atWork found]
      exact act
  · obtain ⟨i, is⟩ := List.getElem?_of_mem mem
    exact run.lent few is key

/-- Two sessions are lent, and the pool is about to take the first one back. -/
def assuring : List (Choice Nat) := sharing ++ steps 3 1

theorem assertions_never_fail_of_assuring : ∃ past s,
    (∀ home, (enrolled home past).length < UInt64.size) ∧
    (∃ call ∈ s.calls, ∃ site, s.sites[call.home]? = some site ∧
      (call.task.assertions (s.view call (fun _ => true) false) site.pool).map (·.message) =
        ["release of session #1 not checked out from this pool",
          "checkin of session #1 that is already idle"]) ∧
    AssertingRun (S := Nat) (fun _ _ _ _ => none) past s ∧ Vindicated s := by
  have h : ((play assuring).any fun r => decide (r.1.length ≤ 64) && r.2.calls.any fun call =>
      (r.2.sites[call.home]?).any fun site =>
        (call.task.assertions (r.2.view call (fun _ => true) false) site.pool).map (·.message) ==
          ["release of session #1 not checked out from this pool",
            "checkin of session #1 that is already idle"]) = true := by
    decide +kernel
  obtain ⟨⟨past, s⟩, played, h⟩ := (Option.any_eq_true _ _).1 h
  obtain ⟨short, about⟩ := (Bool.and_eq_true _ _).mp h
  obtain ⟨call, mem, h⟩ := List.any_eq_true.1 about
  obtain ⟨site, found, messages⟩ := (Option.any_eq_true _ _).1 h
  have run := run_of_play played
  have few (home : PoolId) : (enrolled home past).length < UInt64.size :=
    Nat.lt_of_le_of_lt (Nat.le_trans (length_enrolled_le home past) (of_decide_eq_true short))
      (by decide)
  obtain ⟨same, vindicated⟩ := assertions_never_fail (s := s) (fun _ _ _ _ => none) few
  exact ⟨past, s, few, ⟨call, mem, site, found, eq_of_beq messages⟩, same.2 run, vindicated run⟩

end Interleaving

end ConnectionPool
