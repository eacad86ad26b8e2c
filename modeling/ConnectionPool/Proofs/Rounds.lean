import ConnectionPool.Proofs.Books
import ConnectionPool.Proofs.Conduct
import ConnectionPool.Proofs.Probing

set_option autoImplicit false

/-! # What is foreseen of a heartbeat cycle

What a cycle comes to depends on the pool that it finds, on the clock, and on how its queries end.
As long as nobody else changes the pool and no session breaks off while it is closed, it is foreseen
in full (`Round`): which sessions are probed and in which order, which of them are closed, what is
left of the idle ones, and what is counted.

Each phase of the cycle tells how far the round has come (`Round.Ran`), and a step or an answer
leads from one phase to the next. -/

namespace ConnectionPool

variable {S : Type}

open Interleaving (Contact Reply)

/-! ## What is foreseen -/

/-- What a cycle finds when it marks the sessions that are due, and how their queries end. -/
structure Round (S : Type) where
  pool : Pool S
  interval : Duration
  statement : String
  now : Instant
  answers : S → Outcome Cause Unit

namespace Round

variable (c : Round S)

/-- The idle sessions that were left alone for longer than the interval. -/
def due : Roster (Record S) := c.pool.idle.filter fun _ r => r.isDue c.interval c.now

/-- Whether the query of a session goes wrong, with an error or a panic. -/
def fails (session : S) : Bool := decide (c.answers session ≠ .value ())

/-- The sessions that are due, and fail. -/
def bad : Roster (Record S) := c.due.filter fun _ r => c.fails r.session

/-- The sessions that are due, and pass. -/
def good : Roster (Record S) := c.due.filter fun _ r => !c.fails r.session

/-- The queries of some sessions, and how they end. -/
def queries (l : List (SessionKey × Record S)) : List (Contact S) :=
  l.map fun e => .queried e.2.session c.statement (c.answers e.2.session)

/-- The verdicts on some sessions. -/
def verdicts (l : List (SessionKey × Record S)) : List (SessionKey × Verdict) :=
  l.map fun e => (e.1, Heartbeat.verdict (c.answers e.2.session))

/-- Some sessions are closed, and none of them breaks off. -/
def closings (sessions : List S) : List (Contact S) :=
  sessions.map fun session => .closed session (.value ())

/-- All that the cycle has to do with sessions, the first thing first. -/
def contacts : List (Contact S) :=
  c.queries c.due.entries ++ closings (c.bad.values.map (·.session))

/-! ### The pool after each section -/

/-- The sessions that are due are marked. -/
def marked : Pool S := (c.pool.beginProbes c.interval c.now).1

/-- So many successes are counted. -/
def credited (n : Nat) : Pool S := { c.marked with heartbeats := c.pool.heartbeats + .ofNat n }

/-- The verdicts are settled. -/
def settled (now : Instant) : Pool S :=
  ((c.credited c.good.size).endProbes (c.verdicts c.due.entries) now).1

/-- Everything is counted. -/
def counted (now : Instant) : Pool S :=
  (c.settled now).count fun t => { t with
    probes := t.probes + .ofNat c.due.size
    probeFailures := t.probeFailures + .ofNat c.bad.size
    evictions := t.evictions + .ofNat c.bad.size
    closed := t.closed + .ofNat c.bad.size }

/-! ### Verdicts -/

theorem isHealthy_verdict (session : S) :
    (Heartbeat.verdict (c.answers session)).isHealthy = !c.fails session := by
  unfold fails
  cases c.answers session <;> rfl

theorem length_verdicts : (c.verdicts c.due.entries).length = c.due.size := by
  simp [verdicts, Roster.size]

theorem failures_verdicts : Heartbeat.failures (c.verdicts c.due.entries) = c.bad.size := by
  have same : (fun v : SessionKey × Verdict => !v.2.isHealthy) ∘
      (fun e : SessionKey × Record S => (e.1, Heartbeat.verdict (c.answers e.2.session))) =
      fun e => c.fails e.2.session := by
    funext e
    simp [isHealthy_verdict]
  rw [Heartbeat.failures, verdicts, List.countP_map, same, List.countP_eq_length_filter]
  rfl

theorem successes_verdicts : successes (c.verdicts c.due.entries) = c.good.size := by
  have same : (fun v : SessionKey × Verdict => v.2.isHealthy) ∘
      (fun e : SessionKey × Record S => (e.1, Heartbeat.verdict (c.answers e.2.session))) =
      fun e => !c.fails e.2.session := by
    funext e
    exact isHealthy_verdict c e.2.session
  rw [successes, verdicts, List.countP_map, same, List.countP_eq_length_filter]
  rfl

/-! ### Look-ups -/

theorem find?_due (key : SessionKey) :
    c.due.find? key = (c.pool.idle.find? key).filter fun r => r.isDue c.interval c.now :=
  Roster.find?_filter _ _ _

theorem lookup_verdicts (key : SessionKey) : Roster.lookup key (c.verdicts c.due.entries) =
    (c.due.find? key).map fun r => Heartbeat.verdict (c.answers r.session) :=
  Roster.find?_map c.due (fun _ r => Heartbeat.verdict (c.answers r.session)) key

theorem mem_keys_verdicts (key : SessionKey) :
    key ∈ (c.verdicts c.due.entries).map (·.1) ↔ (c.due.find? key).isSome := by
  rw [← Roster.mem_keys_iff, verdicts, List.map_map]
  rfl

theorem failing_verdicts (key : SessionKey) : failing (c.verdicts c.due.entries) key =
    (c.due.find? key).any fun r => c.fails r.session := by
  rw [failing, lookup_verdicts]
  cases c.due.find? key with
  | none => rfl
  | some r => simp [isHealthy_verdict]

theorem find?_marked (key : SessionKey) : c.marked.idle.find? key =
    (c.pool.idle.find? key).map fun r => if r.isDue c.interval c.now then r.beginProbe else r :=
  Roster.find?_map _ _ _

/-! ### Settling -/

section

variable {c} {now : Instant}

/-- Whoever gets a verdict was marked. -/
theorem standing_of_marked {key : SessionKey} {r : Record S}
    (found : c.marked.idle.find? key = some r)
    (judged : key ∈ (c.verdicts c.due.entries).map (·.1)) : r.standing = .probing := by
  rw [mem_keys_verdicts, find?_due] at judged
  obtain ⟨old, before, rfl⟩ := Option.map_eq_some_iff.1 ((find?_marked c key).symm.trans found)
  rw [before] at judged
  by_cases isDue : old.isDue c.interval c.now = true
  · rw [if_pos isDue]
    rfl
  · simp [Option.filter, isDue] at judged

theorem not_canceled_of_marked
    (sound : ∀ key r, c.pool.idle.find? key = some r → r.standing ≠ .canceled) {key : SessionKey}
    {r : Record S} (found : c.marked.idle.find? key = some r) : r.standing ≠ .canceled := by
  obtain ⟨old, before, rfl⟩ := Option.map_eq_some_iff.1 ((find?_marked c key).symm.trans found)
  split
  · nofun
  · exact sound key old before

variable (sound : ∀ key r, c.pool.idle.find? key = some r → r.standing ≠ .canceled)
include sound

/-- The sessions that are thrown out are those that have failed. -/
theorem thrown_eq (n : Nat) : ((c.credited n).endProbes (c.verdicts c.due.entries) now).2 =
    c.bad.values.map (·.session) := by
  rw [Pool.sessions_endProbes (p := c.credited n) now
    (fun key r found judged => standing_of_marked found judged) fun key r found =>
    not_canceled_of_marked sound found]
  have holdings : (c.credited n).idle.holdings = c.pool.idle.holdings := by
    simp only [credited, marked, Pool.beginProbes, Roster.holdings, Roster.map, List.map_map]
    refine List.map_congr_left fun e _ => ?_
    simp only [Function.comp_apply]
    split <;> rfl
  have same : c.pool.idle.entries.filter ((fun e => failing (c.verdicts c.due.entries) e.1) ∘
      fun e : SessionKey × Record S => (e.1, e.2.session)) =
      c.pool.idle.entries.filter fun e => c.fails e.2.session && e.2.isDue c.interval c.now := by
    refine List.filter_congr fun e he => ?_
    simp only [Function.comp_apply, failing_verdicts, find?_due, Roster.mem_entries_iff.1 he]
    by_cases isDue : e.2.isDue c.interval c.now = true <;> simp [Option.filter, isDue]
  rw [holdings, Roster.holdings, List.filter_map, List.map_map, same]
  simp only [bad, due, Roster.values, Roster.filter, List.filter_filter, List.map_map]
  rfl

/-- What is left of the idle sessions: those that have failed are gone, those that have passed were
seen well just now, and the others are as they were. -/
theorem find?_settled (key : SessionKey) : (c.settled now).idle.find? key =
    match c.pool.idle.find? key with
    | none => none
    | some r =>
      if r.isDue c.interval c.now = false then some r
      else if c.fails r.session = true then none
      else some { r with info := { r.info with lastHeartbeat := now } } := by
  have settles := Pool.find?_endProbes_eq (p := c.credited c.good.size) now
    (fun key r found judged => standing_of_marked found judged)
    (fun key r found => not_canceled_of_marked sound found) key
  refine settles.trans ?_
  rw [failing_verdicts, if_congr (mem_keys_verdicts c key) rfl rfl, find?_due,
    show (c.credited c.good.size).idle.find? key = c.marked.idle.find? key from rfl, find?_marked]
  cases found : c.pool.idle.find? key with
  | none => simp
  | some r =>
    cases isDue : r.isDue c.interval c.now with
    | false => simp [Option.filter, isDue]
    | true =>
      have idle := Record.standing_of_isDue isDue
      cases fails : c.fails r.session with
      | true => simp [Option.filter, isDue, fails]
      | false =>
        obtain ⟨session, info⟩ := r
        cases info
        cases idle
        simp [Option.filter, isDue, fails, Record.endProbe, Record.beginProbe, Verdict.isHealthy]

end

/-! ## How far a cycle has come -/

open Interleaving (State Choice)

/-- How far a cycle has come when it is in a phase, what it has had to do with sessions so far (the
latest thing first), and what the pool is like. The verdicts are settled at a time that the clock
has shown since. -/
def Ran (since : List (State S × Choice S)) (cs : List (Contact S))
    (p : Pool S) : Heartbeat S → Prop
  | .probe statement todo verdicts =>
    statement = c.statement ∧ ∃ asked left, c.due.entries = asked ++ left ∧
      todo = left.map (fun e => (e.1, e.2.session)) ∧ verdicts = c.verdicts asked ∧
      cs.reverse = c.queries asked ∧ p = c.marked
  | .credit todo verdicts =>
    verdicts = c.verdicts c.due.entries ∧ cs.reverse = c.queries c.due.entries ∧
      ∃ seen, verdicts = seen ++ todo ∧ p = c.credited (successes seen)
  | .settle verdicts => verdicts = c.verdicts c.due.entries ∧ cs.reverse = c.queries c.due.entries ∧
      p = c.credited c.good.size
  | .evict verdicts evicted todo => verdicts = c.verdicts c.due.entries ∧ evicted = c.bad.size ∧
      (∃ gone, c.bad.values.map (·.session) = gone ++ todo ∧
        cs.reverse = c.queries c.due.entries ++ closings gone) ∧
      ∃ e ∈ since, p = c.settled e.1.now
  | .count verdicts evicted => verdicts = c.verdicts c.due.entries ∧ evicted = c.bad.size ∧
      cs.reverse = c.contacts ∧ ∃ e ∈ since, p = c.settled e.1.now
  | .announce probed evicted =>
    probed = c.due.size ∧ evicted = c.bad.size ∧ cs.reverse = c.contacts ∧
      ∃ e ∈ since, p = c.counted e.1.now
  | .done outcome => outcome = .value (.completed c.due.size c.bad.size) ∧ cs.reverse = c.contacts ∧
      ∃ e ∈ since, p = (c.counted e.1.now).notify
  | .select _ _ => False

variable {c} {v : View S} {p p' : Pool S} {since : List (State S × Choice S)}
  {e : State S × Choice S} {cs : List (Contact S)} {b b' : Heartbeat S} {reply : Reply S}
  {contact : Contact S}

/-- What was true at an earlier time of the clock still is. -/
theorem Ran.mono (h : c.Ran since cs p b) : c.Ran (e :: since) cs p b := by
  have later {f : Instant → Pool S} (h : ∃ e ∈ since, p = f e.1.now) : ∃ e' ∈ e :: since,
      p = f e'.1.now := by
    obtain ⟨e', he', same⟩ := h
    exact ⟨e', List.mem_cons_of_mem _ he', same⟩
  cases b with
  | evict => exact ⟨h.1, h.2.1, h.2.2.1, later h.2.2.2⟩
  | count => exact ⟨h.1, h.2.1, h.2.2.1, later h.2.2.2⟩
  | announce => exact ⟨h.1, h.2.1, h.2.2.1, later (f := fun now => c.counted now) h.2.2.2⟩
  | done => exact ⟨h.1, h.2.1, later (f := fun now => (c.counted now).notify) h.2.2⟩
  | select | probe | credit | settle => exact h

/-- What follows the first step of a cycle that is to probe. -/
theorem begins (c : Round S) (nonzero : c.interval.isZero = false) (free : v.contended = false)
    (now : v.now = c.now)
    (did : Heartbeat.step v c.pool (.select c.interval c.statement) = some (p', b')) :
    p' = c.marked ∧ b' = if c.due.size = 0 then .done (.value (.completed 0 0))
      else .probe c.statement (c.due.entries.map fun e => (e.1, e.2.session)) [] := by
  simp only [Heartbeat.step, nonzero, free, now, Bool.false_eq_true, if_false, Option.some.injEq,
    Prod.mk.injEq] at did
  obtain ⟨rfl, rfl⟩ := did
  refine ⟨rfl, ?_⟩
  simp only [Pool.beginProbes, List.isEmpty_iff, List.map_eq_nil_iff, Roster.size,
    List.length_eq_zero_iff]
  rfl

theorem ran_of_step (sound : ∀ key r, c.pool.idle.find? key = some r → r.standing ≠ .canceled)
    (now : e.1.now = v.now) (did : b.step v p = some (p', b')) (h : c.Ran since cs p b) :
    c.Ran (e :: since) cs p' b' := by
  cases b with
  | probe statement todo verdicts =>
    cases todo with
    | cons => cases did
    | nil =>
      cases did
      obtain ⟨-, asked, left, all, none, rfl, told, rfl⟩ := h
      obtain rfl := List.map_eq_nil_iff.1 none.symm
      rw [List.append_nil] at all
      rw [← all] at told ⊢
      exact ⟨rfl, told, [], rfl, by simp [credited, successes, marked, Pool.beginProbes]⟩
  | credit todo verdicts =>
    obtain ⟨rfl, told, seen, all, rfl⟩ := h
    cases todo with
    | nil =>
      cases did
      rw [List.append_nil] at all
      exact ⟨rfl, told, by rw [← all, successes_verdicts]⟩
    | cons head todo =>
      obtain ⟨key, verdict⟩ := head
      cases did
      refine ⟨rfl, told, seen ++ [(key, verdict)], by simpa using all, ?_⟩
      cases verdict with
      | healthy => simp [credited, successes, Verdict.isHealthy, UInt64.add_assoc]
      | failed => simp [credited, successes, Verdict.isHealthy]
  | settle verdicts =>
    obtain ⟨rfl, told, rfl⟩ := h
    cases did
    refine ⟨rfl, ?_, ⟨[], (thrown_eq sound _).symm, by simpa [closings] using told⟩, e,
      List.mem_cons_self, by rw [now]; rfl⟩
    refine (congrArg List.length (thrown_eq sound _)).trans ?_
    simp [Roster.values, Roster.size]
  | evict verdicts evicted todo =>
    cases todo with
    | cons => cases did
    | nil =>
      cases did
      obtain ⟨rfl, rfl, ⟨gone, all, told⟩, at_⟩ := h.mono (e := e)
      rw [List.append_nil] at all
      exact ⟨rfl, rfl, by rw [told, contacts, all], at_⟩
  | count verdicts evicted =>
    cases did
    obtain ⟨rfl, rfl, told, e', he', rfl⟩ := h.mono (e := e)
    refine ⟨length_verdicts c, rfl, told, e', he', ?_⟩
    rw [length_verdicts, failures_verdicts]
    rfl
  | announce probed evicted =>
    cases did
    obtain ⟨rfl, rfl, told, e', he', rfl⟩ := h.mono (e := e)
    exact ⟨rfl, told, e', he', rfl⟩
  | select => exact h.elim
  | done => cases did

/-- How a cycle expects a session to answer: as foreseen when it is queried, and not to break off
when it is closed. -/
def Expects (c : Round S) : Contact S → Prop
  | .queried session _ outcome => outcome = c.answers session
  | .closed _ outcome => outcome = .value ()
  | _ => True

theorem ran_of_answer (did : b.status.answer reply = some b')
    (learned : b.status.contact? reply = some contact) (expected : c.Expects contact)
    (h : c.Ran since cs p b) : c.Ran (e :: since) (contact :: cs) p b' := by
  cases b with
  | probe statement todo verdicts =>
    cases todo with
    | nil => cases did
    | cons head todo =>
      cases reply with
      | queried outcome =>
        cases did
        cases learned
        obtain ⟨rfl, asked, left, all, split, rfl, told, rfl⟩ := h
        obtain ⟨entry, left, rfl, rfl, rfl⟩ := List.map_eq_cons_iff.1 split.symm
        cases expected
        refine ⟨rfl, asked ++ [entry], left, by simpa using all, rfl, by simp [verdicts], ?_, rfl⟩
        rw [List.reverse_cons, told]
        simp [queries]
      | _ => cases did
  | evict verdicts evicted todo =>
    cases todo with
    | nil => cases did
    | cons session todo =>
      cases reply with
      | closed outcome =>
        cases did
        cases learned
        obtain ⟨rfl, rfl, ⟨gone, all, told⟩, at_⟩ := h.mono (e := e)
        cases expected
        refine ⟨rfl, rfl, ⟨gone ++ [session], by simpa using all, ?_⟩, at_⟩
        rw [List.reverse_cons, told]
        simp [closings]
      | _ => cases did
  | _ => cases did

end Round

end ConnectionPool
