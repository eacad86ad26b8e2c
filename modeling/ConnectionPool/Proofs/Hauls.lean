import ConnectionPool.Proofs.Places

set_option autoImplicit false

/-! # Hauls

A call takes sessions out of its pool in one section, to close them in later steps. What a section
takes is its haul: a session that was given back and is not wanted, those that a heartbeat cycle
throws out, or all idle sessions. A haul says what is to be counted for it, and whether those who
wait are to be told. -/

namespace ConnectionPool

variable {S : Type}

/-! ## Hauls -/

/-- What a section takes, for its call to close. -/
inductive Haul (S : Type) where
  /-- A session that was given back, unless the pool keeps it. -/
  | returned (rejected : Option S)
  /-- A session that was given back when its pool was gone. -/
  | orphaned (session : S)
  /-- The sessions that a cycle throws out after these verdicts. -/
  | evicted (verdicts : List (SessionKey × Verdict)) (sessions : List S)
  /-- The idle sessions. -/
  | drained (sessions : List S)
  deriving DecidableEq

/-- What is added to the counts of sessions that were closed and thrown out, and to those of
probes. -/
structure Gain where
  closed : UInt64 := 0
  evictions : UInt64 := 0
  probes : UInt64 := 0
  failures : UInt64 := 0
  deriving DecidableEq

namespace Gain

instance : Add Gain where
  add g g' := ⟨g.closed + g'.closed, g.evictions + g'.evictions, g.probes + g'.probes,
    g.failures + g'.failures⟩

/-- How one tally has come from another. -/
def between (t t' : Tally) : Gain :=
  ⟨t'.closed - t.closed, t'.evictions - t.evictions, t'.probes - t.probes,
    t'.probeFailures - t.probeFailures⟩

@[simp] theorem add_empty (g : Gain) : g + {} = g := by
  show Gain.mk (g.closed + 0) (g.evictions + 0) (g.probes + 0) (g.failures + 0) = g
  simp

@[simp] theorem empty_add (g : Gain) : {} + g = g := by
  show Gain.mk (0 + g.closed) (0 + g.evictions) (0 + g.probes) (0 + g.failures) = g
  simp

/-- A counter that was raised tells by how much. -/
@[simp] theorem add_sub_self (a n : UInt64) :
    a + n - a = n := by rw [UInt64.add_comm, UInt64.add_sub_cancel]

@[simp] theorem between_self (t : Tally) : between t t = {} := by simp [between]

end Gain

namespace Haul

/-- The sessions, in the order in which they are to be closed. -/
def sessions : Haul S → List S
  | returned rejected => rejected.toList
  | orphaned session => [session]
  | evicted _ sessions | drained sessions => sessions

/-- What is to be counted. A session that is given back during a shutdown (`late`) was not thrown
out. -/
def gain (late : Bool) : Haul S → Gain
  | returned none | orphaned _ => {}
  | returned (some _) => { closed := 1, evictions := if late then 0 else 1 }
  | evicted verdicts sessions =>
    { closed := .ofNat sessions.length, evictions := .ofNat sessions.length
      probes := .ofNat verdicts.length, failures := .ofNat (Heartbeat.failures verdicts) }
  | drained sessions => { closed := .ofNat sessions.length }

/-- Whether the sessions were in the pool, and are so no more. -/
def removes : Haul S → Bool
  | returned (some _) | evicted _ _ | drained _ => true
  | returned none | orphaned _ => false

/-- Whether those who wait are to be told. -/
def owesNotice : Haul S → Bool
  | returned _ | evicted _ _ => true
  | orphaned _ | drained _ => false

end Haul

section

variable (v : View S) (p : Pool S)

def Release.haul? : Release S → Option (Haul S)
  | takeBack key => (p.takeBack key v.connected v.now).map fun taken => .returned taken.2
  | _ => none

def Return.haul? : Return S → Option (Haul S)
  | reach session _ => if v.alive then none else some (.orphaned session)
  | release r => r.haul? v p
  | close _ | done _ => none

def Transfer.haul? : Transfer S → Option (Haul S)
  | replace _ _ giving | refuse _ giving | abandon _ _ giving => giving.haul? v p
  | done _ _ => none

def Heartbeat.haul? : Heartbeat S → Option (Haul S)
  | settle verdicts => some (.evicted verdicts (p.endProbes verdicts v.now).2)
  | _ => none

def Worker.haul? : Worker S → Option (Haul S)
  | cycle _ _ heartbeat => heartbeat.haul? v p
  | _ => none

def Shutdown.haul? : Shutdown S → Option (Haul S)
  | drain => some (.drained p.drain.2)
  | _ => none

/-- What the next step of a call takes, if it is a section that takes sessions. -/
def Interleaving.Task.haul? : Interleaving.Task S → Option (Haul S)
  | .giveBack _ r => r.haul? v p
  | .transfer t => t.haul? v p
  | .cycle b => b.haul? v p
  | .work w => w.haul? v p
  | .shutDown d | .drop d => d.haul? p
  | .acquire _ | .surrender _ | .resize _ | .returned => none

end

/-! ## What leaves the pool -/

namespace Pool

variable {p p' : Pool S} {key : SessionKey} {connected : S → Bool} {now : Instant} {session : S}

theorem perm_sessions_rejected (taken : p.takeBack key connected now = some (p', some session)) :
    p.sessions.Perm (session :: p'.sessions) := by
  obtain ⟨record, found, rfl, rfl⟩ := takeBack_eq_rejected taken
  have split := ((Roster.perm_entries_erase found).map fun e => e.2.session).append_right
    (p.idle.entries.map fun e => e.2.session)
  simpa [sessions, Roster.holdings, Function.comp_def] using split

theorem perm_sessions_endProbes (verdicts : List (SessionKey × Verdict)) :
    p.sessions.Perm ((p.endProbes verdicts now).2 ++ (p.endProbes verdicts now).1.sessions) := by
  -- the verdicts change no session, so the idle ones are split in two
  have split := ((p.idle.map (judge verdicts now)).perm_entries_filter
    fun _ r => r.standing == .canceled).map fun e => e.2.session
  have same : (p.idle.map (judge verdicts now)).entries.map (fun e => e.2.session) =
      p.idle.entries.map fun e => e.2.session := by
    simp [Roster.map, Function.comp_def]
  rw [same, List.map_append] at split
  have joined := (split.append_left (p.active.entries.map fun e => e.2.session)).trans
    (List.perm_append_comm_assoc _ _ _)
  simpa [sessions, endProbes, Roster.holdings, Roster.values, Function.comp_def, bne] using joined

theorem perm_sessions_drain : p.sessions.Perm (p.drain.2 ++ p.drain.1.sessions) := by
  simpa [sessions, drain, Roster.holdings, Roster.values, Roster.empty, Function.comp_def] using
    List.perm_append_comm

end Pool

open Interleaving (Task)

variable {v : View S} {p p' : Pool S} {haul : Haul S}

theorem Release.perm_sessions_of_haul {r r' : Release S} (h : r.step v p = some (p', r'))
    (takes : r.haul? v p = some haul) (removes : haul.removes = true) :
    p.sessions.Perm (haul.sessions ++ p'.sessions) := by
  cases r with
  | takeBack key =>
    obtain ⟨⟨q, rejected⟩, taken, rfl⟩ := Option.map_eq_some_iff.1 takes
    simp only [step, taken] at h
    cases rejected with
    | none => cases removes
    | some session =>
      cases h
      exact Pool.perm_sessions_rejected taken
  | _ => cases takes

theorem Return.perm_sessions_of_haul {r r' : Return S} (h : r.step v p = some (p', r'))
    (takes : r.haul? v p = some haul) (removes : haul.removes = true) :
    p.sessions.Perm (haul.sessions ++ p'.sessions) := by
  cases r with
  | reach session key =>
    simp only [haul?] at takes
    split at takes <;> cases takes
    cases removes
  | release r =>
    rcases release_of_step h with ⟨outcome, rfl, -, -⟩ | ⟨u, hu, -⟩
    · cases takes
    · exact Release.perm_sessions_of_haul hu takes removes
  | close | done => cases takes

theorem Heartbeat.perm_sessions_of_haul {b b' : Heartbeat S} (h : b.step v p = some (p', b'))
    (takes : b.haul? v p = some haul) : p.sessions.Perm (haul.sessions ++ p'.sessions) := by
  cases b with
  | settle verdicts =>
    cases h
    cases takes
    exact Pool.perm_sessions_endProbes verdicts
  | _ => cases takes

namespace Interleaving

/-- The sessions that a section takes out of the pool were in the pool, and are in it no more. -/
theorem Task.perm_sessions_of_haul {t t' : Task S} (h : t.step v p = some (p', t'))
    (takes : t.haul? v p = some haul) (removes : haul.removes = true) :
    p.sessions.Perm (haul.sessions ++ p'.sessions) := by
  cases t with
  | giveBack kept r =>
    obtain ⟨u, hu, -⟩ := exists_of_map_step h
    exact Return.perm_sessions_of_haul hu takes removes
  | transfer t =>
    obtain ⟨u, hu, -⟩ := exists_of_map_step h
    cases Transfer.steps_of_step hu with
    | giving around did => cases around <;> exact Return.perm_sessions_of_haul did takes removes
    | _ => cases takes
  | cycle b =>
    obtain ⟨u, hu, -⟩ := exists_of_map_step h
    exact Heartbeat.perm_sessions_of_haul hu takes
  | work w =>
    obtain ⟨u, hu, -⟩ := exists_of_map_step h
    cases w with
    | cycle nominal busy b =>
      rcases Worker.cycle_of_step hu with ⟨outcome, rfl, -, -⟩ | ⟨b', hb, -⟩
      · cases takes
      · exact Heartbeat.perm_sessions_of_haul hb takes
    | _ => cases takes
  | shutDown d | drop d =>
    obtain ⟨u, hu, -⟩ := exists_of_map_step h
    cases d with
    | drain =>
      cases hu
      cases takes
      exact Pool.perm_sessions_drain
    | _ => cases takes
  | acquire | surrender | resize | returned => cases takes

end Interleaving

end ConnectionPool
