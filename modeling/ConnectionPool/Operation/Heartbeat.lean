import ConnectionPool.Operation

set_option autoImplicit false

/-! # Heartbeats

A heartbeat cycle probes the idle sessions that were left alone for longer than the interval. It
marks them in one locked section, queries them one after the other with nothing locked, and settles
the verdicts in another locked section: healthy sessions may be lent again, the others are thrown
out and closed. A cycle that finds the rosters held, or somebody waiting for them, does nothing.

The heartbeat worker of a pool runs one cycle after the other with a pause between them, a shorter
one after a cycle that found the pool busy. It stops when it is told to, when the pool is closed or
gone, or when a cycle breaks off. -/

namespace ConnectionPool

/-! ## One cycle -/

/-- What a heartbeat cycle did. -/
inductive CycleReport where
  /-- Heartbeats are off. -/
  | disabled
  /-- The rosters were held; nothing was probed. -/
  | busy
  /-- Some sessions were probed, and those that failed were thrown out. -/
  | completed (probed evicted : Nat)
  deriving DecidableEq, Repr, Inhabited

/-- The phases of a heartbeat cycle. -/
inductive Heartbeat (S : Type) where
  /-- Mark the sessions that are due. -/
  | select (interval : Duration) (statement : String)
  /-- Query the marked sessions in turn. -/
  | probe (statement : String) (todo : List (SessionKey × S))
      (verdicts : List (SessionKey × Verdict))
  /-- Count the healthy ones among the remaining verdicts, one at a time. -/
  | credit (todo verdicts : List (SessionKey × Verdict))
  /-- Settle the verdicts. -/
  | settle (verdicts : List (SessionKey × Verdict))
  /-- Close the sessions that were thrown out, in turn. -/
  | evict (verdicts : List (SessionKey × Verdict)) (evicted : Nat) (todo : List S)
  | count (verdicts : List (SessionKey × Verdict)) (evicted : Nat)
  /-- Tell the waiting ones. -/
  | announce (probed evicted : Nat)
  | done (outcome : Outcome Empty CycleReport)
  deriving DecidableEq, Repr

namespace Heartbeat

variable {S : Type}

/-- The verdict on a session whose query ended as given; a query that panics has failed. -/
def verdict : Outcome Cause Unit → Verdict
  | .value _ => .healthy
  | .error cause => .failed cause.message
  | .panic _ => .failed "heartbeat probe panicked"

/-- The number of failures among the verdicts. -/
def failures (verdicts : List (SessionKey × Verdict)) : Nat :=
  verdicts.countP fun v => !v.2.isHealthy

def status : Heartbeat S → Status S (Heartbeat S) Empty CycleReport
  | probe statement ((key, session) :: todo) verdicts =>
    .querying session statement fun o => probe statement todo (verdicts ++ [(key, verdict o)])
  | evict verdicts evicted (session :: todo) => .closing session fun
    | .value _ => evict verdicts evicted todo
    | .panic text => done (.panic text)
  | done outcome => .ended outcome
  | _ => .running

def step (v : View S) (p : Pool S) : Heartbeat S → Option (Pool S × Heartbeat S)
  | select interval statement =>
    if interval.isZero then some (p, done (.value .disabled))
    else if v.contended then some (p, done (.value .busy))
    else
      let (p, due) := p.beginProbes interval v.now
      some (p, if due.isEmpty then done (.value (.completed 0 0)) else probe statement due [])
  | probe _ [] verdicts => some (p, credit verdicts verdicts)
  | credit ((_, verdict) :: todo) verdicts =>
    some (if verdict.isHealthy then { p with heartbeats := p.heartbeats + 1 } else p,
      credit todo verdicts)
  | credit [] verdicts => some (p, settle verdicts)
  | settle verdicts =>
    let (p, thrown) := p.endProbes verdicts v.now
    some (p, evict verdicts thrown.length thrown)
  | evict verdicts evicted [] => some (p, count verdicts evicted)
  | count verdicts evicted =>
    some (p.count fun t => { t with
        probes := t.probes + .ofNat verdicts.length
        probeFailures := t.probeFailures + .ofNat (failures verdicts)
        evictions := t.evictions + .ofNat evicted
        closed := t.closed + .ofNat evicted },
      announce verdicts.length evicted)
  | announce probed evicted => some (p.notify, done (.value (.completed probed evicted)))
  | probe _ (_ :: _) _ | evict _ _ (_ :: _) | done _ => none

/-- Settling the verdicts is a section. Marking the sessions is one as well, but it is not waited
for: it is entered only while nobody is there. -/
def hold : Heartbeat S → Hold
  | settle _ => .exclusive
  | _ => .nothing

@[default_instance]
instance : Stepwise S (Heartbeat S) Empty CycleReport where
  status := status
  step := step
  hold := hold

end Heartbeat

/-! ## The worker -/

/-- The phases of a heartbeat worker. It does not keep its pool alive, and only reaches for it
between two pauses (`reach`). -/
inductive Worker (S : Type) where
  /-- Reach for the pool for the first time, to learn how long to pause. -/
  | start
  /-- Look whether to stop; else pause. -/
  | pause (length : Duration)
  /-- Wait until the pause is over, or to be told to stop. -/
  | asleep (until? : Option Instant)
  /-- Reach for the pool. -/
  | reach
  | checkOpen
  | readSettings
  /-- Run a cycle; the pauses that may follow are known already. -/
  | cycle (nominal busy : Duration) (heartbeat : Heartbeat S)
  /-- Stop. -/
  | stop
  | done
  deriving DecidableEq, Repr

namespace Worker

variable {S : Type}

/-- The pause that follows a cycle. -/
def nextPause (nominal busy : Duration) : CycleReport → Duration
  | .busy => busy
  | .disabled | .completed _ _ => nominal

/-- What follows the end of a cycle. -/
def afterCycle (nominal busy : Duration) : Outcome Empty CycleReport → Worker S
  | .value report => pause (nextPause nominal busy report)
  | .panic _ => stop

def status : Worker S → Status S (Worker S) Empty Unit
  | cycle nominal busy heartbeat => heartbeat.status.embed (cycle nominal busy) fun _ => .running
  | done => .ended (.value ())
  | _ => .running

def holdsPool : Worker S → Bool
  | checkOpen | readSettings | cycle _ _ _ => true
  | _ => false

def step (v : View S) (p : Pool S) : Worker S → Option (Pool S × Worker S)
  | start => some (p, if v.alive then pause p.settings.heartbeatTick else stop)
  | pause length => some (p, if p.stopRequested then stop else asleep (v.now.after? length))
  | asleep until? =>
    if p.stopRequested then some (p, stop)
    else if until?.any (· ≤ v.now) then some (p, reach)
    else none
  | reach => some (p, if v.alive then checkOpen else stop)
  | checkOpen => some (p, if p.closed then stop else readSettings)
  | readSettings =>
    some (p, cycle p.settings.heartbeatTick p.settings.busyTick
      (.select p.settings.heartbeatInterval p.settings.heartbeatQuery))
  | cycle nominal busy (.done outcome) => some (p, afterCycle nominal busy outcome)
  | cycle nominal busy heartbeat =>
    (heartbeat.step v p).map fun (p, heartbeat) => (p, cycle nominal busy heartbeat)
  | stop => some ({ p with workerStopped := true }, done)
  | done => none

/-- The sections are those of the cycle. -/
def hold : Worker S → Hold
  | cycle _ _ heartbeat => heartbeat.hold
  | _ => .nothing

/-- A pause ends by itself. -/
def wake? : Worker S → Option Instant
  | asleep until? => until?
  | _ => none

@[default_instance]
instance : Stepwise S (Worker S) Empty Unit where
  status := status
  step := step
  hold := hold
  wake? := wake?
  holdsPool := holdsPool

end Worker

end ConnectionPool
