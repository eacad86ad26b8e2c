import ConnectionPool.Operation.Acquire
import ConnectionPool.Operation.Resize
import ConnectionPool.Scenario.Awaiting
import ConnectionPool.Scenario.Keeping

set_option autoImplicit false

/-! # Steps on pools

What the steps do that name a pool: some need a pool that has its name, others work on the shared
state of a pool as long as it exists, and one makes a pool. -/

namespace ConnectionPool

namespace Scenario

namespace Program

/-- Keep the lease of a session that was acquired, if one was. -/
def keepLoan (pool : PoolId)
    (name : String) : Outcome Error (Option (Record Serial)) → Program Answer
  | .panic text => panic text
  | .error e => done (.failed e)
  | .value none => done .nothing
  | .value (some loan) => do
    keepLease name (.issue pool loan)
    done (.loan
      { key := loan.info.key
        session := loan.session
        checkouts := loan.info.checkouts
        standing := loan.info.standing
        fresh := loan.info.isFresh })

/-- Acquire a session, perhaps after some time. Whoever is ready to wait works on the pool until the
lease is kept. -/
def acquire (pool : PoolId) (name : String) (request : Acquire Serial) : Program Answer :=
  usingPool pool do keepLoan pool name (← operation pool request)

/-- Acquire a session without waiting. The work on the pool ends before the lease is kept; if that
panics, the session is given back. -/
def tryAcquire (pool : PoolId) (name : String) : Program Answer := do
  enterPool pool
  let outcome ← operation pool Acquire.impatient
  match ← attempt (leavePool pool), outcome with
  | .ok (), _ => keepLoan pool name outcome
  | .error text, .value (some loan) => do
    dropLease (.issue pool loan)
    panic text
  | .error text, _ => panic text

/-- Change a pool in one go. -/
def changePool (pool : PoolId) (f : Pool Serial → Pool Serial) : Program Answer := do
  modify (·.modifyPool pool f)
  done .done

/-- Change a pool in one go, unless the change is refused. -/
def changePool? (pool : PoolId) (f : Pool Serial → Except Error (Pool Serial)) : Program Answer :=
  update fun w =>
    match (w.sites[pool]?).map (f ·.pool) with
    | some (.ok changed) => (w.modifyPool pool fun _ => changed, .done)
    | some (.error e) => (w, .failed e)
    | none => (w, .done)

/-- Run one heartbeat cycle. -/
def cycle (pool : PoolId) (interval : Option Duration) (statement : Option String) :
    Program Answer := do
  let settings ← readSite pool fun _ s => s.pool.settings
  let report ← operation pool (Heartbeat.select (interval.getD settings.heartbeatInterval)
    (statement.getD settings.heartbeatQuery))
  return .cycle (← sure report)

/-- The numbers of a pool, read one after the other; between two of them the rosters may change. -/
def reportPool (pool : PoolId) : Program PoolReport := do
  let cap ← readSite pool fun _ s => s.pool.settings.maxConnections
  let snapshot ← readRosters pool fun _ s => s.pool.snapshot cap
  let total ← readRosters pool fun _ s => s.pool.total
  let active ← readRosters pool fun _ s => s.pool.active.size
  let idle ← readRosters pool fun _ s => s.pool.idle.size
  let heartbeats ← readSite pool fun _ s => s.pool.heartbeats
  let tally ← readSite pool fun _ s => s.pool.tally
  let closed ← readSite pool fun _ s => s.pool.closed
  return {
    snapshot
    counts := (total, active, idle)
    heartbeats
    checkoutRate := tally.checkoutRate
    heartbeatRate := tally.heartbeatRate
    closed }

/-- How the bookkeeping of a roster reads. -/
def summaries (now : Instant) (r : Roster (Record Serial)) : List Metadata.Summary :=
  r.values.map fun record => record.info.summary now

/-- A step on a pool that has its name. Those that take more than one access keep the pool from
being dropped until they have ended. -/
def onPool (pool : PoolId) : PoolCommand → Program Answer
  | .acquire name none => acquire pool name .patient
  | .acquire name (some limit) => acquire pool name (.within limit)
  | .tryAcquire name => tryAcquire pool name
  | .setMaxConnections n => usingPool pool do plain (← operation pool (Resize.write n))
  | .setAcquireTimeout d => changePool pool (·.setAcquireTimeout d)
  | .setHeartbeatInterval d => changePool pool (·.setHeartbeatInterval d)
  | .setHeartbeatQuery text => changePool? pool (·.setHeartbeatQuery text)
  | .setSource source => changePool pool (·.setSource source)
  | .resetHeartbeats => changePool pool (·.resetHeartbeats)
  | .stat => usingPool pool do return .pool (← reportPool pool)
  | .settings => readSite pool fun _ s => .settings s.pool.settings
  | .shutdown => usingPool pool do
    sure (← operation pool Shutdown.close)
    done .done
  | .drop => do
    unname pool
    done .done
  | .await condition => usingPool pool (awaitSite pool condition)

/-- A step on the shared state of a pool that exists. -/
def onState (pool : PoolId) : StateCommand → Program Answer
  | .release key => do plain (← operation pool (Release.takeBack key))
  | .detach key => do plain (← operation pool (Detach.letGo key))
  | .advance d => do
    let possible ← holding pool .exclusive fun w =>
      (w.modifyPool pool (·.aged d |>.1), (w.sites[pool]?).all (·.pool.aged d |>.2))
    if possible then done .done else panic Instant.tooEarly
  | .cycle interval statement false => cycle pool interval statement
  | .cycle interval statement true => observing pool (cycle pool interval statement)
  | .observe d => do
    observing pool (sleep d)
    done .done
  | .records =>
    readRosters pool fun w s =>
      .records (summaries w.now s.pool.idle) (summaries w.now s.pool.active)

/-- Make a pool; it replaces the one of the same name. -/
def newPool (name : String) (plan : Plan) : Program Answer := do
  match Pool.new plan.settings (← read (·.now)) with
  | .error e => done (.failed e)
  | .ok pool =>
    let site : Site :=
      { name
        pool := if plan.withSource then pool.setSource .server else pool
        server := { connectDelay := plan.connectDelay }
        preopened := plan.preopened
        live := plan.live }
    let old ← update fun w => (w.addSite site, w.poolNamed? name)
    if let some old := old then unname old
    done .done

end Program

end Scenario

end ConnectionPool
