import ConnectionPool.Pool

set_option autoImplicit false

/-! # Steps of a scenario

A scenario is a list of steps over pools, leases, detached sessions and threads, all known by names.
Pools are for simulated servers. A step may queue a hook: steps of its own that are taken inside a
call to the server, on the thread that makes the call. -/

namespace ConnectionPool

namespace Scenario

/-- A kind of call to a server. -/
inductive Moment where
  | create
  | connect
  | disconnect
  | execute
  deriving DecidableEq, Repr, Inhabited

/-- How a pool of a scenario is made. -/
structure Plan where
  changes : List Settings.Change := []
  /-- Whether the pool knows at once where sessions come from. -/
  withSource : Bool := true
  /-- Whether the server hands out sessions that are open already. -/
  preopened : Bool := false
  /-- How long the server takes to make a session. -/
  connectDelay : Duration := .zero
  deriving Repr

namespace Plan

/-- Whether a change sets the pauses of the heartbeat worker. -/
def setsTicks : Settings.Change → Bool
  | .heartbeatTicks _ _ => true
  | _ => false

/-- Whether the heartbeat worker of the pool is to be seen at work. -/
def live (p : Plan) : Bool := p.changes.any setsTicks

/-- The settings of the pool. Unless its worker is to be seen at work, the pauses of the worker are
longer than any scenario. -/
def settings (p : Plan) : Settings :=
  let settings := Settings.ofChanges p.changes
  if p.live then settings
  else settings.change (.heartbeatTicks (.ofSeconds 3600) (.ofSeconds 3600))

end Plan

/-- Something that may be waited for at a pool or its server. -/
inductive Condition where
  /-- At least so many successful probes. -/
  | heartbeats (n : Nat)
  /-- Exactly so many idle sessions. -/
  | idle (n : Nat)
  /-- Exactly so many sessions. -/
  | total (n : Nat)
  /-- At least so many evictions. -/
  | evictions (n : Nat)
  /-- Whether the pool is closed, as a number. -/
  | closed (n : Nat)
  /-- At least so many requests for a session. -/
  | attempts (n : Nat)
  /-- The statement was given to the session at least so often. -/
  | statement (session : Serial) (text : String) (n : Nat)
  /-- Whether the session is executing a statement, as a number. -/
  | querying (session : Serial) (n : Nat)
  deriving Repr

/-- What can be done with a pool that has its name. -/
inductive PoolCommand where
  /-- Acquire a session, waiting as long as given or as the settings say. -/
  | acquire (lease : String) (timeout : Option Duration)
  /-- Acquire a session without waiting. -/
  | tryAcquire (lease : String)
  | setMaxConnections (count : UInt32)
  | setAcquireTimeout (d : Duration)
  | setHeartbeatInterval (d : Duration)
  | setHeartbeatQuery (text : String)
  | setSource (source : Source)
  | resetHeartbeats
  | stat
  | settings
  | shutdown
  | drop
  | await (condition : Condition)
  deriving Repr

/-- What can be done with the shared state of a pool, as long as it exists. -/
inductive StateCommand where
  /-- Give back a session by its key, without a lease. -/
  | release (key : SessionKey)
  /-- Detach a session by its key, without a lease. -/
  | detach (key : SessionKey)
  /-- Put the stamps of all sessions in the pool back. -/
  | advance (by_ : Duration)
  /-- Run one heartbeat cycle, with the settings of the pool where nothing else is given, and
  observing the rosters meanwhile if so wished. -/
  | cycle (interval : Option Duration) (statement : Option String) (busy : Bool)
  /-- Observe the rosters for some time. -/
  | observe (time : Duration)
  | records
  deriving Repr

/-- What can be done with the server of a pool, whether or not the pool still exists. -/
inductive ServerCommand where
  | kill (session : Serial)
  | failQueries (session : Serial) (fail : Bool)
  | queryDelay (session : Serial) (d : Duration)
  /-- Refuse exactly so many further requests for a session. -/
  | refuseNext (count : UInt32)
  /-- Refuse to open a session so many times. -/
  | refuseOpens (count : Nat)
  | preopened (value : Bool)
  | inspect (session : Serial)
  | countOf (session : Serial) (text : String)
  deriving Repr

/-- What can be done with a lease. -/
inductive LeaseCommand where
  | release
  | drop
  | execute (statement : String)
  | disconnect
  | connect
  | inspect
  | detach
  /-- Take over the session of another lease. -/
  | assign (source : String)
  deriving Repr

/-- One step of a scenario. -/
inductive Step where
  | new (pool : String) (plan : Plan)
  | onPool (pool : String) (command : PoolCommand)
  | onState (pool : String) (command : StateCommand)
  | onServer (pool : String) (command : ServerCommand)
  /-- Queue a hook for the next call of the kind to the session; it may end with a panic. -/
  | hook (pool : String) (moment : Moment) (session : Serial) (steps : List Step)
      (panic : Option String)
  | onLease (lease : String) (command : LeaseCommand)
  /-- Look at a detached session, or close it first. -/
  | detached (name : String) (close : Bool)
  /-- Take a step in a thread of its own. -/
  | spawn (thread : String) (step : Step)
  /-- Whether a thread has ended, after a while. -/
  | finished (thread : String)
  | join (thread : String)
  deriving Inhabited

end Scenario

end ConnectionPool
