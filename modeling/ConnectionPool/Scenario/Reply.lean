import ConnectionPool.Operation.Heartbeat
import ConnectionPool.Scenario.Step
import ConnectionPool.Server

set_option autoImplicit false

/-! # Replies to the steps of a scenario

Each step has an answer. Its reply also tells which hooks ran during the step and what the pools
look like after it. At its end a scenario tells what has become of each pool and of its server. -/

namespace ConnectionPool

namespace Scenario

/-- A lease as it was handed out. -/
structure Loan where
  key : SessionKey
  session : Serial
  checkouts : UInt64
  standing : Standing
  /-- Whether the session was made for this loan. -/
  fresh : Bool
  deriving Repr

/-- A lease as it looks. -/
structure LeaseReport where
  key : SessionKey
  released : Bool
  /-- The session and whether it is connected. -/
  session : Except Error (Serial × Bool)
  info : Metadata.Summary
  debug : String

/-- The numbers of a pool. -/
structure PoolReport where
  snapshot : Snapshot
  /-- All sessions, the active ones and the idle ones. -/
  counts : Nat × Nat × Nat
  heartbeats : UInt64
  checkoutRate : Float
  heartbeatRate : Float
  closed : Bool

/-- A pool as it looks from a distance. -/
structure PoolSight where
  snapshot : Snapshot
  closed : Bool
  tally : Tally

/-- The kinds of things that a step may name. -/
inductive Kind where
  | pool
  | lease
  | detached
  | session
  | thread
  deriving DecidableEq, Repr

/-- The word for a kind of thing. -/
def Kind.word : Kind → String
  | pool => "pool"
  | lease => "guard"
  | detached => "detached session"
  | session => "session"
  | thread => "thread"

mutual

/-- The answer to a step. -/
inductive Answer where
  | done
  | nothing
  | flag (b : Bool)
  | count (n : Nat)
  | loan (loan : Loan)
  | lease (report : LeaseReport)
  /-- A session outside any pool, and whether it is connected. -/
  | detached (session : Serial) (connected : Bool)
  | cycle (report : CycleReport)
  | pool (report : PoolReport)
  | settings (settings : Settings)
  | records (idle active : List Metadata.Summary)
  | session (session : ServerSession)
  /-- The reply to the step of a thread. -/
  | reply (reply : Reply)
  | failed (e : Error)
  /-- A session failed. -/
  | sessionFailed (text : String)
  | panicked (text : String)
  /-- The step names something that does not exist. -/
  | missing (kind : Kind) (name : String)

/-- The reply to a step. The pools are told only while no thread is under way. -/
inductive Reply where
  | mk (answer : Answer) (hooks : List HookReport) (pools : Option (List (String × PoolSight)))

/-- A hook that ran during a step, with the replies to its own steps. -/
inductive HookReport where
  | mk (moment : Moment) (session : Serial) (replies : List Reply)

end

instance : Inhabited Answer := ⟨.done⟩
instance : Inhabited Reply := ⟨.mk .done [] none⟩
instance : Inhabited HookReport := ⟨.mk .create 0 []⟩

/-- A call to a server. -/
inductive Event where
  | create
  | connect (session : Serial)
  | disconnect (session : Serial)
  | execute (session : Serial) (statement : String)
  deriving DecidableEq, Repr

/-- What has become of a pool and its server. -/
structure Ending where
  /-- The tally of the pool, if it was still there and its worker was not at work. -/
  tally : Option Tally
  attempts : UInt32
  sessions : List ServerSession
  /-- The calls in order, if their order is certain. -/
  events : Option (List Event)

/-- All that a scenario tells. -/
structure Result where
  replies : List Reply
  endings : List (String × Ending)
  deriving Inhabited

end Scenario

end ConnectionPool
