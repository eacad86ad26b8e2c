import ConnectionPool.Outcome
import ConnectionPool.Pool

set_option autoImplicit false

/-! # Operations on a pool

An operation is what one caller does to a pool, cut into steps that nobody else's steps can come
between. It is a value: the phase it has reached, together with what it remembers. In some phases it
is the operation's turn (`Status.running`), and `Stepwise.step` says what its next step does; it
does nothing while the operation has to wait. In others the operation waits for the answer of a call
to the world outside the pool, which may take any time and may do anything to the pool meanwhile.

Some steps are sections: they read or change the rosters, which callers hold together or alone. What
a step needs is told by `Stepwise.hold`; whoever lets operations take their steps sees to it that a
section is only entered while the rosters may be held that way.

How an operation ends is an `Outcome`: a panic of a session or a source goes through the operation
to its caller. -/

namespace ConnectionPool

/-- What an operation can see of the world while it takes a step. -/
structure View (S : Type) where
  /-- The reading of the clock. -/
  now : Instant
  /-- Which sessions are connected. -/
  connected : S → Bool
  /-- Whether the pool still exists: its owner keeps it, or somebody at work on it does. Leases and
  the heartbeat worker know their pool without keeping it. -/
  alive : Bool
  /-- Whether somebody else holds the rosters or waits for them. Only those who do not want to wait
  look at it. -/
  contended : Bool
  /-- Whether the pool's own heartbeat worker takes the step, because a session that it probes or
  closes reaches back to the pool. -/
  byWorker : Bool

/-- The panic of a thread that is to wait for its own end. -/
def deadlock : String := "failed to join thread: Resource deadlock avoided (os error 35)"

/-- How a step holds the rosters of its pool. -/
inductive Hold where
  /-- Not at all. -/
  | nothing
  /-- Together with others who only read them. -/
  | shared
  /-- Alone. -/
  | exclusive
  deriving DecidableEq, Repr

/-- What an operation in a phase of type `τ` is up to. A call to the world outside comes with the
phase that follows each answer. -/
inductive Status (S τ ε α : Type) where
  /-- It is the operation's turn. -/
  | running
  /-- The source is asked for a session. -/
  | creating (source : Source) (next : Outcome Cause S → τ)
  /-- A session is opened. -/
  | opening (session : S) (next : Outcome Cause Unit → τ)
  /-- A session executes a statement. -/
  | querying (session : S) (statement : String) (next : Outcome Cause Unit → τ)
  /-- A session is closed, which cannot fail. -/
  | closing (session : S) (next : Outcome Empty Unit → τ)
  /-- The operation has ended. -/
  | ended (outcome : Outcome ε α)

/-- The status of an operation that is part of a greater one. -/
def Status.embed {S τ σ ε ε' α α' : Type} (inside : τ → σ)
    (finish : Outcome ε α → Status S σ ε' α') :
    Status S τ ε α → Status S σ ε' α'
  | .running => .running
  | .creating source next => .creating source fun o => inside (next o)
  | .opening session next => .opening session fun o => inside (next o)
  | .querying session statement next => .querying session statement fun o => inside (next o)
  | .closing session next => .closing session fun o => inside (next o)
  | .ended outcome => finish outcome

/-- The phases of an operation on a pool of sessions of type `S`: what it is up to, its own steps,
and when an operation that has to wait wants to look again at the latest. -/
class Stepwise (S τ : Type) (ε α : outParam Type) where
  status : τ → Status S τ ε α
  /-- The next step of a running operation; nothing while it has to wait. -/
  step : View S → Pool S → τ → Option (Pool S × τ)
  /-- How the next step holds the rosters. -/
  hold : τ → Hold := fun _ => .nothing
  /-- When a waiting operation goes on at the latest. -/
  wake? : τ → Option Instant := fun _ => none
  /-- Whether the operation keeps its pool in existence. -/
  holdsPool : τ → Bool := fun _ => false

end ConnectionPool
