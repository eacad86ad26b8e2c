import ConnectionPool.Operation

set_option autoImplicit false

/-! # Shutting a pool down

The first shutdown of a pool closes it, stops the heartbeat worker, wakes all waiting acquirers,
closes the idle sessions and then waits, looking from time to time, until no session is borrowed and
none is being made, or until its patience ends. Every other shutdown only waits until the first one
has run to its end. A worker that shuts its own pool down would have to wait for itself; it panics
instead, and all that follows is left undone. -/

namespace ConnectionPool

/-- The phases of a shutdown. -/
inductive Shutdown (S : Type) where
  /-- Close the pool, and see whether it was closed already. -/
  | close
  /-- Wait for the end of the first shutdown. -/
  | awaitFirst
  /-- Tell the worker to stop. -/
  | stopWorker
  /-- Wait until the worker has stopped. -/
  | awaitWorker
  /-- Tell the waiting ones. -/
  | announce
  /-- Take the idle sessions. -/
  | drain
  /-- Close the idle sessions in turn. -/
  | closeIdle (count : Nat) (todo : List S)
  | count (closed : Nat)
  /-- Read how to wait, and look at the clock. -/
  | readPauses
  /-- Look whether anything is outstanding. -/
  | look (since : Instant) (pause : Duration) (limit : Option Duration)
  | asleep (until? : Option Instant) (since : Instant) (pause : Duration) (limit : Option Duration)
  /-- Let the other shutdowns go on. -/
  | finish
  | done (outcome : Outcome Empty Unit)
  deriving DecidableEq, Repr

namespace Shutdown

variable {S : Type}

def status : Shutdown S → Status S (Shutdown S) Empty Unit
  | closeIdle n (session :: todo) => .closing session fun
    | .value _ => closeIdle n todo
    | .panic text => done (.panic text)
  | done outcome => .ended outcome
  | _ => .running

def step (v : View S) (p : Pool S) : Shutdown S → Option (Pool S × Shutdown S)
  | close => some (p.close, if p.closed then awaitFirst else stopWorker)
  | awaitFirst => if p.drained then some (p, done (.value ())) else none
  | stopWorker => some ({ p with stopRequested := true }, awaitWorker)
  | awaitWorker =>
    if v.byWorker then some (p, done (.panic deadlock))
    else if p.workerStopped then some (p, announce)
    else none
  | announce => some (p.notify, drain)
  | drain =>
    let (p, sessions) := p.drain
    some (p, closeIdle sessions.length sessions)
  | closeIdle n [] => some (p, count n)
  | count n => some (p.count fun t => { t with closed := t.closed + .ofNat n }, readPauses)
  | readPauses => some (p, look v.now p.settings.shutdownPoll p.settings.shutdownTimeout)
  | look since pause limit =>
    some (p,
      if p.outstanding = 0 then finish
      else if limit.any (· ≤ v.now.since since) then finish
      else asleep (v.now.after? pause) since pause limit)
  | asleep until? since pause limit =>
    if until?.any (· ≤ v.now) then some (p, look since pause limit) else none
  | finish => some ({ p with drained := true }, done (.value ()))
  | closeIdle _ (_ :: _) | done _ => none

/-- Taking the idle sessions is a section, and so is a look at what is outstanding. -/
def hold : Shutdown S → Hold
  | drain => .exclusive
  | look _ _ _ => .shared
  | _ => .nothing

/-- A pause ends by itself. -/
def wake? : Shutdown S → Option Instant
  | asleep until? _ _ _ => until?
  | _ => none

@[default_instance]
instance : Stepwise S (Shutdown S) Empty Unit where
  status := status
  step := step
  hold := hold
  wake? := wake?

end Shutdown

end ConnectionPool
