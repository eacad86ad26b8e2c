import ConnectionPool.Operation

set_option autoImplicit false

/-! # Acquiring a session

An acquirer asks for a session until it gets one, or learns that it will get none. Each round reads
the epoch *before* it decides, so that a change made after the decision is seen as a newer epoch and
the acquirer does not wait for it in vain.

A slot that was reserved is used up by `install` or given back by `giveBack`, never both: every way
on from `readSource` leads through exactly one of them, also when the source or the session
panics. -/

namespace ConnectionPool

/-- How long an acquirer waits, and until when; there is no deadline if the clock cannot show it. -/
structure Patience where
  limit : Duration
  deadline : Option Instant
  deriving DecidableEq, Repr

/-- The phases of a request for a session. Without patience, a request that cannot be met at once is
answered with nothing. -/
inductive Acquire (S : Type) where
  /-- Read from the settings how long to wait. -/
  | readTimeout
  /-- Look at the clock. -/
  | start (limit : Option Duration)
  /-- Look whether the pool is open. -/
  | checkOpen (patience : Option Patience)
  | readEpoch (patience : Option Patience)
  | readCap (patience : Option Patience) (epoch : UInt64)
  /-- Have the request decided. -/
  | choose (patience : Option Patience) (epoch : UInt64) (cap : UInt32)
  /-- Count the idle session that was lent. -/
  | countReuse (loan : Record S)
  /-- Wait for a newer epoch. -/
  | wait (patience : Patience) (epoch : UInt64)
  /-- A slot is reserved: see what makes sessions. -/
  | readSource
  | create (source : Source)
  /-- Look whether the new session is connected already. -/
  | inspect (session : S)
  | openNew (session : S)
  /-- Draw the key of the new session and write its record. -/
  | enrol (session : S)
  /-- Put the new session into the pool. -/
  | install (loan : Record S)
  /-- Count the new session that was lent. -/
  | countNew (loan : Record S)
  /-- The pool was closed meanwhile: tell the waiting ones about the slot. -/
  | announceUnused (session : S)
  | closeUnused (session : S)
  | countUnused
  /-- Count the failure, then give back the slot if one is reserved. -/
  | countFailure (reason : Error) (slot : Bool)
  | giveBack (failure : Outcome Error Empty)
  /-- Tell the waiting ones about the slot. -/
  | announceSlot (failure : Outcome Error Empty)
  | done (outcome : Outcome Error (Option (Record S)))
  deriving DecidableEq, Repr

namespace Acquire

variable {S : Type}

/-- Ask for a session, ready to wait as long as the settings say. -/
def patient : Acquire S := .readTimeout

/-- Ask for a session, ready to wait as long as given. -/
def within (limit : Duration) : Acquire S := .start (some limit)

/-- Ask for a session, not ready to wait. -/
def impatient : Acquire S := .start none

def status : Acquire S → Status S (Acquire S) Error (Option (Record S))
  | create source => .creating source fun
    | .value session => inspect session
    | .error cause => countFailure (.creationFailed cause) true
    | .panic text => giveBack (.panic text)
  | openNew session => .opening session fun
    | .value _ => enrol session
    | .error cause => countFailure (.creationFailed cause) true
    | .panic text => giveBack (.panic text)
  | closeUnused session => .closing session fun
    | .value _ => countUnused
    | .panic text => done (.panic text)
  | done outcome => .ended outcome
  | _ => .running

/-- What follows a decision. -/
def follow (patience : Option Patience) (epoch : UInt64) : Pool.Decision S → Acquire S
  | .reuse loan => countReuse loan
  | .reserve => readSource
  | .full =>
    match patience with
    | some patience => wait patience epoch
    | none => done (.value none)

def step (v : View S) (p : Pool S) : Acquire S → Option (Pool S × Acquire S)
  | readTimeout => some (p, start (some p.settings.acquireTimeout))
  | start limit => some (p, checkOpen (limit.map fun d => ⟨d, v.now.after? d⟩))
  | checkOpen patience =>
    some (p, if p.closed then countFailure .poolClosed false else readEpoch patience)
  | readEpoch patience => some (p, readCap patience p.epoch)
  | readCap patience epoch => some (p, choose patience epoch p.settings.maxConnections)
  | choose patience epoch cap =>
    let (p, decision) := p.lend cap v.now
    some (p, follow patience epoch decision)
  | countReuse loan =>
    some (p.count fun t => { t with checkouts := t.checkouts + 1 }, done (.value (some loan)))
  | wait patience epoch =>
    if p.epoch ≠ epoch then some (p, checkOpen (some patience))
    else if patience.deadline.any (· ≤ v.now) then
      some (p, countFailure (.timedOut patience.limit) false)
    else none
  | readSource =>
    some (p, match p.source with
      | some source => create source
      | none => countFailure .noSource true)
  | inspect session => some (p, if v.connected session then enrol session else openNew session)
  | enrol session =>
    let (p, key) := p.drawKey
    some (p, install (.lent key session v.now))
  | install loan =>
    let (p, taken) := p.install loan
    some (p, if taken then countNew loan else announceUnused loan.session)
  | countNew loan =>
    some (p.count fun t => { t with created := t.created + 1, checkouts := t.checkouts + 1 },
      done (.value (some loan)))
  | announceUnused session => some (p.notify, closeUnused session)
  | countUnused =>
    some (p.count fun t => { t with
        created := t.created + 1, closed := t.closed + 1
        checkoutFailures := t.checkoutFailures + 1 },
      done (.error .poolClosed))
  | countFailure reason slot =>
    some (p.count fun t => { t with checkoutFailures := t.checkoutFailures + 1 },
      if slot then giveBack (.error reason) else done (.error reason))
  | giveBack failure => some (p.unreserve, announceSlot failure)
  | announceSlot failure => some (p.notify, done (failure.map Empty.elim))
  | create _ | openNew _ | closeUnused _ | done _ => none

/-- Deciding, putting a session into the pool and giving a slot back are sections. -/
def hold : Acquire S → Hold
  | choose _ _ _ | install _ | giveBack _ => .exclusive
  | _ => .nothing

/-- A waiting acquirer goes on at its deadline. -/
def wake? : Acquire S → Option Instant
  | wait patience _ => patience.deadline
  | _ => none

@[default_instance]
instance : Stepwise S (Acquire S) Error (Option (Record S)) where
  status := status
  step := step
  hold := hold
  wake? := wake?

end Acquire

end ConnectionPool
