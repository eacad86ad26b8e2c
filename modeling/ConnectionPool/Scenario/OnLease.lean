import ConnectionPool.Scenario.Keeping

set_option autoImplicit false

/-! # Steps on leases

What the steps do that name a lease, or a session that was detached. -/

namespace ConnectionPool

namespace Scenario

namespace Program

/-- The answer to a call on a session. -/
def sessionAnswer : Outcome Cause Unit → Program Answer
  | .value _ => done .done
  | .error cause => done (.sessionFailed cause.message)
  | .panic text => panic text

/-- Do something with the session of a lease, unless it was given back. -/
def withSession (l : Lease Serial) (work : Serial → Program Answer) : Program Answer :=
  match l.get with
  | .ok session => work session
  | .error e => done (.failed e)

/-- A lease as it looks. -/
def leaseReport (w : World) (l : Lease Serial) : LeaseReport :=
  { key := l.info.key
    released := l.isReleased
    session := l.get.map fun session => (session, w.connected l.home session)
    info := l.info.summary w.now
    debug := l.debug }

/-- Give back the session of a lease; the lease stays. -/
def releaseLease (name : String) (l : Lease Serial) : Program Answer :=
  borrowing name l.giveBack.1 do plain (← operation l.home l.giveBack.2)

/-- Take the session of a lease out of its pool and keep it under the name of the lease. -/
def detachLease (name : String) (l : Lease Serial) : Program Answer := do
  match ← operation l.home (Surrender.start l) with
  | .panic text => panic text
  | .error e => done (.failed e)
  | .value session =>
    update fun w =>
      ({ w with detached := w.detached.insert name (l.home, session) },
        .detached session (w.connected l.home session))

/-- Move the session of one lease into another. -/
def assignLease (name : String) (target : Lease Serial) (sourceName : String) : Program Answer := do
  match ← update fun w => w.takeLease sourceName with
  | none => borrowing name target (done (.missing .lease sourceName))
  | some source =>
    let (target, outcome) ← sure (← operation source.home (Transfer.start target source))
    borrowing name target (plain outcome)

/-- A step on a lease that was taken from the table. -/
def onLease (name : String) (l : Lease Serial) : LeaseCommand → Program Answer
  | .release => releaseLease name l
  | .drop => do
    dropLease l
    done .done
  | .execute statement =>
    borrowing name l (withSession l fun session => do
      sessionAnswer (← execute l.home session statement))
  | .disconnect =>
    borrowing name l (withSession l fun session => do
      sure (← disconnect l.home session)
      done .done)
  | .connect =>
    borrowing name l (withSession l fun session => do
      sessionAnswer (← connect l.home session))
  | .inspect => borrowing name l (read fun w => .lease (leaseReport w l))
  | .detach => detachLease name l
  | .assign source => assignLease name l source

/-- Look at a detached session, or close it first. -/
def lookDetached (name : String) (close : Bool) : Program Answer := do
  match ← read (·.detached[name]?) with
  | none => done (.missing .detached name)
  | some (pool, session) =>
    if close then sure (← disconnect pool session)
    read fun w => .detached session (w.connected pool session)

end Program

end Scenario

end ConnectionPool
