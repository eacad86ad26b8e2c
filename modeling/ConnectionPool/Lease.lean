import ConnectionPool.Operation.Release

set_option autoImplicit false

/-! # Leases

A lease is what a caller holds of a session: the session itself until it is given back, and a copy
of its bookkeeping from the moment it was lent. A lease knows the pool that issued it without
keeping it: if the pool is gone by the time the session is given back, the session is closed
instead.

Giving back empties the lease before anything is done to the pool (`Lease.giveBack`), so a session
is settled once, however often its lease is released and dropped. A lease can also take over the
session of another one from the same pool (`Transfer`), and a session can be taken out of lease and
pool alike (`Surrender`). -/

namespace ConnectionPool

/-- The number by which pools are told apart. -/
abbrev PoolId := Nat

/-- A caller's hold on a session. -/
structure Lease (S : Type) where
  /-- The pool that issued the lease. -/
  home : PoolId
  /-- The session, until it is given back. -/
  session : Option S
  /-- The bookkeeping of the session when it was lent. -/
  info : Metadata
  deriving DecidableEq, Repr, Inhabited

/-! ## Giving back -/

/-- The phases of giving back a session that a lease held. -/
inductive Return (S : Type) where
  /-- Reach for the pool. -/
  | reach (session : S) (key : SessionKey)
  /-- The pool is there: give the session back to it. -/
  | release (release : Release S)
  /-- The pool is gone. -/
  | close (session : S)
  | done (outcome : Outcome Error Unit)
  deriving DecidableEq, Repr

namespace Return

variable {S : Type}

def status : Return S → Status S (Return S) Error Unit
  | release r => r.status.embed release fun _ => .running
  | close session => .closing session fun
    | .value _ => done (.value ())
    | .panic text => done (.panic text)
  | done outcome => .ended outcome
  | _ => .running

def holdsPool : Return S → Bool
  | release _ => true
  | _ => false

def step (v : View S) (p : Pool S) : Return S → Option (Pool S × Return S)
  | reach session key => some (p, if v.alive then release (.takeBack key) else close session)
  | release (.done outcome) => some (p, done outcome)
  | release r => (r.step v p).map fun (p, r) => (p, release r)
  | close _ | done _ => none

/-- The sections are those of the release. -/
def hold : Return S → Hold
  | release r => r.hold
  | _ => .nothing

@[default_instance]
instance : Stepwise S (Return S) Error Unit where
  status := status
  step := step
  hold := hold
  holdsPool := holdsPool

end Return

namespace Lease

variable {S : Type}

/-- The lease of a session that a pool has just lent. -/
def issue (home : PoolId) (loan : Record S) : Lease S := ⟨home, some loan.session, loan.info⟩

/-- Whether the session was given back. -/
def isReleased (l : Lease S) : Bool := l.session.isNone

/-- The session, unless it was given back. -/
def get (l : Lease S) : Except Error S :=
  match l.session with
  | some session => .ok session
  | none => .error .spentLease

/-- Empty the lease; what remains to be done is to give the session back. -/
def giveBack (l : Lease S) : Lease S × Return S :=
  ({ l with session := none },
    match l.session with
    | some session => .reach session l.info.key
    | none => .done (.value ()))

/-- The lease as a record of its kind. -/
def debug (l : Lease S) : String :=
  "PooledSession \x7b id: " ++ l.info.key.debug ++ ", released: " ++
    toString l.isReleased ++ ", .. \x7d"

theorem isReleased_giveBack (l : Lease S) : l.giveBack.1.isReleased = true := rfl

/-- Giving back a second time does nothing. -/
theorem giveBack_of_isReleased {l : Lease S} (h : l.isReleased = true) :
    l.giveBack = (l, .done (.value ())) := by
  obtain ⟨home, session, info⟩ := l
  cases session <;> simp_all [isReleased, giveBack]

end Lease

/-! ## Moving a session from one lease to another -/

/-- The phases of moving the session of one lease into another. All that is done to a pool is done
to the home of the lease that the session comes from. -/
inductive Transfer (S : Type) where
  /-- The leases are from one pool: the session of the target is given back first. Until that is
  done the target is empty and shows the bookkeeping of what it held. -/
  | replace (old : Metadata) (source : Lease S) (giving : Return S)
  /-- They are not: the target stays as it is, and the source goes home. -/
  | refuse (target : Lease S) (giving : Return S)
  /-- Giving back has panicked: the source is dropped on the way out. -/
  | abandon (target : Lease S) (text : String) (giving : Return S)
  | done (target : Lease S) (outcome : Outcome Error Unit)
  deriving DecidableEq, Repr

namespace Transfer

variable {S : Type}

/-- Begin to move the session of `source` into `target`. -/
def start (target source : Lease S) : Transfer S :=
  if target.home = source.home then replace target.info source target.giveBack.2
  else refuse target source.giveBack.2

/-- What the operation is up to. It ends with the target as it has become. -/
def status : Transfer S → Status S (Transfer S) Empty (Lease S × Outcome Error Unit)
  | replace old source giving => giving.status.embed (replace old source) fun _ => .running
  | refuse target giving => giving.status.embed (refuse target) fun _ => .running
  | abandon target text giving => giving.status.embed (abandon target text) fun _ => .running
  | done target outcome => .ended (.value (target, outcome))

/-- What follows once the target's session is given back: the target becomes what the source was,
and dropping the emptied source does nothing more. -/
def afterReplace (old : Metadata) (source : Lease S) : Outcome Error Unit → Transfer S
  | .panic text => abandon ⟨source.home, none, old⟩ text source.giveBack.2
  | outcome => done source outcome

/-- What follows once the source has gone home. How that went is nobody's concern, unless it
panicked. -/
def afterRefuse (target : Lease S) : Outcome Error Unit → Transfer S
  | .panic text => done target (.panic text)
  | _ => done target (.error .foreignLease)

def holdsPool : Transfer S → Bool
  | replace _ _ giving | refuse _ giving | abandon _ _ giving => giving.holdsPool
  | done _ _ => false

def step (v : View S) (p : Pool S) : Transfer S → Option (Pool S × Transfer S)
  | replace old source (.done outcome) => some (p, afterReplace old source outcome)
  | refuse target (.done outcome) => some (p, afterRefuse target outcome)
  | abandon target text (.done _) => some (p, done target (.panic text))
  | replace old source giving =>
    (giving.step v p).map fun (p, giving) => (p, replace old source giving)
  | refuse target giving => (giving.step v p).map fun (p, giving) => (p, refuse target giving)
  | abandon target text giving =>
    (giving.step v p).map fun (p, giving) => (p, abandon target text giving)
  | done _ _ => none

/-- The sections are those of giving back. -/
def hold : Transfer S → Hold
  | replace _ _ giving | refuse _ giving | abandon _ _ giving => giving.hold
  | done _ _ => .nothing

@[default_instance]
instance : Stepwise S (Transfer S) Empty (Lease S × Outcome Error Unit) where
  status := status
  step := step
  hold := hold
  holdsPool := holdsPool

end Transfer

/-! ## Taking a session out of its lease and its pool -/

/-- The phases of taking a session out of its lease and its pool. -/
inductive Surrender (S : Type) where
  /-- Reach for the pool. -/
  | reach (session : S) (key : SessionKey)
  /-- The pool is there: let it know. -/
  | detach (session : S) (detach : Detach)
  | done (outcome : Outcome Error S)
  deriving DecidableEq, Repr

namespace Surrender

variable {S : Type}

/-- Begin to take the session out of the lease. -/
def start (l : Lease S) : Surrender S :=
  match l.session with
  | some session => reach session l.info.key
  | none => done (.error .spentLease)

def status : Surrender S → Status S (Surrender S) Error S
  | detach session d => d.status.embed (detach session) fun _ => .running
  | done outcome => .ended outcome
  | _ => .running

def holdsPool : Surrender S → Bool
  | detach _ _ => true
  | _ => false

def step (v : View S) (p : Pool S) : Surrender S → Option (Pool S × Surrender S)
  | reach session key =>
    some (p, if v.alive then detach session (.letGo key) else done (.value session))
  | detach session (.done outcome) => some (p, done (outcome.map fun _ => session))
  | detach session d => (d.step v p).map fun (p, d) => (p, detach session d)
  | done _ => none

/-- The sections are those of the detachment. -/
def hold : Surrender S → Hold
  | detach _ d => d.hold
  | _ => .nothing

@[default_instance]
instance : Stepwise S (Surrender S) Error S where
  status := status
  step := step
  hold := hold
  holdsPool := holdsPool

end Surrender

end ConnectionPool
