import ConnectionPool.Operation

set_option autoImplicit false

/-! # Giving a session back, or letting it go

`Release` hands a session back to the pool it was lent by: it becomes idle again, or is closed if it
is no longer connected or the pool is closed. `Detach` takes a session out of the pool without
closing it. Both free a place, and end by telling the waiting acquirers. -/

namespace ConnectionPool

/-! ## Release -/

/-- The phases of giving a session back. -/
inductive Release (S : Type) where
  /-- Take the session back. -/
  | takeBack (key : SessionKey)
  /-- The session is not wanted any more: look whether that is because of a shutdown. -/
  | readClosed (session : S)
  | close (session : S) (closing : Bool)
  /-- Count the session that was closed; without a shutdown it was evicted. -/
  | count (closing : Bool)
  /-- Tell the waiting ones. -/
  | announce
  | done (outcome : Outcome Error Unit)
  deriving DecidableEq, Repr

namespace Release

variable {S : Type}

def status : Release S → Status S (Release S) Error Unit
  | close session closing => .closing session fun
    | .value _ => count closing
    | .panic text => done (.panic text)
  | done outcome => .ended outcome
  | _ => .running

def step (v : View S) (p : Pool S) : Release S → Option (Pool S × Release S)
  | takeBack key =>
    match p.takeBack key v.connected v.now with
    | none => some (p, done (.error (.notCheckedOut key)))
    | some (p, none) => some (p, announce)
    | some (p, some session) => some (p, readClosed session)
  | readClosed session => some (p, close session p.closed)
  | count closing =>
    some (p.count fun t => { t with
        closed := t.closed + 1, evictions := if closing then t.evictions else t.evictions + 1 },
      announce)
  | announce => some (p.notify, done (.value ()))
  | close _ _ | done _ => none

/-- Taking the session back is a section. -/
def hold : Release S → Hold
  | takeBack _ => .exclusive
  | _ => .nothing

@[default_instance]
instance : Stepwise S (Release S) Error Unit where
  status := status
  step := step
  hold := hold

end Release

/-! ## Detach -/

/-- The phases of taking a session out of the pool. -/
inductive Detach where
  | letGo (key : SessionKey)
  /-- Tell the waiting ones. -/
  | announce
  | done (outcome : Outcome Error Unit)
  deriving DecidableEq, Repr

namespace Detach

variable {S : Type}

def status : Detach → Status S Detach Error Unit
  | done outcome => .ended outcome
  | _ => .running

def step (_ : View S) (p : Pool S) : Detach → Option (Pool S × Detach)
  | letGo key =>
    match p.letGo key with
    | none => some (p, done (.error (.notCheckedOut key)))
    | some p => some (p, announce)
  | announce => some (p.notify, done (.value ()))
  | done _ => none

/-- Letting the session go is a section. -/
def hold : Detach → Hold
  | letGo _ => .exclusive
  | _ => .nothing

instance : Stepwise S Detach Error Unit where
  status := status
  step := step
  hold := hold

end Detach

end ConnectionPool
