import ConnectionPool.Operation

set_option autoImplicit false

/-! # Changing the cap of a pool

A new cap is written first and announced afterwards, so that acquirers who wait for a place ask
again under it. Sessions above a lowered cap stay. -/

namespace ConnectionPool

/-- The phases of changing the cap. -/
inductive Resize where
  | write (count : UInt32)
  /-- Tell the waiting ones. -/
  | announce
  | done (outcome : Outcome Error Unit)
  deriving DecidableEq, Repr

namespace Resize

variable {S : Type}

def status : Resize → Status S Resize Error Unit
  | done outcome => .ended outcome
  | _ => .running

def step (_ : View S) (p : Pool S) : Resize → Option (Pool S × Resize)
  | write count =>
    match p.setMaxConnections count with
    | .ok p => some (p, announce)
    | .error e => some (p, done (.error e))
  | announce => some (p.notify, done (.value ()))
  | done _ => none

instance : Stepwise S Resize Error Unit where
  status := status
  step := step

end Resize

end ConnectionPool
