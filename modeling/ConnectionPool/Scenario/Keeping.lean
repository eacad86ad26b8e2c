import ConnectionPool.Operation.Shutdown
import ConnectionPool.Scenario.Call

set_option autoImplicit false

/-! # Keeping and dropping

Pools and leases have owners. A pool is dropped when it has lost its name and nobody works on it any
more; whoever works on it until then keeps it. A lease belongs to the table of names, except while a
step works with it: then the step has it, and puts it back as it has become. -/

namespace ConnectionPool

namespace Scenario

namespace Program

/-- Drop a lease: its session is given back, and only a panic is noticed. -/
def dropLease (l : Lease Serial) : Program Unit := do
  match ← operation l.home l.giveBack.2 with
  | .panic text => panic text
  | _ => done ()

/-- Drop a lease if there is one. -/
def dropLease? : Option (Lease Serial) → Program Unit
  | some l => dropLease l
  | none => done ()

/-- The owner drops a pool, which shuts it down first. -/
def dropPool (pool : PoolId) : Program Unit := do
  let outcome ← operation pool Shutdown.close
  modify fun w => w.modifySite pool fun s => { s with dropped := true }
  sure outcome

/-- Begin to work on a pool. -/
def enterPool (pool : PoolId) : Program Unit :=
  modify fun w => w.modifySite pool fun s => { s with users := s.users + 1 }

/-- End the work on a pool; the last one at work drops a pool that has lost its name. -/
def leavePool (pool : PoolId) : Program Unit := do
  let last ← update fun w =>
    let w := w.modifySite pool fun s => { s with users := s.users - 1 }
    (w, (w.sites[pool]?).any fun s => s.users == 0 && !s.named && !s.dropped)
  if last then dropPool pool

/-- Do something, and something else afterwards, also if the first has panicked. -/
def ensuring {β : Type} (work : Program β) (after : Program Unit) : Program β := do
  let result ← attempt work
  after
  match result with
  | .ok b => done b
  | .error text => panic text

/-- Work on a pool, which its owner does not drop meanwhile. -/
def usingPool {β : Type} (pool : PoolId) (work : Program β) : Program β := do
  enterPool pool
  ensuring work (leavePool pool)

/-- Work on the shared state of a pool, which does not cease to exist meanwhile. -/
def usingState {β : Type} (pool : PoolId) (work : Program β) : Program β := do
  modify fun w => w.modifySite pool fun s => { s with keepers := s.keepers + 1 }
  ensuring work (modify fun w => w.modifySite pool fun s => { s with keepers := s.keepers - 1 })

/-- Take the name from a pool, which drops it unless somebody is at work on it. -/
def unname (pool : PoolId) : Program Unit :=
  usingPool pool (modify fun w => w.modifySite pool fun s => { s with named := false })

/-- Put a lease into the table and drop the one that it replaces. -/
def keepLease (name : String) (l : Lease Serial) : Program Unit := do
  dropLease? (← update fun w => w.putLease name l)

/-- Do something with a lease while it is out of the table, and put it back as it has become. -/
def borrowing (name : String) (l : Lease Serial) (work : Program Answer) : Program Answer :=
  ensuring work (keepLease name l)

/-- Hold the rosters of a pool still during some work. -/
def observing {β : Type} (pool : PoolId) (work : Program β) : Program β := do
  holding pool .shared fun w => (w.modifySite pool fun s => { s with gate := s.gate.observe }, ())
  ensuring work (modify fun w => w.modifySite pool fun s => { s with gate := s.gate.release })

/-! ## Looking and answering -/

/-- Look at a pool. -/
def readSite {β : Type} [Inhabited β] (pool : PoolId) (f : World → Site → β) : Program β :=
  read fun w => ((w.sites[pool]?).map (f w)).getD default

/-- Look at the rosters of a pool. -/
def readRosters {β : Type} [Inhabited β] (pool : PoolId) (f : World → Site → β) : Program β :=
  holding pool .shared fun w => (w, ((w.sites[pool]?).map (f w)).getD default)

/-- The answer to something that only succeeds or fails. -/
def plain : Outcome Error Unit → Program Answer
  | .value _ => done .done
  | .error e => done (.failed e)
  | .panic text => panic text

end Program

end Scenario

end ConnectionPool
