import ConnectionPool.Scenario.OnLease
import ConnectionPool.Scenario.OnPool
import ConnectionPool.Scenario.OnServer
import ConnectionPool.Scenario.OnThread

set_option autoImplicit false

/-! # Performing a scenario

The program of every step, of a whole scenario, and of a thread that takes one step. Each step ends
with a reply; a panic is an answer like any other. -/

namespace ConnectionPool

namespace Scenario

namespace Program

/-- Do something with a pool that is looked up by its name. -/
def withSite (name : String) (find? : World → Option PoolId) (work : PoolId → Program Answer) :
    Program Answer := do
  match ← read find? with
  | some pool => work pool
  | none => done (.missing .pool name)

/-- Do something with the pool that has the name. -/
def withPool (name : String) (work : PoolId → Program Answer) : Program Answer :=
  withSite name (·.poolNamed? name) work

/-- Do something with the shared state of the pool that has the name or had it last. -/
def withState (name : String) (work : PoolId → Program Answer) : Program Answer :=
  withSite name (·.stateNamed? name) fun pool => usingState pool (work pool)

/-- Do something with the server of the pool that has the name or had it last. -/
def withServer (name : String) (work : PoolId → Program Answer) : Program Answer :=
  withSite name (·.names[name]?) work

/-- The program of a step. -/
def ofStep : Step → Program Answer
  | .new name plan => newPool name plan
  | .onPool name command => withPool name fun pool => onPool pool command
  | .onState name command => withState name fun pool => onState pool command
  | .onServer name command => withServer name fun pool => onServer pool command
  | .hook name moment session steps text =>
    withServer name fun pool => changeSite pool fun s =>
      { s with hooks := s.hooks ++ [{ moment, session, steps, panic := text }] }
  | .onLease name command => do
    match ← update fun w => w.takeLease name with
    | some l => onLease name l command
    | none => done (.missing .lease name)
  | .detached name close => lookDetached name close
  | .spawn name step => do
    modify (·.spawn name step)
    done .done
  | .finished name => finished name
  | .join name => join name

/-- Take a step; a panic is its answer. -/
def reply (step : Step) : Program Reply := do
  modify (·.beginStep)
  let answer ← attempt (ofStep step)
  let hooks ← update (·.endStep)
  let pools ← read (·.sights)
  done (.mk (match answer with
    | .ok answer => answer
    | .error text => .panicked text) hooks pools)

/-! ## The whole scenario -/

/-- Drop all leases in the order of their names. -/
def dropLeases : List String → Program Unit
  | [] => done ()
  | name :: rest => do
    dropLease? (← update fun w => w.takeLease name)
    dropLeases rest

/-- Shut down all pools in the given order. -/
def shutdownAll : List PoolId → Program Unit
  | [] => done ()
  | pool :: rest => do
    sure (← operation pool Shutdown.close)
    shutdownAll rest

/-- The program of the first thread: it takes the steps, and then clears up. Threads that were
waiting for a session get one when the leases are dropped, so leases are dropped once more after the
threads have ended. -/
def script (steps : List Step) : Program Unit := do
  let replies ← play steps done
  modify fun w => { w with sites := w.sites.map fun s => { s with hooks := [] } }
  dropLeases (← read (·.leases.keys))
  joinAll
  dropLeases (← read (·.leases.keys))
  shutdownAll (← read fun w => w.names.keys.filterMap w.poolNamed?)
  modify fun w => { w with result := some { replies, endings := w.endings } }

/-- The program of a thread that takes one step. -/
def thread (id : ThreadId) (step : Step) : Program Unit := do
  let r ← reply step
  modify fun w => { w with results := w.results.insert id r }

end Program

end Scenario

end ConnectionPool
