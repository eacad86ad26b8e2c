import Std.Data.TreeMap
import ConnectionPool.Lease
import ConnectionPool.Scenario.Gate
import ConnectionPool.Scenario.Reply

set_option autoImplicit false

/-! # The world of a scenario

Everything that the threads of a scenario share: the clock, the pools with their servers, and the
tables of names. Each function here is one access that nothing comes between. -/

namespace ConnectionPool

namespace Scenario

/-- A hook that waits for its call. -/
structure Hook where
  moment : Moment
  session : Serial
  steps : List Step
  panic : Option String

/-- A pool of the scenario with all that surrounds it. -/
structure Site where
  name : String
  pool : Pool Serial
  server : Server
  /-- The thread of the heartbeat worker. -/
  worker : ThreadId := 0
  gate : Gate := {}
  /-- Calls to the server so far, the latest first. -/
  events : List Event := []
  hooks : List Hook := []
  /-- How many times a session is not opened. -/
  openRefusals : Nat := 0
  preopened : Bool := false
  /-- Whether the heartbeat worker is to be seen at work. -/
  live : Bool := false
  /-- Whether the pool is known by its name. -/
  named : Bool := true
  /-- How many steps are at work on the pool; their last one drops a pool without a name. -/
  users : Nat := 0
  /-- How many operations keep the pool in existence. -/
  keepers : Nat := 0
  /-- Whether the pool was dropped by its owner. -/
  dropped : Bool := false

namespace Site

/-- Whether the pool still exists. -/
def alive (s : Site) : Bool := !s.dropped || 0 < s.keepers

/-- Whether the numbers of the pool may be told. -/
def isTold (s : Site) : Bool := s.named && !s.live

/-- The pool from a distance. -/
def sight (s : Site) : PoolSight :=
  { snapshot := s.pool.snapshot s.pool.settings.maxConnections
    closed := s.pool.closed
    tally := s.pool.tally }

/-- Take the hook that was queued first for the call. -/
def takeHook (s : Site) (moment : Moment) (session : Serial) : Site × Option Hook :=
  let fits (h : Hook) : Bool := h.moment == moment && h.session == session
  ({ s with hooks := s.hooks.eraseP fits }, s.hooks.find? fits)

end Site

/-- All that the threads of a scenario share. -/
structure World where
  now : Instant := .start
  /-- All pools ever made. -/
  sites : Array Site := #[]
  /-- The newest pool of each name. -/
  names : Std.TreeMap String PoolId := {}
  leases : Std.TreeMap String (Lease Serial) := {}
  /-- Detached sessions, with the pools they are from. -/
  detached : Std.TreeMap String (PoolId × Serial) := {}
  /-- The threads that can still be joined by their names. -/
  threads : Std.TreeMap String ThreadId := {}
  /-- How many threads were not joined, those included whose name was given to another one. -/
  unjoined : Nat := 0
  /-- Whether a step was ever taken in a thread of its own. -/
  threaded : Bool := false
  /-- The replies of threads that have ended. -/
  results : Std.TreeMap ThreadId Reply := {}
  /-- The number of the next thread. -/
  nextThread : ThreadId := 1
  /-- Steps that threads are still to be started for. -/
  spawned : List (ThreadId × Step) := []
  /-- Pools that workers are still to be started for. -/
  workers : List (ThreadId × PoolId) := []
  /-- The thread whose turn it is. -/
  current : ThreadId := 0
  /-- For each thread that is taking a step the hooks that ran during its steps, the innermost step
  first; each list has the latest first. -/
  hookReports : Std.TreeMap ThreadId (List (List HookReport)) := {}
  result : Option Result := none

namespace World

/-- Change a pool and what surrounds it. -/
def modifySite (w : World) (id : PoolId) (f : Site → Site) : World :=
  { w with sites := w.sites.modify id f }

/-- Change a pool. -/
def modifyPool (w : World) (id : PoolId) (f : Pool Serial → Pool Serial) : World :=
  w.modifySite id fun s => { s with pool := f s.pool }

/-- Change a server. -/
def modifyServer (w : World) (id : PoolId) (f : Server → Server) : World :=
  w.modifySite id fun s => { s with server := f s.server }

/-- What an operation on a pool can see. -/
def view (w : World) (s : Site) : View Serial :=
  { now := w.now
    connected := s.server.connected
    alive := s.alive
    contended := s.gate.isContended
    byWorker := s.worker == w.current }

/-- Whether the session of a pool's server is connected. -/
def connected (w : World) (id : PoolId) (session : Serial) : Bool :=
  match w.sites[id]? with
  | some s => s.server.connected session
  | none => false

/-! ## Pools -/

/-- Add a pool under a name; its worker is a thread as well. -/
def addSite (w : World) (s : Site) : World :=
  { w with
    sites := w.sites.push { s with worker := w.nextThread }
    names := w.names.insert s.name w.sites.size
    nextThread := w.nextThread + 1
    workers := w.workers ++ [(w.nextThread, w.sites.size)] }

/-- The newest pool of a name, if it is as told. -/
def site? (w : World) (name : String) (p : Site → Bool) : Option PoolId :=
  (w.names[name]?).filter fun id => (w.sites[id]?).any p

/-- The pool that has the name. -/
def poolNamed? (w : World) (name : String) : Option PoolId := w.site? name (·.named)

/-- The pool that has the name, or has had it last and still exists. -/
def stateNamed? (w : World) (name : String) : Option PoolId := w.site? name (·.alive)

/-! ## Leases -/

/-- Take a lease from the table. -/
def takeLease (w : World) (name : String) : World × Option (Lease Serial) :=
  ({ w with leases := w.leases.erase name }, w.leases[name]?)

/-- Put a lease into the table. Answers the one that it replaces. -/
def putLease (w : World) (name : String) (l : Lease Serial) : World × Option (Lease Serial) :=
  ({ w with leases := w.leases.insert name l }, w.leases[name]?)

/-! ## Threads -/

/-- Have a step taken in a thread of its own. -/
def spawn (w : World) (name : String) (step : Step) : World :=
  { w with
    nextThread := w.nextThread + 1
    threads := w.threads.insert name w.nextThread
    unjoined := w.unjoined + 1
    threaded := true
    spawned := w.spawned ++ [(w.nextThread, step)] }

/-- Take a thread from the table, to join it. -/
def takeThread (w : World) (name : String) : World × Option ThreadId :=
  ({ w with threads := w.threads.erase name }, w.threads[name]?)

/-! ## Getting at the rosters -/

/-- What comes of the wish of the current thread to hold the rosters of a pool. -/
inductive Passage where
  /-- It may. -/
  | pass (w : World)
  /-- It may not, and is now in line. -/
  | lineUp (w : World)
  /-- It is still in line. -/
  | wait

/-- The current thread comes to the gate of a pool. -/
def approach (w : World) (id : PoolId) (h : Hold) : Passage :=
  match w.sites[id]? with
  | none => .pass w
  | some s =>
    let change (f : Gate → Gate) : World := w.modifySite id fun s => { s with gate := f s.gate }
    if h = .nothing then .pass w
    else if s.gate.admits w.current h then .pass (change (·.leave w.current))
    else if s.gate.line.contains w.current then .wait
    else .lineUp (change (·.join w.current))

/-! ## Hooks -/

/-- The current thread begins a step. -/
def beginStep (w : World) : World :=
  let reports := [] :: w.hookReports.getD w.current []
  { w with hookReports := w.hookReports.insert w.current reports }

/-- A hook has ended during the current step of the current thread. A worker takes no steps, so what
its hooks do is not reported. -/
def reportHook (w : World) (r : HookReport) : World :=
  match w.hookReports.getD w.current [] with
  | top :: rest => { w with hookReports := w.hookReports.insert w.current ((r :: top) :: rest) }
  | [] => w

/-- The current thread ends a step. Answers the hooks that ran during it. -/
def endStep (w : World) : World × List HookReport :=
  match w.hookReports.getD w.current [] with
  | top :: rest =>
    ({ w with hookReports := w.hookReports.insert w.current rest }, top.reverse)
  | [] => (w, [])

/-! ## Telling -/

/-- The pools from a distance, unless a thread was not joined. -/
def sights (w : World) : Option (List (String × PoolSight)) :=
  if w.unjoined = 0 then
    some (w.names.toList.filterMap fun (name, id) =>
      match w.sites[id]? with
      | some s => if s.isTold then some (name, s.sight) else none
      | none => none)
  else none

/-- What has become of the newest pool of each name. -/
def endings (w : World) : List (String × Ending) :=
  w.names.toList.filterMap fun (name, id) =>
    (w.sites[id]?).map fun s =>
      (name,
        { tally := if s.isTold then some s.pool.tally else none
          attempts := s.server.attempts
          sessions := s.server.sessions
          events := if !w.threaded && !s.live then some s.events.reverse else none })

end World

end Scenario

end ConnectionPool
