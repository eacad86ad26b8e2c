import ConnectionPool.Error
import ConnectionPool.Record
import ConnectionPool.Roster
import ConnectionPool.Settings
import ConnectionPool.Statistics

set_option autoImplicit false

/-! # The shared state of a pool

Everything that the callers of one pool share, and the things that can be done to it in one go: each
function below is a single locked section, or a single access to a single variable. What callers do
is put together from these sections; between two of them the sections of other callers may come.

Every session of the pool is in one of two rosters: `active` if a caller has it, `idle` if nobody
has it (or only a probe). A slot that an acquirer has reserved for a session still to be made counts
towards the cap as well. The `epoch` is raised whenever a waiting acquirer should look again. -/

namespace ConnectionPool

/-- Where a pool gets new sessions from. -/
inductive Source where
  /-- The server that the pool is for. -/
  | server
  /-- Nowhere: each request fails with the given text. -/
  | refusing (text : String)
  deriving DecidableEq, Repr, Inhabited

/-- The shared state of one pool of sessions of type `S`. -/
structure Pool (S : Type) where
  settings : Settings
  /-- What makes new sessions, once it is known. -/
  source : Option Source := none
  /-- The sessions that callers have. -/
  active : Roster (Record S) := .empty
  /-- The sessions that nobody has, those under probe included. -/
  idle : Roster (Record S) := .empty
  /-- Slots reserved by acquirers that are making a session. -/
  reserved : UInt32 := 0
  /-- Raised whenever waiting acquirers should look again. -/
  epoch : UInt64 := 0
  /-- Whether shutdown has begun. -/
  closed : Bool := false
  /-- The key of the next session to be made. -/
  nextKey : SessionKey := ⟨1⟩
  /-- Successful probes since the count was last set to zero. -/
  heartbeats : UInt64 := 0
  tally : Tally := {}
  /-- Whether the first shutdown has run to its end. -/
  drained : Bool := false
  /-- Whether the heartbeat worker was told to stop. -/
  stopRequested : Bool := false
  /-- Whether the heartbeat worker has stopped. -/
  workerStopped : Bool := false
  createdAt : Instant
  deriving DecidableEq

namespace Pool

variable {S : Type}

/-- A new pool with the given settings, unless they have a flaw. -/
def new (settings : Settings) (now : Instant) : Except Error (Pool S) :=
  match settings.flaw? with
  | some flaw => .error (.invalidSettings flaw.message)
  | none => .ok { settings, createdAt := now }

/-! ## Counting -/

/-- The number of sessions of the pool. -/
def total (p : Pool S) : Nat := p.active.size + p.idle.size

/-- The number of sessions and slots that shutdown waits for. -/
def outstanding (p : Pool S) : Nat := p.active.size + p.reserved.toNat

/-- A number as a 32-bit word; the greatest word stands for all that do not fit. -/
def saturate (n : Nat) : UInt32 := .ofNat (min n (UInt32.size - 1))

/-- What the pool looks like under a cap that was read before. -/
def snapshot (p : Pool S) (cap : UInt32) : Snapshot :=
  { total := saturate p.total
    active := saturate p.active.size
    idle := saturate p.idle.size
    heartbeats := p.heartbeats
    max := cap }

/-- The tally and the age of the pool. -/
def metrics (p : Pool S) (now : Instant) : Metrics :=
  { p.tally with uptime := now.since p.createdAt }

/-- The pool with another tally. -/
def count (p : Pool S) (f : Tally → Tally) : Pool S := { p with tally := f p.tally }

/-! ## Waking and closing -/

/-- Tell all waiting acquirers to look again. -/
def notify (p : Pool S) : Pool S := { p with epoch := p.epoch + 1 }

/-- Begin a shutdown; from now on the pool counts as closed. -/
def close (p : Pool S) : Pool S := { p with closed := true }

/-! ## Lending -/

/-- The decision on a request for a session. -/
inductive Decision (S : Type) where
  /-- An idle session is lent. -/
  | reuse (loan : Record S)
  /-- A slot is reserved for a session that the acquirer has to make. -/
  | reserve
  /-- Neither is possible. -/
  | full
  deriving DecidableEq, Repr

/-- Decide on a request: the idle session with the smallest key is lent; without one, a slot is
reserved if the sessions and the slots together are below the cap. -/
def lend (p : Pool S) (cap : UInt32) (now : Instant) : Pool S × Decision S :=
  match p.idle.first? fun r => r.standing.isAvailable with
  | some (key, record) =>
    let loan := record.checkOut now
    ({ p with idle := p.idle.erase key, active := p.active.insert loan.info.key loan }, .reuse loan)
  | none =>
    if p.total + p.reserved.toNat < cap.toNat then ({ p with reserved := p.reserved + 1 }, .reserve)
    else (p, .full)

/-- Give a reserved slot back. -/
def unreserve (p : Pool S) : Pool S := { p with reserved := p.reserved - 1 }

/-- Draw the key for a new session. -/
def drawKey (p : Pool S) : Pool S × SessionKey :=
  ({ p with nextKey := ⟨p.nextKey.number + 1⟩ }, p.nextKey)

/-- Give the reserved slot up and put a new session in its place, unless the pool was closed
meanwhile. Answers whether the session was taken in. -/
def install (p : Pool S) (loan : Record S) : Pool S × Bool :=
  if p.closed then (p.unreserve, false)
  else ({ p.unreserve with active := p.active.insert loan.info.key loan }, true)

/-! ## Taking back -/

/-- Take a session back from its caller. It becomes idle if it is connected and the pool is open;
otherwise it leaves the pool and is answered, to be closed. Nothing is done if no caller has it. -/
def takeBack (p : Pool S) (key : SessionKey) (connected : S → Bool) (now : Instant) :
    Option (Pool S × Option S) :=
  match p.active.find? key with
  | none => none
  | some record =>
    let rest := { p with active := p.active.erase key }
    if !p.closed && connected record.session then
      some ({ rest with idle := p.idle.insert key (record.checkIn now) }, none)
    else some (rest, some record.session)

/-- Let a session go that a caller has. -/
def letGo (p : Pool S) (key : SessionKey) : Option (Pool S) :=
  match p.active.find? key with
  | none => none
  | some _ => some { p with active := p.active.erase key }

/-- Take all idle sessions out of the pool, to be closed. -/
def drain (p : Pool S) : Pool S × List S :=
  ({ p with idle := .empty }, p.idle.values.map (·.session))

/-! ## Probing -/

/-- Begin a probe of every session that is due, and answer their keys and the sessions. -/
def beginProbes (p : Pool S) (interval : Duration) (now : Instant) :
    Pool S × List (SessionKey × S) :=
  ({ p with idle := p.idle.map fun _ r => if r.isDue interval now then r.beginProbe else r },
    (p.idle.entries.filter fun e => e.2.isDue interval now).map fun e => (e.1, e.2.session))

/-- A record after the verdicts, which concern it only while its probe is under way. -/
def judge (verdicts : List (SessionKey × Verdict)) (now : Instant) (key : SessionKey)
    (record : Record S) : Record S :=
  match Roster.lookup key verdicts with
  | some verdict => if record.standing = .probing then record.endProbe verdict now else record
  | none => record

/-- End the probes with the given verdicts, throw out every session whose probe failed and answer
those. A session that has left the pool meanwhile is passed over. -/
def endProbes (p : Pool S) (verdicts : List (SessionKey × Verdict)) (now : Instant) :
    Pool S × List S :=
  let judged := p.idle.map (judge verdicts now)
  ({ p with idle := judged.filter fun _ r => r.standing != .canceled },
    (judged.filter fun _ r => r.standing == .canceled).values.map (·.session))

/-! ## Changing the settings -/

/-- How long acquirers wait from now on. -/
def setAcquireTimeout (p : Pool S) (d : Duration) : Pool S :=
  { p with settings := { p.settings with acquireTimeout := d } }

/-- How long sessions are left alone from now on; zero turns heartbeats off. -/
def setHeartbeatInterval (p : Pool S) (d : Duration) : Pool S :=
  { p with settings := { p.settings with heartbeatInterval := d } }

/-- Which statement probes sessions from now on, unless it is blank. -/
def setHeartbeatQuery (p : Pool S) (text : String) : Except Error (Pool S) :=
  if Text.isBlank text then .error (.invalidSettings Settings.Flaw.blankQuery.message)
  else .ok { p with settings := { p.settings with heartbeatQuery := text } }

/-- How many sessions there may be from now on. Waiting acquirers are not told. -/
def setMaxConnections (p : Pool S) (count : UInt32) : Except Error (Pool S) :=
  if count = 0 then .error (.invalidSettings Settings.Flaw.noCapacity.message)
  else .ok { p with settings := { p.settings with maxConnections := count } }

/-- What makes new sessions from now on. -/
def setSource (p : Pool S) (source : Source) : Pool S := { p with source := some source }

/-- Set the count of successful probes to zero. -/
def resetHeartbeats (p : Pool S) : Pool S := { p with heartbeats := 0 }

/-- Put the stamps of the sessions back by the given time, one session after the other, as far as
the first one whose stamps cannot go back that far; and whether none is like that. -/
def agedInTurn (r : Roster (Record S)) (d : Duration) : Roster (Record S) × Bool :=
  match r.entries.find? fun e => !e.2.info.canAge d with
  | none => (r.map fun _ record => record.aged d, true)
  | some (stuck, _) =>
    (r.map fun key record => if key < stuck then record.aged d else record, false)

/-- Put the stamps of the sessions in the pool back by the given time, those of the lent ones first;
and whether all of them could go back that far. -/
def aged (p : Pool S) (d : Duration) : Pool S × Bool :=
  match agedInTurn p.active d with
  | (active, false) => ({ p with active }, false)
  | (active, true) =>
    let (idle, possible) := agedInTurn p.idle d
    ({ p with active, idle }, possible)

end Pool

end ConnectionPool
