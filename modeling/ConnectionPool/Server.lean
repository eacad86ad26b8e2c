import ConnectionPool.Error
import ConnectionPool.Outcome
import ConnectionPool.SessionKey

set_option autoImplicit false

/-! # A simulated server

A server in memory whose sessions can be made to fail: it refuses a given number of requests for a
session, kills connections, lets statements fail, and takes its time. It keeps count of all that is
asked of it.

Requests for sessions may overlap. `Creation` cuts one into its accesses to the server, so that an
order of the accesses of several requests can be spelled out; `Statement` does so for a statement.
`Server.create` and `Server.execute` do all accesses of one request in one go and without delay. -/

namespace ConnectionPool

/-- Why the server fails. -/
inductive ServerError where
  /-- The server was told to refuse the connection. -/
  | refused
  /-- The session was told to fail its statements. -/
  | queryFailed (session : Serial)
  /-- The session was closed or killed. -/
  | notConnected (session : Serial)
  deriving DecidableEq, Repr

namespace ServerError

/-- The wording of an error. -/
def message : ServerError → String
  | refused => "connection refused by mock server"
  | queryFailed s => "query failed on session " ++ toString s
  | notConnected s => "session " ++ toString s ++ " is not connected"

/-- The error as a record of its kind. -/
def debug : ServerError → String
  | refused => "ConnectRefused"
  | queryFailed s => "QueryFailed(" ++ toString s ++ ")"
  | notConnected s => "NotConnected(" ++ toString s ++ ")"

/-- The error as the pool sees it. -/
def cause (e : ServerError) : Cause := { message := e.message }

/-- The result of a request to the server as the pool sees it. -/
def outcome {α : Type} (result : Except ServerError α) : Outcome Cause α := .ofExcept cause result

end ServerError

/-! ## Sessions -/

/-- One session of the server. -/
structure ServerSession where
  serial : Serial
  connected : Bool := false
  /-- Whether its statements fail although it is connected. -/
  failing : Bool := false
  /-- How long a statement takes. -/
  queryDelay : Duration := .zero
  /-- How many statements are being executed that take their time. -/
  querying : UInt32 := 0
  /-- How often it was opened. -/
  opens : UInt32 := 0
  /-- How often it was closed. -/
  closes : UInt32 := 0
  /-- The statements it was given, the latest first. -/
  given : List String := []
  deriving DecidableEq, Repr, Inhabited

namespace ServerSession

/-- The session is opened. -/
def connect (s : ServerSession) : ServerSession :=
  { s with opens := s.opens + 1, connected := true }

/-- The session is closed. -/
def disconnect (s : ServerSession) : ServerSession :=
  { s with closes := s.closes + 1, connected := false }

/-- The connection breaks. -/
def kill (s : ServerSession) : ServerSession := { s with connected := false }

/-- The statements that the session was given, in order. -/
def statements (s : ServerSession) : List String := s.given.reverse

/-- The session is given a statement. -/
def note (s : ServerSession) (text : String) : ServerSession := { s with given := text :: s.given }

@[simp] theorem statements_note (s : ServerSession) (text : String) :
    (s.note text).statements = s.statements ++ [text] := List.reverse_cons

/-- Whether a statement is being executed. -/
def isQuerying (s : ServerSession) : Bool := s.querying != 0

/-- How a statement ends that was given to the session. -/
def answer (s : ServerSession) : Except ServerError Unit :=
  if !s.connected then .error (.notConnected s.serial)
  else if s.failing then .error (.queryFailed s.serial)
  else .ok ()

/-- How often the session was given the statement. -/
def countOf (s : ServerSession) (text : String) : Nat := s.given.count text

end ServerSession

/-! ## The server -/

/-- A server and its sessions. -/
structure Server where
  /-- How many sessions were made. -/
  created : UInt32 := 0
  /-- How many sessions were asked for. -/
  attempts : UInt32 := 0
  /-- How many further requests are refused. -/
  refusals : UInt32 := 0
  /-- How long it takes to make a session. -/
  connectDelay : Duration := .zero
  /-- The sessions in the order in which they were registered. -/
  sessions : List ServerSession := []
  deriving DecidableEq, Repr, Inhabited

namespace Server

/-- The session with the given serial number. -/
def find? (s : Server) (serial : Serial) : Option ServerSession :=
  s.sessions.find? (·.serial == serial)

/-- Whether the session with the given serial number is connected. -/
def connected (s : Server) (serial : Serial) : Bool := (s.find? serial).any (·.connected)

/-- Change the session with the given serial number. -/
def modify (s : Server) (serial : Serial) (f : ServerSession → ServerSession) : Server :=
  { s with sessions := s.sessions.map fun x => if x.serial = serial then f x else x }

/-- Refuse exactly the given number of further requests. -/
def refuseNext (s : Server) (count : UInt32) : Server := { s with refusals := count }

/-- How a statement ends that was given to a session. -/
def answer (s : Server) (serial : Serial) : Except ServerError Unit :=
  match s.find? serial with
  | some session => session.answer
  | none => .error (.notConnected serial)

end Server

/-! ## Making a session -/

/-- The phases of a request for a session. -/
inductive Creation where
  /-- Count the request. -/
  | attempt
  | readDelay
  | asleep (until? : Option Instant)
  /-- See how many requests are still to be refused. -/
  | refuse
  /-- Refuse the request, if their number is still the one that was seen. -/
  | exchange (seen : UInt32)
  /-- Draw a serial number. -/
  | number
  | register (serial : Serial)
  | done (result : Except ServerError Serial)
  deriving Repr

namespace Creation

/-- What follows when so many requests are seen to be still refused. -/
def seeing (refusals : UInt32) : Creation := if refusals = 0 then number else exchange refusals

/-- The next access to the server; nothing while the request sleeps, or when it has ended. -/
def step (now : Instant) (s : Server) : Creation → Option (Server × Creation)
  | attempt => some ({ s with attempts := s.attempts + 1 }, readDelay)
  | readDelay =>
    some (s, if s.connectDelay.isZero then refuse else asleep (now.after? s.connectDelay))
  | asleep until? => if until?.any (· ≤ now) then some (s, refuse) else none
  | refuse => some (s, seeing s.refusals)
  | exchange seen =>
    if s.refusals = seen then some ({ s with refusals := seen - 1 }, done (.error .refused))
    else some (s, seeing s.refusals)
  | number => some ({ s with created := s.created + 1 }, register (s.created + 1))
  | register serial =>
    some ({ s with sessions := s.sessions ++ [{ serial }] }, done (.ok serial))
  | done _ => none

/-- When a sleeping request goes on. -/
def wake? : Creation → Option Instant
  | asleep until? => until?
  | _ => none

end Creation

namespace Server

/-- Make a session, without delay and undisturbed. -/
def create (s : Server) : Server × Except ServerError Serial :=
  if s.refusals = 0 then
    ({ s with
        attempts := s.attempts + 1, created := s.created + 1
        sessions := s.sessions ++ [{ serial := s.created + 1 }] },
      .ok (s.created + 1))
  else ({ s with attempts := s.attempts + 1, refusals := s.refusals - 1 }, .error .refused)

end Server

/-! ## Executing a statement -/

/-- The phases of a statement that is given to a session. -/
inductive Statement where
  | note (text : String)
  | readDelay
  /-- Count the statement among those under way. -/
  | enter (delay : Duration)
  | asleep (until? : Option Instant)
  | leave
  /-- Look how the session is. -/
  | look
  | done (result : Except ServerError Unit)
  deriving Repr

namespace Statement

/-- The next access to the session; nothing while the statement sleeps, or when it has ended. -/
def step (now : Instant) (s : Server) (serial : Serial) : Statement → Option (Server × Statement)
  | note text => some (s.modify serial (·.note text), readDelay)
  | readDelay =>
    let delay := ((s.find? serial).map (·.queryDelay)).getD .zero
    some (s, if delay.isZero then look else enter delay)
  | enter delay =>
    some (s.modify serial fun x => { x with querying := x.querying + 1 }, asleep (now.after? delay))
  | asleep until? => if until?.any (· ≤ now) then some (s, leave) else none
  | leave => some (s.modify serial fun x => { x with querying := x.querying - 1 }, look)
  | look => some (s, done (s.answer serial))
  | done _ => none

/-- When a sleeping statement goes on. -/
def wake? : Statement → Option Instant
  | asleep until? => until?
  | _ => none

end Statement

namespace Server

/-- Execute a statement, without delay and undisturbed. -/
def execute (s : Server) (serial : Serial) (text : String) : Server × Except ServerError Unit :=
  (s.modify serial (·.note text), s.answer serial)

end Server

end ConnectionPool
