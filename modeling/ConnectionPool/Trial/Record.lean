import ConnectionPool.Record
import ConnectionPool.Operation.Heartbeat
import ConnectionPool.Server

set_option autoImplicit false

/-! # Trials of a single record

A record over one session of a server, led through its standings by a list of steps in any order. -/

namespace ConnectionPool

/-- A record, the server of its session, and the clock. -/
structure RecordTrial where
  record : Record Serial
  server : Server
  now : Instant

namespace RecordTrial

/-- One step of a trial. -/
inductive Step where
  /-- Open the session. -/
  | connect
  /-- Break the connection of the session. -/
  | kill
  /-- Say whether the statements of the session fail. -/
  | failQueries (fail : Bool)
  | checkOut
  | checkIn
  | beginProbe
  /-- End the probe with success or not. -/
  | endProbe (healthy : Bool)
  /-- Probe the session with the statement, and end the probe accordingly. -/
  | probe (statement : String)
  /-- Let time pass. -/
  | advance (by_ : Duration)
  /-- Ask whether the session is due under the interval. -/
  | due (interval : Duration)
  /-- Ask for the text of the key. -/
  | key
  deriving Repr

/-- The answer to a step. -/
inductive Answer where
  | done
  | flag (b : Bool)
  | text (s : String)
  | verdict (v : Verdict)
  deriving Repr

/-- The serial number of the session. -/
def session : Serial := 1

/-- The beginning of a trial: the session has just been lent for the first time, or never. -/
def start (key : SessionKey) (lent : Bool) : RecordTrial :=
  { record := if lent then .lent key session .start else .shelved key session .start
    server := ({} : Server).create.1
    now := .start }

/-- One step of a trial, unless it panics. -/
def step (t : RecordTrial) : Step → Except String (RecordTrial × Answer)
  | .connect => .ok ({ t with server := t.server.modify session .connect }, .done)
  | .kill => .ok ({ t with server := t.server.modify session .kill }, .done)
  | .failQueries fail =>
    .ok ({ t with server := t.server.modify session fun s => { s with failing := fail } }, .done)
  | .checkOut => .ok ({ t with record := t.record.checkOut t.now }, .done)
  | .checkIn => .ok ({ t with record := t.record.checkIn t.now }, .done)
  | .beginProbe => .ok ({ t with record := t.record.beginProbe }, .done)
  | .endProbe healthy =>
    .ok ({ t with record := t.record.endProbe (if healthy then .healthy else .failed "") t.now },
      .done)
  | .probe statement =>
    let (server, result) := t.server.execute session statement
    let verdict := Heartbeat.verdict (ServerError.outcome result)
    .ok ({ t with server, record := t.record.endProbe verdict t.now }, .verdict verdict)
  | .advance d =>
    if t.record.info.canAge d then .ok ({ t with record := t.record.aged d }, .done)
    else .error Instant.tooEarly
  | .due interval => .ok (t, .flag (t.record.isDue interval t.now))
  | .key => .ok (t, .text t.record.info.key.text)

/-- The clock goes on by a moment, so that every reading is later than the stamps. -/
def tick (t : RecordTrial) : RecordTrial := { t with now := t.now.after .moment }

/-- How the bookkeeping reads now. -/
def summary (t : RecordTrial) : Metadata.Summary := t.record.info.summary t.now

/-- Take the steps in order. Answers the answer to each, and how the bookkeeping reads after it; a
panic ends the trial. -/
def run (t : RecordTrial) : List Step → Except String (List (Answer × Metadata.Summary))
  | [] => .ok []
  | s :: rest => do
    let (t, answer) ← t.tick.step s
    let t := t.tick
    return (answer, t.summary) :: (← run t rest)

end RecordTrial

end ConnectionPool
