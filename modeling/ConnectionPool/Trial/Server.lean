import ConnectionPool.Operation.Heartbeat
import ConnectionPool.Polling
import ConnectionPool.Server

set_option autoImplicit false

/-! # Trials of the simulated server

A server without a pool, asked for sessions and given statements by a list of steps. Delays are set
here, but nothing that is answered depends on them. -/

namespace ConnectionPool

namespace ServerTrial

/-- One step of a trial. -/
inductive Step where
  | create
  | connectDelay (d : Duration)
  | refuseNext (count : UInt32)
  /-- Ask for the counts of the server. -/
  | counts
  /-- Ask for a session that need not exist. -/
  | lookup (session : Serial)
  | connect (session : Serial)
  | disconnect (session : Serial)
  | execute (session : Serial) (statement : String)
  /-- Execute a statement as a probe. -/
  | probe (session : Serial) (statement : String)
  | kill (session : Serial)
  | failQueries (session : Serial) (fail : Bool)
  | queryDelay (session : Serial) (d : Duration)
  | countOf (session : Serial) (statement : String)
  /-- Ask for a session. -/
  | inspect (session : Serial)
  /-- Wait for a condition that holds from the given look on. -/
  | await (timeout : Duration) (holdsFrom : Nat)
  deriving Repr

/-- The answer to a step. -/
inductive Answer where
  | done
  | connected
  | serial (s : Serial)
  | failed (e : ServerError)
  | counts (created attempts : UInt32) (sessions : List Serial)
  | session (s : Option ServerSession)
  | verdict (v : Verdict)
  | count (n : Nat)
  | awaited (held : Bool) (looks : Nat)
  deriving Repr

/-- One step of a trial, unless it panics. Somebody who waits reckons first when the time will be
over, and panics if that is never. -/
def step (s : Server) : Step → Except String (Server × Answer)
  | .create =>
    match s.create with
    | (s, .ok serial) => .ok (s, .serial serial)
    | (s, .error e) => .ok (s, .failed e)
  | .connectDelay d => .ok ({ s with connectDelay := d }, .done)
  | .refuseNext n => .ok (s.refuseNext n, .done)
  | .counts => .ok (s, .counts s.created s.attempts (s.sessions.map (·.serial)))
  | .lookup x | .inspect x => .ok (s, .session (s.find? x))
  | .connect x => .ok (s.modify x .connect, .connected)
  | .disconnect x => .ok (s.modify x .disconnect, .done)
  | .execute x text =>
    match s.execute x text with
    | (s, .ok ()) => .ok (s, .done)
    | (s, .error e) => .ok (s, .failed e)
  | .probe x text =>
    let (s, result) := s.execute x text
    .ok (s, .verdict (Heartbeat.verdict (ServerError.outcome result)))
  | .kill x => .ok (s.modify x .kill, .done)
  | .failQueries x fail => .ok (s.modify x fun session => { session with failing := fail }, .done)
  | .queryDelay x d => .ok (s.modify x fun session => { session with queryDelay := d }, .done)
  | .countOf x text => .ok (s, .count (((s.find? x).map (·.countOf text)).getD 0))
  | .await timeout n =>
    match Instant.start.after? timeout with
    | none => .error Instant.tooLate
    | some _ =>
      let (held, looks) := Polling.await timeout n
      .ok (s, .awaited held looks)

/-- Take the steps in order, and answer the answers; a panic ends the trial. -/
def run (s : Server) : List Step → Except String (List Answer)
  | [] => .ok []
  | x :: rest => do
    let (s, answer) ← step s x
    return answer :: (← run s rest)

end ServerTrial

end ConnectionPool
