import ConnectionPool.Operation
import ConnectionPool.Server

set_option autoImplicit false

/-! # Undisturbed operations

A pool and its server, with nobody else at work. Here one operation after the other runs from its
beginning to its end: its own steps follow each other, the server answers its calls at once, and
when it has to wait the clock is put on to the instant it waits for. Every move of the clock is a
step forward, so no two readings are the same. -/

namespace ConnectionPool

/-- A pool and its server, with nobody else at work. -/
structure Solo where
  pool : Pool Serial
  server : Server
  now : Instant

namespace Solo

variable {τ ε α : Type}

/-- What an operation can see here. -/
def view (s : Solo) : View Serial :=
  { now := s.now, connected := s.server.connected, alive := true, contended := false,
    byWorker := false }

/-- The clock goes on by a moment. -/
def tick (s : Solo) : Solo := { s with now := s.now.after .moment }

/-- Ask a source for a session. -/
def ask (s : Solo) : Source → Solo × Outcome Cause Serial
  | .server =>
    let (server, result) := s.server.create
    ({ s with server }, ServerError.outcome result)
  | .refusing text => (s, .error { message := text })

/-- The next move of an operation; nothing once it has ended, or if it waits for ever. -/
def move [Stepwise Serial τ ε α] (s : Solo) (t : τ) : Option (Solo × τ) :=
  match Stepwise.status (S := Serial) t with
  | .ended _ => none
  | .running =>
    match Stepwise.step s.view s.pool t with
    | some (pool, t) => some ({ s with pool }.tick, t)
    | none => (Stepwise.wake? Serial t).map fun at_ => ({ s with now := at_ }, t)
  | .creating source next =>
    let (s, outcome) := s.ask source
    some (s.tick, next outcome)
  | .opening session next =>
    some ({ s with server := s.server.modify session .connect }.tick, next (.value ()))
  | .querying session statement next =>
    let (server, result) := s.server.execute session statement
    some ({ s with server }.tick, next (ServerError.outcome result))
  | .closing session next =>
    some ({ s with server := s.server.modify session .disconnect }.tick, next (.value ()))

/-- Run an operation for at most the given number of moves. Answers its outcome if it has ended. -/
def run [Stepwise Serial τ ε α] : Nat → Solo → τ → Solo × Option (Outcome ε α)
  | 0, s, t =>
    match Stepwise.status (S := Serial) t with
    | .ended outcome => (s, some outcome)
    | _ => (s, none)
  | fuel + 1, s, t =>
    match Stepwise.status (S := Serial) t with
    | .ended outcome => (s, some outcome)
    | _ =>
      match s.move t with
      | some (s, t) => run fuel s t
      | none => (s, none)

end Solo

end ConnectionPool
