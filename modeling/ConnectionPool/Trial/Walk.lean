import ConnectionPool.Lease
import ConnectionPool.Operation.Acquire
import ConnectionPool.Operation.Resize
import ConnectionPool.Solo

set_option autoImplicit false

/-! # Walks

A walk is a list of steps taken by a single caller of a fresh pool, who keeps the leases it gets in
a row: it acquires sessions without waiting, gives back, drops or detaches leases, and meanwhile
sessions are killed and opened again, requests refused and the cap changed. A lease that is given up
leaves the row, and the last one takes its place. -/

namespace ConnectionPool

/-- A walk under way: the pool with its server, and the leases in a row. -/
structure Walk where
  solo : Solo
  held : List (Lease Serial)

namespace Walk

/-- One step of a walk. A number names a lease of the row, counted round. -/
inductive Step where
  | acquire
  | refuse (count : UInt32)
  | cap (count : UInt32)
  | release (n : Nat)
  | drop (n : Nat)
  | detach (n : Nat)
  | kill (n : Nat)
  | reopen (n : Nat)
  deriving Repr

/-- The answer to a step. -/
inductive Answer where
  | done
  /-- The pool is full. -/
  | full
  /-- The row is empty. -/
  | nobody
  | acquired (key : SessionKey)
  | detached (session : Serial)
  | reopened
  | failed (e : Error)
  | broken (text : String)
  deriving Repr

/-- More moves than any operation of a walk takes. -/
def moves : Nat := 64

/-- How settings with a flaw are turned down. -/
def refusal (flaw : Settings.Flaw) : String :=
  "invalid test pool configuration: Config(\"" ++ flaw.message ++ "\")"

/-- A walk through a new pool with the given settings, unless they have a flaw. -/
def start (settings : Settings) : Except Settings.Flaw Walk :=
  match settings.flaw? with
  | some flaw => .error flaw
  | none =>
    let pool : Pool Serial := { settings, source := some .server, createdAt := .start }
    .ok { solo := { pool, server := {}, now := .start }, held := [] }

/-- The answer to a step that only succeeds or fails. -/
def plain {ε α : Type} (describe : ε → Answer) (result : α → Answer) :
    Option (Outcome ε α) → Answer
  | some (.value a) => result a
  | some (.error e) => describe e
  | some (.panic text) => .broken text
  | none => .broken "the operation does not end"

/-- The row without its lease at the given place; the last one takes the place. -/
def swapRemove (held : List (Lease Serial)) (i : Nat) : List (Lease Serial) :=
  match held.getLast? with
  | some last => (held.set i last).dropLast
  | none => []

/-- Give the session of a lease back. -/
def giveBack (s : Solo) (l : Lease Serial) : Solo × Answer :=
  let (s, outcome) := s.run moves l.giveBack.2
  (s, plain .failed (fun _ => .done) outcome)

/-- Do something to the session of a lease. -/
def touch (w : Walk) (l : Lease Serial) (f : ServerSession → ServerSession) : Walk :=
  match l.session with
  | some session => { w with solo := { w.solo with server := w.solo.server.modify session f } }
  | none => w

/-- Do something with the lease that the number names. -/
def withLease (w : Walk) (n : Nat) (f : Nat → Lease Serial → Walk × Answer) : Walk × Answer :=
  match w.held[n % w.held.length]? with
  | some l => f (n % w.held.length) l
  | none => (w, .nobody)

/-- One step of a walk. -/
def step (w : Walk) : Step → Walk × Answer
  | .acquire =>
    match w.solo.run moves Acquire.impatient with
    | (solo, some (.value (some loan))) =>
      ({ solo, held := w.held ++ [.issue 0 loan] }, .acquired loan.info.key)
    | (solo, outcome) => ({ w with solo }, plain .failed (fun _ => .full) outcome)
  | .refuse n =>
    ({ w with solo := { w.solo with server := w.solo.server.refuseNext n } }, .done)
  | .cap n =>
    let (solo, outcome) := w.solo.run moves (Resize.write n)
    ({ w with solo }, plain .failed (fun _ => .done) outcome)
  | .release n =>
    w.withLease n fun i l =>
      let (solo, answer) := giveBack w.solo l
      ({ solo, held := swapRemove w.held i }, answer)
  | .drop n =>
    w.withLease n fun i l => ({ solo := (giveBack w.solo l).1, held := swapRemove w.held i }, .done)
  | .detach n =>
    w.withLease n fun i l =>
      let (solo, outcome) := w.solo.run moves (Surrender.start l)
      ({ solo, held := swapRemove w.held i }, plain .failed .detached outcome)
  | .kill n => w.withLease n fun _ l => (w.touch l .kill, .done)
  | .reopen n => w.withLease n fun _ l => (w.touch l .connect, .reopened)

/-- What is seen of a walk after a step. -/
structure Sight where
  answer : Answer
  snapshot : Snapshot
  /-- The keys of the row. -/
  held : List SessionKey
  deriving Repr

/-- What is seen of a walk. -/
def look (w : Walk) (answer : Answer) : Sight :=
  { answer
    snapshot := w.solo.pool.snapshot w.solo.pool.settings.maxConnections
    held := w.held.map (·.info.key) }

/-- Take the steps in order. Answers what is seen after each, and the end of the walk. -/
def run (w : Walk) : List Step → List Sight × Walk
  | [] => ([], w)
  | s :: rest =>
    let (w, answer) := w.step s
    let (sights, last) := run w rest
    (w.look answer :: sights, last)

/-- Drop all leases of the row in order. -/
def dropAll (w : Walk) : Walk :=
  { solo := w.held.foldl (fun s l => (giveBack s l).1) w.solo, held := [] }

end Walk

end ConnectionPool
