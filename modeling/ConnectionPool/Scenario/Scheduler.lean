import ConnectionPool.Scenario.Perform

set_option autoImplicit false

/-! # Running a scenario

The threads of a scenario run on a clock of their own. One of them is at work; it goes on until it
has to wait, and the clock goes on by a moment with each of its steps. Then the turn goes to the
first of the others that can go on, where the one that has waited longest is asked first; it takes a
little to wake up. When all threads have to wait, the clock is put on to the earliest instant that
one of them waits for. So the outcome of a scenario depends on its steps alone, and every reading of
the clock is later than all readings before.

Whether a thread has to wait is asked before the clock goes on. So a thread that waits for less than
a moment lets the others have their turn too, and cannot keep them from their work by waiting for
next to nothing again and again. -/

namespace ConnectionPool

namespace Scenario

/-- What comes of giving a thread its turn. -/
inductive Progress where
  /-- The thread has taken a step. -/
  | went (w : World) (rest : Program Unit)
  /-- The thread has to wait, until the given instant at the latest. -/
  | waits (until? : Option Instant)
  /-- The thread has nothing left to do. -/
  | ended

namespace Program

/-- Take note of an operation on a pool that begins or ceases to keep it. -/
def rekeep (held holds : Bool) (s : Site) : Site :=
  { s with keepers := s.keepers - held.toNat + holds.toNat }

/-- The step of an operation on a pool. -/
def operateTurn {τ ε β : Type} [Stepwise Serial τ ε β] (w : World) (pool : PoolId) (t : τ)
    (next : Outcome ε β → Program Unit) : Progress :=
  let keeps : τ → Bool := Stepwise.holdsPool Serial
  let resume {γ : Type} (call : Program γ) (k : γ → τ) : Progress :=
    .went w (call.bind fun o =>
      (modify (·.modifySite pool (rekeep (keeps t) (keeps (k o))))).bind
        fun _ => operate pool (k o) next)
  match Stepwise.status (S := Serial) t with
  | .ended outcome => .went w (next outcome)
  | .creating source k => resume (create pool source) k
  | .opening session k => resume (connect pool session) k
  | .querying session statement k => resume (execute pool session statement) k
  | .closing session k => resume (disconnect pool session) k
  | .running =>
    match w.approach pool (Stepwise.hold Serial t) with
    | .wait => .waits none
    | .lineUp w => .went w (operate pool t next)
    | .pass w =>
      match w.sites[pool]? with
      | none => .ended
      | some s =>
        match Stepwise.step (w.view s) s.pool t with
        | none => .waits (Stepwise.wake? Serial t)
        | some (changed, t') =>
          .went
            (w.modifySite pool fun s =>
              rekeep (keeps t) (keeps t') { s with pool := changed })
            (operate pool t' next)

/-- Give a thread its turn. -/
def turn (w : World) : Program Unit → Progress
  | done _ | panic _ => .ended
  | access f next =>
    let (w, b) := f w
    .went w (next b)
  | loop s step next =>
    match step w s with
    | .next w s => .went w (loop s step next)
    | .wait until? => .waits until?
    | .finish w b => .went w (next b)
  | operate pool t next => operateTurn w pool t next
  | play [] next => .went w (next [])
  | play (step :: rest) next =>
    .went w ((reply step).bind fun r => play rest fun rs => next (r :: rs))

end Program

/-- A thread under way. -/
structure Thread where
  id : ThreadId
  program : Program Unit

/-- Give a thread its turn: if it need not wait now, it takes its step a moment later. -/
def Thread.turn (w : World) (t : Thread) : Progress :=
  match t.program.turn { w with current := t.id } with
  | .went _ _ => t.program.turn { w with current := t.id, now := w.now.after .moment }
  | idle => idle

/-- The threads under way. -/
structure Crew where
  /-- The thread at work. -/
  busy : Option Thread
  /-- The others, the one that has waited longest first. -/
  waiting : List Thread

/-- What comes of asking the waiting threads. -/
inductive Round where
  /-- One has taken a step, and is at work now. -/
  | went (w : World) (crew : Crew)
  /-- All have to wait, until the given instant at the latest. -/
  | waits (until? : Option Instant)

/-- The earlier of two instants, where a missing one never comes. -/
def earlier : Option Instant → Option Instant → Option Instant
  | some a, some b => some (if a ≤ b then a else b)
  | some a, none => some a
  | none, b => b

/-- Give the waiting threads their turn until one takes a step; those in `asked` had theirs, the
latest first. Threads with nothing left to do go. -/
def round (w : World) (asked : List Thread) (until? : Option Instant) : List Thread → Round
  | [] => .waits until?
  | t :: rest =>
    match t.turn w with
    | .went w program =>
      .went w { busy := some { t with program }, waiting := asked.reverse ++ rest }
    | .waits at? => round w (t :: asked) (earlier until? at?) rest
    | .ended => round w asked until? rest

/-- Begin the threads that were asked for. They come last. -/
def startThreads (w : World) (crew : Crew) : World × Crew :=
  ({ w with spawned := [], workers := [] },
    { crew with
      waiting := crew.waiting ++ w.spawned.map (fun (id, step) => ⟨id, Program.thread id step⟩) ++
        w.workers.map fun (id, pool) =>
          ⟨id, Program.operate pool Worker.start fun _ => Program.done ()⟩ })

/-- How long a thread takes to wake up when its turn comes: nothing beside a time that is waited on
purpose, but enough to bound how often the turn can change within a second. -/
def drowsiness : Duration := ⟨50000⟩

/-- Run the threads until the first one has ended, or none can ever go on, for at most so many
turns. -/
def runThreads : Nat → World → Crew → World
  | 0, w, _ => w
  | fuel + 1, w, crew =>
    if w.result.isSome then w
    else
      let (w, crew) := startThreads w crew
      match crew.busy with
      | some t =>
        match t.turn w with
        | .went w program => runThreads fuel w { crew with busy := some { t with program } }
        | .waits _ => runThreads fuel w { busy := none, waiting := crew.waiting ++ [t] }
        | .ended => runThreads fuel w { crew with busy := none }
      | none =>
        match round w [] none crew.waiting with
        | .went w crew => runThreads fuel { w with now := w.now.after drowsiness } crew
        | .waits (some at_) =>
          runThreads fuel { w with now := if w.now < at_ then at_ else w.now } crew
        | .waits none => w

/-- More turns than any scenario takes. -/
def turns : Nat := 1000000000

/-- Run a scenario from its first step to its end. -/
def run (script : List Step) : Result :=
  ((runThreads turns {} ⟨some ⟨0, Program.script script⟩, []⟩).result).getD default

end Scenario

end ConnectionPool
