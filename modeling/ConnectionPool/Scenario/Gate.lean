import ConnectionPool.Operation

set_option autoImplicit false

/-! # The gate to the rosters of a pool

Threads that want to hold the rosters of a pool pass a gate. Any number of them may hold the rosters
together to read them; whoever changes them has to be alone. Who cannot pass at once waits in line,
and nobody overtakes: while somebody waits, others can only pass after it (`not_admits_of_waiting`),
so a thread that wants to change the rosters is not kept waiting by a stream of readers.

Sections take no time here, so only observers, who hold the rosters still for a while, are
counted. -/

namespace ConnectionPool

namespace Scenario

/-- The number by which threads are told apart. The first thread takes the steps of the scenario. -/
abbrev ThreadId := Nat

/-- The gate to the rosters of a pool. -/
structure Gate where
  /-- How many observers hold the rosters still. -/
  observers : Nat := 0
  /-- The threads in line, the one that has waited longest first. -/
  line : List ThreadId := []
  deriving DecidableEq, Repr, Inhabited

namespace Gate

/-- Whether nobody waits longer than the thread. -/
def isFirst (g : Gate) (thread : ThreadId) : Bool := g.line.head?.all (· == thread)

/-- Whether the thread may pass now. -/
def admits (g : Gate) (thread : ThreadId) : Hold → Bool
  | .nothing => true
  | .shared => g.isFirst thread
  | .exclusive => g.isFirst thread && g.observers == 0

/-- Whether somebody holds the rosters or waits for them. -/
def isContended (g : Gate) : Bool := g.observers != 0 || !g.line.isEmpty

/-- The thread is no longer in line. -/
def leave (g : Gate) (thread : ThreadId) : Gate := { g with line := g.line.erase thread }

/-- The thread is in line. -/
def join (g : Gate) (thread : ThreadId) : Gate :=
  if g.line.contains thread then g else { g with line := g.line ++ [thread] }

/-- An observer begins to hold the rosters. -/
def observe (g : Gate) : Gate := { g with observers := g.observers + 1 }

/-- An observer ceases to hold the rosters. -/
def release (g : Gate) : Gate := { g with observers := g.observers - 1 }

/-- Nobody overtakes the one who waits longest. -/
theorem not_admits_of_waiting {g : Gate} {first thread : ThreadId} {rest : List ThreadId} {h : Hold}
    (hline : g.line = first :: rest) (hne : first ≠ thread) (hh : h ≠ .nothing) :
    g.admits thread h = false := by
  cases h <;> simp_all [admits, isFirst]

/-- Nobody passes alone while the rosters are observed. -/
theorem not_admits_of_observed {g : Gate} (thread : ThreadId) (h : g.observers ≠ 0) :
    g.admits thread .exclusive = false := by
  simp [admits, h]

end Gate

end Scenario

end ConnectionPool
