set_option autoImplicit false

/-! # Durations and instants

Times are counted in whole nanoseconds. A `Duration` is a length of time, an `Instant` a reading of
a clock that never goes back. Instants are integers, so that a stamp may lie before the moment the
clock was started.

The clock shows at most `2 ^ 63` seconds. A deadline beyond that cannot be expressed, and
`Instant.after?` says so: whoever waits until such a deadline waits for ever. -/

namespace ConnectionPool

/-! ## Durations -/

/-- A length of time, in nanoseconds. -/
structure Duration where
  nanos : Nat
  deriving DecidableEq, Repr, Inhabited

namespace Duration

/-- The number of nanoseconds in a second. -/
def perSecond : Nat := 1000000000

/-- No time at all. -/
def zero : Duration := ⟨0⟩

/-- The given number of seconds and nanoseconds. -/
def ofParts (seconds nanos : Nat) : Duration := ⟨seconds * perSecond + nanos⟩

/-- A whole number of seconds. -/
def ofSeconds (n : Nat) : Duration := ofParts n 0

/-- A whole number of milliseconds. -/
def ofMillis (n : Nat) : Duration := ⟨n * 1000000⟩

/-- The whole seconds of a duration. -/
def seconds (d : Duration) : Nat := d.nanos / perSecond

/-- What is left of a duration beyond its whole seconds, in nanoseconds. -/
def subsecond (d : Duration) : Nat := d.nanos % perSecond

/-- The time between two readings of a simulated clock that follow each other at once: more than an
interval of a few nanoseconds, and so little that millions of them are not a second yet. -/
def moment : Duration := ⟨100⟩

/-- Whether the duration is zero. -/
def isZero (d : Duration) : Bool := d.nanos == 0

instance : LE Duration := ⟨fun a b => a.nanos ≤ b.nanos⟩
instance : LT Duration := ⟨fun a b => a.nanos < b.nanos⟩
instance (a b : Duration) : Decidable (a ≤ b) := inferInstanceAs (Decidable (a.nanos ≤ b.nanos))
instance (a b : Duration) : Decidable (a < b) := inferInstanceAs (Decidable (a.nanos < b.nanos))

@[simp] theorem le_def (a b : Duration) : a ≤ b ↔ a.nanos ≤ b.nanos := Iff.rfl

@[simp] theorem lt_def (a b : Duration) : a < b ↔ a.nanos < b.nanos := Iff.rfl

theorem isZero_iff (d : Duration) : d.isZero = true ↔ d = zero := by
  cases d
  simp [isZero, zero]

/-- A duration is its seconds and the nanoseconds beyond them. -/
theorem ofParts_seconds_subsecond (d : Duration) : ofParts d.seconds d.subsecond = d := by
  cases d
  simp only [ofParts, seconds, subsecond, mk.injEq]
  exact Nat.div_add_mod' _ _

end Duration

/-! ## Instants -/

/-- A reading of the clock, in nanoseconds after its start. -/
structure Instant where
  nanos : Int
  deriving DecidableEq, Repr, Inhabited

namespace Instant

/-- The first reading that anybody takes of a clock, which has been running for an hour by then. -/
def start : Instant := ⟨3600 * 1000000000⟩

/-- Instants stay below this many nanoseconds, and above as many before the start of the clock. -/
def horizon : Int := 9223372036854775808 * 1000000000

instance : LE Instant := ⟨fun a b => a.nanos ≤ b.nanos⟩
instance : LT Instant := ⟨fun a b => a.nanos < b.nanos⟩
instance (a b : Instant) : Decidable (a ≤ b) := inferInstanceAs (Decidable (a.nanos ≤ b.nanos))
instance (a b : Instant) : Decidable (a < b) := inferInstanceAs (Decidable (a.nanos < b.nanos))

@[simp] theorem le_def (a b : Instant) : a ≤ b ↔ a.nanos ≤ b.nanos := Iff.rfl

@[simp] theorem lt_def (a b : Instant) : a < b ↔ a.nanos < b.nanos := Iff.rfl

/-- The instant that lies the given time after `t`. -/
def after (t : Instant) (d : Duration) : Instant := ⟨t.nanos + d.nanos⟩

/-- The instant that lies the given time before `t`. -/
def before (t : Instant) (d : Duration) : Instant := ⟨t.nanos - d.nanos⟩

/-- The instant that lies the given time after `t`, if the clock can ever show it. -/
def after? (t : Instant) (d : Duration) : Option Instant :=
  if (t.after d).nanos < horizon then some (t.after d) else none

/-- The instant that lies the given time before `t`, if there is one. -/
def before? (t : Instant) (d : Duration) : Option Instant :=
  if -horizon ≤ (t.before d).nanos then some (t.before d) else none

/-- The panic of somebody who insists on an instant that is too late. -/
def tooLate : String := "overflow when adding duration to instant"

/-- The panic of somebody who insists on an instant that is too early. -/
def tooEarly : String := "overflow when subtracting duration from instant"

/-- The time from `stamp` to `t`; none has passed if `stamp` is the later one. -/
def since (t stamp : Instant) : Duration := ⟨(t.nanos - stamp.nanos).toNat⟩

/-- Time passes by the amount by which the later reading is moved on. -/
theorem since_after (t : Instant) (d : Duration) : (t.after d).since t = d := by
  have h : t.nanos + (d.nanos : Int) - t.nanos = d.nanos := by omega
  simp [since, after, h]

/-- Moving a stamp back makes it older by the same amount, once it is not in the future. -/
theorem since_before {t stamp : Instant} (d : Duration) (h : stamp ≤ t) :
    (t.since (stamp.before d)).nanos = (t.since stamp).nanos + d.nanos := by
  simp only [le_def] at h
  simp only [since, before]
  omega

end Instant

end ConnectionPool
