import ConnectionPool.Time

set_option autoImplicit false

/-! # Polling

Whoever waits for a condition looks at it at once and then every ten milliseconds, until it holds or
the time is over. A look takes a moment, so with a time that is over at once there is one look; the
last look comes after the time is over, so there is always at least one. -/

namespace ConnectionPool

namespace Polling

/-- The time between two looks. -/
def interval : Duration := .ofMillis 10

/-- The time from the beginning of one look to the beginning of the next. -/
def period : Duration := ⟨interval.nanos + Duration.moment.nanos⟩

/-- The number of looks taken at a condition that never holds: the first look has ended after a
moment, each further one a period later, and the first that ends after the time is the last. -/
def looks (timeout : Duration) : Nat :=
  (timeout.nanos + interval.nanos + (period.nanos - 1)) / period.nanos

/-- Wait for a condition that holds from the given look on. Answers whether it was seen to hold, and
the number of looks taken. -/
def await (timeout : Duration) (holdsFrom : Nat) : Bool × Nat :=
  if max 1 holdsFrom ≤ looks timeout then (true, max 1 holdsFrom) else (false, looks timeout)

end Polling

end ConnectionPool
