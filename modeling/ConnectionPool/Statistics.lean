import ConnectionPool.Text.Json
import ConnectionPool.Time

set_option autoImplicit false

/-! # Statistics of a pool

A `Snapshot` tells how many sessions a pool has at one moment, a `Tally` what has happened to it so
far, and `Metrics` is a tally together with the age of the pool.

Counters are 64 bits wide and wrap. A rate is the binary64 quotient of two counters, each first
rounded to the nearest binary64 number, ties to even; with nothing counted a success rate is one. -/

namespace ConnectionPool

/-! ## Snapshots -/

/-- The sessions of a pool at one moment. -/
structure Snapshot where
  /-- Idle and active sessions together. -/
  total : UInt32 := 0
  /-- Sessions that callers have. -/
  active : UInt32 := 0
  /-- Sessions that nobody has, those under probe included. -/
  idle : UInt32 := 0
  /-- Successful probes since the count was last set to zero. -/
  heartbeats : UInt64 := 0
  /-- The greatest number of sessions allowed at that moment. -/
  max : UInt32 := 0
  deriving DecidableEq, Repr, Inhabited

namespace Snapshot

/-- How much of the allowed number is active, in percent; nothing is used of a pool without room. -/
def utilization (s : Snapshot) : Float :=
  if s.max = 0 then 0.0 else (s.active.toFloat / s.max.toFloat) * 100.0

/-- Whether no further session is allowed. -/
def atCapacity (s : Snapshot) : Bool := decide (s.max ≤ s.total)

/-- The snapshot as JSON text. -/
def json (s : Snapshot) : String :=
  Text.jsonObject [("total", toString s.total), ("active", toString s.active),
    ("idle", toString s.idle), ("heartbeats", toString s.heartbeats), ("max", toString s.max)]

end Snapshot

/-! ## Tallies -/

/-- What has happened to a pool since it was made. -/
structure Tally where
  /-- Sessions made for the pool. -/
  created : UInt64 := 0
  /-- Sessions closed by the pool. -/
  closed : UInt64 := 0
  /-- Requests for a session that were met. -/
  checkouts : UInt64 := 0
  /-- Requests for a session that failed. -/
  checkoutFailures : UInt64 := 0
  /-- Probes that were made. -/
  probes : UInt64 := 0
  /-- Probes that failed. -/
  probeFailures : UInt64 := 0
  /-- Sessions thrown out because they were dead on return or failed a probe. -/
  evictions : UInt64 := 0
  deriving DecidableEq, Repr, Inhabited

namespace Tally

/-- The share `part / whole` as a binary64 number; one if there is no whole. -/
def share (part whole : UInt64) : Float :=
  if whole = 0 then 1.0 else part.toFloat / whole.toFloat

/-- The share of requests that were met. -/
def checkoutRate (t : Tally) : Float := share t.checkouts (t.checkouts + t.checkoutFailures)

/-- The share of probes that succeeded. -/
def heartbeatRate (t : Tally) : Float := share (t.probes - t.probeFailures) t.probes

/-- All counters, in the order of their declaration. -/
def toList (t : Tally) : List UInt64 :=
  [t.created, t.closed, t.checkouts, t.checkoutFailures, t.probes, t.probeFailures, t.evictions]

end Tally

/-- A tally, and how long the pool has existed. -/
structure Metrics extends Tally where
  uptime : Duration
  deriving DecidableEq, Repr

namespace Metrics

/-- The metrics as JSON text. -/
def json (m : Metrics) : String :=
  Text.jsonObject [("connections_created", toString m.created),
    ("connections_closed", toString m.closed), ("checkouts_successful", toString m.checkouts),
    ("checkouts_failed", toString m.checkoutFailures), ("heartbeats_performed", toString m.probes),
    ("heartbeats_failed", toString m.probeFailures), ("evictions", toString m.evictions),
    ("uptime", Text.jsonObject [("secs", toString m.uptime.seconds),
      ("nanos", toString m.uptime.subsecond)])]

end Metrics

end ConnectionPool
