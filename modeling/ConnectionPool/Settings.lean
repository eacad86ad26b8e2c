import ConnectionPool.Text.Blank
import ConnectionPool.Time

set_option autoImplicit false

/-! # Settings of a pool

The settings that a pool is made with, the changes that callers put together before it is made, and
the flaws that keep a pool from being made. Flaws are looked for in a fixed order and the first one
is reported, so settings with several flaws are refused for the earliest (`flaw?`); settings are
valid exactly if they have none (`flaw?_eq_none_iff`). -/

namespace ConnectionPool

/-- What governs the behaviour of a pool. -/
structure Settings where
  /-- The greatest number of sessions, idle and active together. -/
  maxConnections : UInt32 := 10
  /-- How long an acquirer waits for a session unless it says otherwise. -/
  acquireTimeout : Duration := .ofSeconds 30
  /-- How long a session is left alone before it is probed; zero turns heartbeats off. -/
  heartbeatInterval : Duration := .zero
  /-- The statement that probes an idle session. -/
  heartbeatQuery : String := "SELECT 1"
  /-- The pause between two heartbeat cycles. -/
  heartbeatTick : Duration := .ofMillis 500
  /-- The pause after a cycle that found the pool busy. -/
  busyTick : Duration := .ofMillis 100
  /-- The pause between two looks at the borrowed sessions during shutdown. -/
  shutdownPoll : Duration := .ofMillis 10
  /-- How long shutdown waits for borrowed sessions; for ever if absent. -/
  shutdownTimeout : Option Duration := none
  deriving DecidableEq, Repr, Inhabited

namespace Settings

/-! ## Changes -/

/-- One change to the settings. -/
inductive Change where
  | maxConnections (count : UInt32)
  | acquireTimeout (timeout : Duration)
  | heartbeatInterval (interval : Duration)
  | heartbeatQuery (text : String)
  | heartbeatTicks (nominal busy : Duration)
  | shutdownPoll (interval : Duration)
  | shutdownTimeout (timeout : Duration)
  deriving DecidableEq, Repr

/-- The settings after one change; nothing is checked. -/
def change (s : Settings) : Change → Settings
  | .maxConnections n => { s with maxConnections := n }
  | .acquireTimeout d => { s with acquireTimeout := d }
  | .heartbeatInterval d => { s with heartbeatInterval := d }
  | .heartbeatQuery q => { s with heartbeatQuery := q }
  | .heartbeatTicks nominal busy => { s with heartbeatTick := nominal, busyTick := busy }
  | .shutdownPoll d => { s with shutdownPoll := d }
  | .shutdownTimeout d => { s with shutdownTimeout := some d }

/-- The default settings with the given changes made in order. -/
def ofChanges (changes : List Change) : Settings := changes.foldl change {}

/-- Whether idle sessions are probed at all. -/
def heartbeatsEnabled (s : Settings) : Bool := !s.heartbeatInterval.isZero

/-! ## Validity -/

/-- A reason to refuse settings. -/
inductive Flaw where
  | noCapacity
  | blankQuery
  | zeroTick
  | zeroShutdownPoll
  deriving DecidableEq, Repr

/-- The wording of a flaw. -/
def Flaw.message : Flaw → String
  | noCapacity => "max_connections must be greater than 0"
  | blankQuery => "heartbeat_query cannot be empty"
  | zeroTick => "heartbeat ticks must be non-zero"
  | zeroShutdownPoll => "shutdown_poll_interval must be non-zero"

/-- The first flaw of the settings. -/
def flaw? (s : Settings) : Option Flaw :=
  if s.maxConnections = 0 then some .noCapacity
  else if Text.isBlank s.heartbeatQuery then some .blankQuery
  else if s.heartbeatTick.isZero || s.busyTick.isZero then some .zeroTick
  else if s.shutdownPoll.isZero then some .zeroShutdownPoll
  else none

/-- Settings that a pool may have: room for a session, a statement to probe with, and no pause of
zero length. -/
structure Valid (s : Settings) : Prop where
  capacity : s.maxConnections ≠ 0
  query : Text.isBlank s.heartbeatQuery = false
  tick : s.heartbeatTick.isZero = false
  busyTick : s.busyTick.isZero = false
  shutdownPoll : s.shutdownPoll.isZero = false

theorem flaw?_eq_none_iff (s : Settings) : s.flaw? = none ↔ s.Valid := by
  constructor
  · intro h
    simp only [flaw?] at h
    split at h
    · cases h
    split at h
    · cases h
    split at h
    · cases h
    split at h
    · cases h
    · simp_all only [Bool.or_eq_true, not_or, Bool.not_eq_true]
      constructor <;> simp_all
  · intro h
    simp [flaw?, h.capacity, h.query, h.tick, h.busyTick, h.shutdownPoll]

instance (s : Settings) : Decidable s.Valid := decidable_of_iff _ (flaw?_eq_none_iff s)

theorem valid_default : Valid {} := by
  refine ⟨by decide, ?_, rfl, rfl, rfl⟩
  decide +kernel

end Settings

end ConnectionPool
