import ConnectionPool.SessionKey
import ConnectionPool.Time

set_option autoImplicit false

/-! # Records of pooled sessions

What a pool notes about each session it owns: the session's standing, when it was made, when it was
last known to be well, when it was last lent, and how often. A record passes through its standings
by `checkOut`, `checkIn`, `beginProbe` and `endProbe`; each does its work whatever the standing was,
and only the pool sees to it that they come in a sensible order. -/

namespace ConnectionPool

/-! ## Standing -/

/-- What is being done with a session. -/
inductive Standing where
  /-- Nobody has it, and it may be lent. -/
  | idle
  /-- A caller has it. -/
  | active
  /-- Nobody has it, and a probe of it is under way. -/
  | probing
  /-- Its probe failed, and it is about to be thrown out. -/
  | canceled
  deriving DecidableEq, Repr, Inhabited

namespace Standing

/-- The name of a standing. -/
def name : Standing → String
  | idle => "Idle"
  | active => "Active"
  | probing => "PendingHeartbeat"
  | canceled => "Canceled"

/-- Whether the session may be lent. -/
def isAvailable : Standing → Bool
  | idle => true
  | _ => false

/-- Whether the session is among those that nobody has. -/
def isShelved : Standing → Bool
  | active => false
  | _ => true

end Standing

/-! ## Metadata -/

/-- The bookkeeping of a session. -/
structure Metadata where
  key : SessionKey
  createdAt : Instant
  /-- When the session was last made, given back or probed with success. -/
  lastHeartbeat : Instant
  /-- When the session was last lent. -/
  lastCheckout : Option Instant
  /-- How often the session was lent. -/
  checkouts : UInt64
  standing : Standing
  deriving DecidableEq, Repr, Inhabited

namespace Metadata

/-- The bookkeeping of a session that was never lent. -/
def new (key : SessionKey) (standing : Standing) (now : Instant) : Metadata :=
  { key, createdAt := now, lastHeartbeat := now, lastCheckout := none, checkouts := 0, standing }

/-- The time since the session was made. -/
def age (m : Metadata) (now : Instant) : Duration := now.since m.createdAt

/-- The time since the session was last known to be well. -/
def sinceHeartbeat (m : Metadata) (now : Instant) : Duration := now.since m.lastHeartbeat

/-- The time since the session was last lent. -/
def sinceCheckout (m : Metadata) (now : Instant) : Option Duration := m.lastCheckout.map now.since

/-- Whether the session was last lent at the very moment it was made. -/
def isFresh (m : Metadata) : Bool := m.lastCheckout == some m.createdAt

/-- The same bookkeeping as if everything had happened earlier by the given time. -/
def aged (m : Metadata) (d : Duration) : Metadata :=
  { m with
    createdAt := m.createdAt.before d
    lastHeartbeat := m.lastHeartbeat.before d
    lastCheckout := m.lastCheckout.map (·.before d) }

/-- Whether everything can have happened earlier by the given time. -/
def canAge (m : Metadata) (d : Duration) : Bool :=
  (m.createdAt.before? d).isSome && (m.lastHeartbeat.before? d).isSome &&
    m.lastCheckout.all fun t => (t.before? d).isSome

/-- The bookkeeping as it reads at one moment: times since instead of instants. -/
structure Summary where
  key : SessionKey
  standing : Standing
  checkouts : UInt64
  age : Duration
  sinceHeartbeat : Duration
  sinceCheckout : Option Duration
  deriving DecidableEq, Repr

/-- How the bookkeeping reads now. -/
def summary (m : Metadata) (now : Instant) : Summary :=
  { key := m.key
    standing := m.standing
    checkouts := m.checkouts
    age := m.age now
    sinceHeartbeat := m.sinceHeartbeat now
    sinceCheckout := m.sinceCheckout now }

end Metadata

/-! ## Verdicts -/

/-- How a probe went. -/
inductive Verdict where
  | healthy
  | failed (reason : String)
  deriving DecidableEq, Repr, Inhabited

namespace Verdict

/-- Whether the probe succeeded. -/
def isHealthy : Verdict → Bool
  | healthy => true
  | failed _ => false

end Verdict

/-! ## Records -/

/-- A session of a pool with its bookkeeping; the sessions are of type `S`. -/
structure Record (S : Type) where
  session : S
  info : Metadata
  deriving DecidableEq, Repr, Inhabited

namespace Record

variable {S : Type}

/-- The record of a session that is lent as soon as it is made. -/
def lent (key : SessionKey) (session : S) (now : Instant) : Record S :=
  { session
    info := { Metadata.new key .active now with lastCheckout := some now, checkouts := 1 } }

/-- The record of a session that was never lent. -/
def shelved (key : SessionKey) (session : S) (now : Instant) : Record S :=
  { session, info := .new key .idle now }

/-- The standing of the session. -/
def standing (r : Record S) : Standing := r.info.standing

/-- The session is lent. -/
def checkOut (r : Record S) (now : Instant) : Record S :=
  { r with info := { r.info with
      standing := .active, lastCheckout := some now, checkouts := r.info.checkouts + 1 } }

/-- The session is given back. -/
def checkIn (r : Record S) (now : Instant) : Record S :=
  { r with info := { r.info with standing := .idle, lastHeartbeat := now } }

/-- Whether the session is idle and was left alone for longer than the interval. -/
def isDue (r : Record S) (interval : Duration) (now : Instant) : Bool :=
  r.standing == .idle && decide (interval < r.info.sinceHeartbeat now)

/-- A probe of the session begins. -/
def beginProbe (r : Record S) : Record S := { r with info := { r.info with standing := .probing } }

/-- The probe of the session has ended. -/
def endProbe (r : Record S) (verdict : Verdict) (now : Instant) : Record S :=
  if verdict.isHealthy then
    { r with info := { r.info with standing := .idle, lastHeartbeat := now } }
  else { r with info := { r.info with standing := .canceled } }

/-- The same record as if everything had happened earlier by the given time. -/
def aged (r : Record S) (d : Duration) : Record S := { r with info := r.info.aged d }

/-! Only the standing, the stamps and the count ever change. -/

@[simp] theorem session_checkOut (r : Record S) (now : Instant) :
    (r.checkOut now).session = r.session :=
  rfl

@[simp] theorem session_checkIn (r : Record S) (now : Instant) :
    (r.checkIn now).session = r.session :=
  rfl

@[simp] theorem key_checkOut (r : Record S) (now : Instant) :
    (r.checkOut now).info.key = r.info.key :=
  rfl

@[simp] theorem key_checkIn (r : Record S) (now : Instant) :
    (r.checkIn now).info.key = r.info.key :=
  rfl

@[simp] theorem session_endProbe (r : Record S) (v : Verdict) (now : Instant) :
    (r.endProbe v now).session = r.session := by
  unfold endProbe
  split <;> rfl

@[simp] theorem key_endProbe (r : Record S) (v : Verdict) (now : Instant) :
    (r.endProbe v now).info.key = r.info.key := by
  unfold endProbe
  split <;> rfl

theorem standing_of_isDue {r : Record S} {interval : Duration} {now : Instant}
    (h : r.isDue interval now = true) : r.standing = .idle := by
  simp only [isDue, Bool.and_eq_true, beq_iff_eq] at h
  exact h.1

end Record

end ConnectionPool
