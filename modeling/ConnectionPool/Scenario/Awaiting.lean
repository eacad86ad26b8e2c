import ConnectionPool.Polling
import ConnectionPool.Scenario.Program

set_option autoImplicit false

/-! # Waiting for a condition

A step may wait for a pool or its server to get into a certain state. It polls, and gives up after
some time. -/

namespace ConnectionPool

namespace Scenario

namespace Condition

/-- Whether what is waited for has come true. At a session that the server has not made it never
does. -/
def holds (c : Condition) (s : Site) : Bool :=
  match c with
  | .heartbeats n => n ≤ s.pool.heartbeats.toNat
  | .idle n => s.pool.idle.size == n
  | .total n => s.pool.total == n
  | .evictions n => n ≤ s.pool.tally.evictions.toNat
  | .closed n => s.pool.closed.toNat == n
  | .attempts n => n ≤ s.server.attempts.toNat
  | .statement session text n => (s.server.find? session).any (n ≤ ·.countOf text)
  | .querying session n => (s.server.find? session).any (·.isQuerying.toNat == n)

/-- How a look at the condition holds the rosters. -/
def hold : Condition → Hold
  | .idle _ | .total _ => .shared
  | _ => .nothing

end Condition

namespace Program

/-- The longest time that a scenario waits for a condition. -/
def waitingTime : Duration := .ofSeconds 5

/-- Poll until a pool or its server is as told, or the time is over. -/
def awaitSite (pool : PoolId) (c : Condition) : Program Answer := do
  let start ← read (·.now)
  let look (w : World) (next : Instant) : Turn Instant Bool :=
    if w.now < next then .wait (some next)
    else
      match w.approach pool c.hold with
      | .pass w =>
        if (w.sites[pool]?).any c.holds then .finish w true
        else if start.after waitingTime ≤ w.now then .finish w false
        else .next w (w.now.after Polling.interval)
      | .lineUp w => .next w next
      | .wait => .wait none
  return .flag (← loop start look done)

end Program

end Scenario

end ConnectionPool
