import ConnectionPool.Pool

set_option autoImplicit false

/-! # Building a pool

A builder gathers settings, one at a time or all at once, and a source of sessions, in any order;
the last word on each counts. Nothing is checked before the pool is built. -/

namespace ConnectionPool

/-- What a pool is to be built from. -/
structure Builder where
  settings : Settings := {}
  source : Option Source := none
  deriving DecidableEq, Repr, Inhabited

namespace Builder

/-- One word on the pool to be built. -/
inductive Request where
  /-- Change one setting. -/
  | change (change : Settings.Change)
  /-- Replace all settings. -/
  | settings (settings : Settings)
  /-- Say where sessions come from. -/
  | source (source : Source)
  deriving DecidableEq, Repr

/-- The builder after one request. -/
def apply (b : Builder) : Request → Builder
  | .change c => { b with settings := b.settings.change c }
  | .settings s => { b with settings := s }
  | .source s => { b with source := some s }

/-- The builder after the given requests. -/
def ofRequests (requests : List Request) : Builder := requests.foldl apply {}

/-- Build the pool, unless the settings have a flaw. -/
def build {S : Type} (b : Builder) (now : Instant) : Except Error (Pool S) :=
  match Pool.new b.settings now with
  | .ok pool => .ok { pool with source := b.source }
  | .error e => .error e

end Builder

end ConnectionPool
