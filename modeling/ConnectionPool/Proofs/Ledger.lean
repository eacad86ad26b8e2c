import ConnectionPool.Proofs.Role

set_option autoImplicit false

/-! # The ledger of one pool

What a run comes to from the point of view of a single pool: its shared state, the roles of the
calls on it, the records that unreleased leases hold, and what has happened to it so far. The order
of the entries does not count, and calls without a role are left out.

Whatever happens to all pools, the ledger of one of them changes in one of four ways (`Change`): a
call moves (`Moves`), the session of a lease passes into the hands of a call, a loan becomes a
lease, or nothing that concerns the pool happens. -/

namespace ConnectionPool

namespace Interleaving

variable {S : Type}

/-! ## What a state shows of a pool -/

def record? (home : PoolId) (l : Lease S) : Option (Record S) :=
  if l.home = home then l.session.map fun session => ⟨session, l.info⟩ else none

@[simp] theorem record?_spent (home at_ : PoolId) (info : Metadata) :
    record? home (⟨at_, none, info⟩ : Lease S) = none := by
  simp [record?]

/-- The records that the leases in the hands of a call hold. -/
def Call.held (home : PoolId) (c : Call S) : List (Record S) :=
  c.task.leases.filterMap (record? home)

def Call.roleAt (home : PoolId) (c : Call S) : List (Role S) :=
  if c.home = home then c.task.role.toList else []

namespace State

/-- The records that the unreleased leases of the pool hold. -/
def held (s : State S) (home : PoolId) : List (Record S) :=
  s.leases.filterMap (record? home) ++ s.calls.flatMap (Call.held home)

def roles (s : State S) (home : PoolId) : List (Role S) := s.calls.flatMap (Call.roleAt home)

/-- The session for which a choice draws a key of the pool, with the key. -/
def enrolment (s : State S) (home : PoolId) : Choice S → List (SessionKey × S)
  | .step i _ _ =>
    match s.calls[i]?, s.pool? home with
    | some ⟨at_, _, .acquire (.enrol session)⟩, some p =>
      if at_ = home then [(p.nextKey, session)] else []
    | _, _ => []
  | _ => []

/-- Whether a choice raises the epoch of the pool. -/
def notifies (s : State S) (home : PoolId) (c : Choice S) : Bool :=
  match s.pool? home, (s.act c).bind (·.pool? home) with
  | some p, some p' => p'.epoch != p.epoch
  | _, _ => false

def cap? (s : State S) (home : PoolId) : Option UInt32 :=
  (s.pool? home).map (·.settings.maxConnections)

end State

/-! ## What a run shows of a pool -/

/-- The sessions that were given a key of the pool, with their keys, the latest first. -/
def enrolled (home : PoolId) (past : List (State S × Choice S)) : List (SessionKey × S) :=
  past.flatMap fun e => e.1.enrolment home e.2

/-- The caps that were ever in force, the latest first. -/
def caps (home : PoolId) (past : List (State S × Choice S)) (s : State S) : List UInt32 :=
  (s :: past.map (·.1)).filterMap (·.cap? home)

/-- How often the epoch of the pool was raised. -/
def notices (home : PoolId) (past : List (State S × Choice S)) : Nat :=
  past.countP fun e => e.1.notifies home e.2

/-- A session breaks off while it is closed. -/
def Choice.breaksOff : Choice S → Bool
  | .answer _ (.closed (.panic _)) => true
  | _ => false

/-- No session ever broke off while it was closed. -/
def Calm (past : List (State S × Choice S)) : Prop := ∀ e ∈ past, e.2.breaksOff = false

/-! ## Ledgers -/

structure Ledger (S : Type) where
  pool : Pool S
  alive : Bool
  roles : List (Role S)
  held : List (Record S)
  enrolled : List (SessionKey × S)
  delivered : List S
  caps : List UInt32
  notices : Nat
  calm : Prop

def ledger (home : PoolId) (past : List (State S × Choice S)) (s : State S)
    (p : Pool S) : Ledger S :=
  { pool := p
    alive := s.alive home
    roles := s.roles home
    held := s.held home
    enrolled := Interleaving.enrolled home past
    delivered := s.delivered
    caps := Interleaving.caps home past s
    notices := Interleaving.notices home past
    calm := Calm past }

namespace Ledger

/-- The ledger of a pool that was just built. -/
structure New (d : Ledger S) : Prop where
  active : d.pool.active = .empty
  idle : d.pool.idle = .empty
  reserved : d.pool.reserved = 0
  epoch : d.pool.epoch = 0
  closed : d.pool.closed = false
  nextKey : d.pool.nextKey = ⟨1⟩
  roles : d.roles = []
  held : d.held = []
  enrolled : d.enrolled = []
  caps : d.caps = [d.pool.settings.maxConnections]
  notices : d.notices = 0

/-- What may become of the shared state, the roles and the leases of a pool. -/
inductive Change (d d' : Ledger S) : Prop
  | quiet (alike : Alike d.pool d'.pool) (roles : d'.roles.Perm d.roles)
      (held : d'.held.Perm d.held) (enrolled : d'.enrolled = d.enrolled)
  | move {v : View S} {reply : Option (Reply S)} {x y : Role S} {rest : List (Role S)}
      (moves : Moves v reply d.pool x d'.pool y) (before : d.roles.Perm (x.toList ++ rest))
      (after : d'.roles.Perm (y.toList ++ rest)) (held : d'.held.Perm d.held)
      (seen : v.alive = d.alive) (enrolled : d'.enrolled = x.enrolment y ++ d.enrolled)
      (fresh : ∀ session, reply = some (.created (.value session)) →
        session ∉ d.delivered ∧ session ∈ d'.delivered)
      (calm : d'.calm → ∀ text, reply ≠ some (.closed (.panic text)))
  /-- The session of a lease passes into the hands of a call. -/
  | claim {record : Record S} (pool : d'.pool = d.pool) (held : d.held.Perm (record :: d'.held))
      (roles : d'.roles.Perm (.claim record.info.key :: d.roles))
      (enrolled : d'.enrolled = d.enrolled)
  /-- A loan becomes a lease. -/
  | issue {record : Record S} (pool : d'.pool = d.pool)
      (roles : d.roles.Perm (.loan record :: d'.roles)) (held : d'.held.Perm (record :: d.held))
      (enrolled : d'.enrolled = d.enrolled)

/-- One thing that happens, as the pool sees it. -/
structure Next (d d' : Ledger S) : Prop where
  change : Change d d'
  alive : d'.alive = true → d.alive = true
  delivered : d.delivered ⊆ d'.delivered
  caps : d'.caps = d'.pool.settings.maxConnections :: d.caps
  notices : d'.notices = d.notices + if d'.pool.epoch = d.pool.epoch then 0 else 1
  calm : d'.calm → d.calm

end Ledger

end Interleaving

end ConnectionPool
