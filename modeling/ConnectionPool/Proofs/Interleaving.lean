import ConnectionPool.Builder
import ConnectionPool.Lease
import ConnectionPool.Operation.Acquire
import ConnectionPool.Operation.Heartbeat
import ConnectionPool.Operation.Resize
import ConnectionPool.Operation.Shutdown

set_option autoImplicit false

/-! # All that can happen to pools

Any number of pools, the calls that are in progress on them, and the leases that callers hold. One
`Choice` is one thing that happens next: a call begins, takes a step, hears from the world outside,
or hands its results over. Nothing restricts the order of the choices, so a statement about every
`Run` is one about every interleaving of every caller with every other.

A step of a call is a step of its operation: one locked section, one access to a shared variable, or
the answer of a session or source. What an operation cannot know is chosen anew for every step:
which sessions are connected, and whether the rosters are contended. A source hands sessions over
for good, so a session that it answers with is never one that was delivered before
(`Choice.Fresh`). -/

namespace ConnectionPool

namespace Interleaving

variable {S : Type}

/-! ## Calls -/

inductive Reply (S : Type) where
  | created (outcome : Outcome Cause S)
  | opened (outcome : Outcome Cause Unit)
  | queried (outcome : Outcome Cause Unit)
  | closed (outcome : Outcome Empty Unit)
  deriving DecidableEq, Repr

/-- The session that a source hands over with its answer. -/
def Reply.delivery : Reply S → Option S
  | created (.value session) => some session
  | _ => none

end Interleaving

/-- The phase that follows an answer, if it is one that the operation waits for. -/
def Status.answer {S τ ε α : Type} : Status S τ ε α → Interleaving.Reply S → Option τ
  | .creating _ next, .created outcome => some (next outcome)
  | .opening _ next, .opened outcome => some (next outcome)
  | .querying _ _ next, .queried outcome => some (next outcome)
  | .closing _ next, .closed outcome => some (next outcome)
  | _, _ => none

/-- Whether the operation has ended. -/
def Status.isEnded {S τ ε α : Type} : Status S τ ε α → Bool
  | .ended _ => true
  | _ => false

namespace Interleaving

variable {S : Type}

/-- What a call is about, and how far it has come. -/
inductive Task (S : Type) where
  | acquire (phase : Acquire S)
  /-- A lease gives its session back. Its holder keeps the emptied lease, unless it was dropped. -/
  | giveBack (kept : Option (Lease S)) (phase : Return S)
  | transfer (phase : Transfer S)
  | surrender (phase : Surrender S)
  | cycle (phase : Heartbeat S)
  | work (phase : Worker S)
  | resize (phase : Resize)
  | shutDown (phase : Shutdown S)
  /-- The owner gives the pool up, which shuts it down first. -/
  | drop (phase : Shutdown S)
  /-- The results were handed over. -/
  | returned
  deriving DecidableEq, Repr

namespace Task

def step (v : View S) (p : Pool S) : Task S → Option (Pool S × Task S)
  | acquire a => (a.step v p).map fun (p, a) => (p, acquire a)
  | giveBack kept r => (r.step v p).map fun (p, r) => (p, giveBack kept r)
  | transfer t => (t.step v p).map fun (p, t) => (p, transfer t)
  | surrender d => (d.step v p).map fun (p, d) => (p, surrender d)
  | cycle b => (b.step v p).map fun (p, b) => (p, cycle b)
  | work w => (w.step v p).map fun (p, w) => (p, work w)
  | resize c => (c.step v p).map fun (p, c) => (p, resize c)
  | shutDown d => (d.step v p).map fun (p, d) => (p, shutDown d)
  | drop d => (d.step v p).map fun (p, d) => (p, drop d)
  | returned => none

/-- The call after an answer that it waits for. -/
def answer (reply : Reply S) : Task S → Option (Task S)
  | acquire a => (a.status.answer reply).map acquire
  | giveBack kept r => (r.status.answer reply).map (giveBack kept)
  | transfer t => (t.status.answer reply).map transfer
  | surrender d => (d.status.answer reply).map surrender
  | cycle b => (b.status.answer reply).map cycle
  | work w => (w.status.answer reply).map work
  | shutDown d => (d.status.answer reply).map shutDown
  | drop d => (d.status.answer reply).map drop
  | resize _ | returned => none

/-- Whether the operation has ended, and its results are still to be handed over. -/
def isEnded : Task S → Bool
  | acquire a => a.status.isEnded
  | giveBack _ r => r.status.isEnded
  | transfer t => t.status.isEnded
  | surrender d => d.status.isEnded
  | cycle b => b.status.isEnded
  | work w => w.status.isEnded
  | resize c => (c.status : Status S Resize Error Unit).isEnded
  | shutDown d | drop d => d.status.isEnded
  | returned => false

/-- Whether the call keeps its pool in existence. -/
def keeps : Task S → Bool
  | giveBack _ r => r.holdsPool
  | transfer t => t.holdsPool
  | surrender d => d.holdsPool
  | work w => w.holdsPool
  | cycle _ | drop _ => true
  | acquire _ | resize _ | shutDown _ | returned => false

/-- Whether the call relies on the owner of the pool not to give it up meanwhile. -/
def borrows : Task S → Bool
  | acquire _ | resize _ | shutDown _ => true
  | _ => false

/-- The leases that the call works on. They are handed over at its end. -/
def leases : Task S → List (Lease S)
  | giveBack kept _ => kept.toList
  | transfer (.replace old source _) => [⟨source.home, none, old⟩, source]
  | transfer (.refuse target _) | transfer (.abandon target _ _) | transfer (.done target _) =>
    [target]
  | _ => []

/-- The session that the call has been lent and is about to hand over. -/
def loan? : Task S → Option (Record S)
  | acquire (.done (.value loan?)) => loan?
  | _ => none

end Task

structure Call (S : Type) where
  home : PoolId
  /-- Whether the heartbeat worker of the pool makes it, by way of a session. -/
  byWorker : Bool := false
  task : Task S
  deriving DecidableEq, Repr

/-- The leases that a call hands over at its end. -/
def Call.yields (c : Call S) : List (Lease S) :=
  c.task.leases ++ c.task.loan?.toList.map (.issue c.home)

/-! ## States -/

/-- A pool, and whether its owner still has it. -/
structure Site (S : Type) where
  pool : Pool S
  owned : Bool := true
  deriving DecidableEq

/-- Pools, and what is going on with them. Pools and calls are known by their places in the
lists. -/
structure State (S : Type) where
  now : Instant := .start
  sites : List (Site S) := []
  /-- The leases that callers hold, the emptied ones included. -/
  leases : List (Lease S) := []
  calls : List (Call S) := []
  /-- The sessions that sources have handed over. -/
  delivered : List S := []
  deriving DecidableEq

namespace State

def pool? (s : State S) (home : PoolId) : Option (Pool S) := (s.sites[home]?).map (·.pool)

def owned (s : State S) (home : PoolId) : Bool := (s.sites[home]?).any (·.owned)

/-- Whether the pool still exists. -/
def alive (s : State S) (home : PoolId) : Bool :=
  s.owned home || s.calls.any fun c => c.home == home && c.task.keeps

/-- Whether a call relies on the owner of the pool. -/
def borrowed (s : State S) (home : PoolId) : Bool :=
  s.calls.any fun c => c.home == home && c.task.borrows

end State

/-! ## Choices -/

/-- A change of a pool that is made in one go. -/
inductive Adjustment where
  | acquireTimeout (d : Duration)
  | heartbeatInterval (d : Duration)
  | heartbeatQuery (text : String)
  | source (source : Source)
  | resetHeartbeats
  deriving DecidableEq, Repr

/-- The pool after a change; a blank statement changes nothing. -/
def Adjustment.apply (p : Pool S) : Adjustment → Pool S
  | .acquireTimeout d => p.setAcquireTimeout d
  | .heartbeatInterval d => p.setHeartbeatInterval d
  | .heartbeatQuery text =>
    match p.setHeartbeatQuery text with
    | .ok p => p
    | .error _ => p
  | .source origin => p.setSource origin
  | .resetHeartbeats => p.resetHeartbeats

/-- What a caller may ask for. Leases are told by their places among those that are held. -/
inductive Request where
  | acquire (home : PoolId)
  | acquireWithin (home : PoolId) (limit : Duration)
  | tryAcquire (home : PoolId)
  | resize (home : PoolId) (count : UInt32)
  | shutDown (home : PoolId) (byWorker : Bool)
  | cycle (home : PoolId) (interval : Duration) (statement : String)
  /-- Give the session back, and keep the lease. -/
  | release (lease : Nat)
  | dropLease (lease : Nat)
  /-- Move the session of one lease into another; the place of the target is the one it has once the
  source is taken away. -/
  | transfer (target source : Nat)
  | surrender (lease : Nat)
  deriving DecidableEq, Repr

inductive Choice (S : Type) where
  | pass (d : Duration)
  | build (builder : Builder)
  | adjust (home : PoolId) (change : Adjustment)
  | begin (request : Request)
  /-- The owner of a pool gives it up. -/
  | drop (home : PoolId) (byWorker : Bool)
  | step (call : Nat) (connected : S → Bool) (contended : Bool)
  | answer (call : Nat) (reply : Reply S)
  | finish (call : Nat)

namespace State

/-- The call that a request begins, and the leases that are still held. -/
def enter (s : State S) : Request → Option (List (Lease S) × Call S)
  | .acquire home =>
    if s.owned home then some (s.leases, ⟨home, false, .acquire .patient⟩) else none
  | .acquireWithin home limit =>
    if s.owned home then some (s.leases, ⟨home, false, .acquire (.within limit)⟩) else none
  | .tryAcquire home =>
    if s.owned home then some (s.leases, ⟨home, false, .acquire .impatient⟩) else none
  | .resize home count =>
    if s.owned home then some (s.leases, ⟨home, false, .resize (.write count)⟩) else none
  | .shutDown home byWorker =>
    if s.owned home then some (s.leases, ⟨home, byWorker, .shutDown .close⟩) else none
  | .cycle home interval statement =>
    if s.alive home then some (s.leases, ⟨home, false, .cycle (.select interval statement)⟩)
      else none
  | .release n => do
    let lease ← s.leases[n]?
    some (s.leases.eraseIdx n,
      ⟨lease.home, false, .giveBack (some lease.giveBack.1) lease.giveBack.2⟩)
  | .dropLease n => do
    let lease ← s.leases[n]?
    some (s.leases.eraseIdx n, ⟨lease.home, false, .giveBack none lease.giveBack.2⟩)
  | .transfer m n => do
    let source ← s.leases[n]?
    let target ← (s.leases.eraseIdx n)[m]?
    some ((s.leases.eraseIdx n).eraseIdx m, ⟨source.home, false, .transfer (.start target source)⟩)
  | .surrender n => do
    let lease ← s.leases[n]?
    some (s.leases.eraseIdx n, ⟨lease.home, false, .surrender (.start lease)⟩)

/-- What a call can see of the world. -/
def view (s : State S) (c : Call S) (connected : S → Bool) (contended : Bool) : View S :=
  { now := s.now, connected, alive := s.alive c.home, contended, byWorker := c.byWorker }

/-- The state in which a call has gone on and has changed its pool. -/
def put (s : State S) (i : Nat) (call : Call S) (site : Site S) (pool : Pool S) (task : Task S) :
    State S :=
  { s with
    sites := s.sites.set call.home { site with pool }
    calls := s.calls.set i { call with task } }

def advance (s : State S) (i : Nat) (go : Call S → Pool S → Option (Pool S × Task S)) :
    Option (State S) := do
  let call ← s.calls[i]?
  let site ← s.sites[call.home]?
  let (pool, task) ← go call site.pool
  some (s.put i call site pool task)

/-- The state after a choice, if it can be made. -/
def act (s : State S) : Choice S → Option (State S)
  | .pass d => some { s with now := s.now.after d }
  | .build builder =>
    match builder.build s.now with
    | .ok pool => some { s with
        sites := s.sites ++ [{ pool }]
        calls := s.calls ++ [⟨s.sites.length, false, .work .start⟩] }
    | .error _ => none
  | .adjust home change => do
    let site ← s.sites[home]?
    if site.owned then
      some { s with sites := s.sites.set home { site with pool := change.apply site.pool } }
    else none
  | .begin request => do
    let (leases, call) ← s.enter request
    some { s with leases, calls := s.calls ++ [call] }
  | .drop home byWorker => do
    let site ← s.sites[home]?
    if site.owned && !s.borrowed home then
      some { s with
        sites := s.sites.set home { site with owned := false }
        calls := s.calls ++ [⟨home, byWorker, .drop .close⟩] }
    else none
  | .step i connected contended =>
    s.advance i fun call p => call.task.step (s.view call connected contended) p
  | .answer i reply => do
    let s' ← s.advance i fun call p => (call.task.answer reply).map fun task => (p, task)
    some { s' with delivered := reply.delivery.toList ++ s.delivered }
  | .finish i => do
    let call ← s.calls[i]?
    if call.task.isEnded then
      some { s with
        leases := s.leases ++ call.yields
        calls := s.calls.set i { call with task := .returned } }
    else none

end State

/-! ## What a choice does -/

inductive Happens (s : State S) : Choice S → State S → Prop
  | pass (d : Duration) : Happens s (.pass d) { s with now := s.now.after d }
  | build {builder : Builder} {pool : Pool S} (built : builder.build s.now = .ok pool) :
      Happens s (.build builder)
        { s with
          sites := s.sites ++ [{ pool }]
          calls := s.calls ++ [⟨s.sites.length, false, .work .start⟩] }
  | adjust {home : PoolId} {change : Adjustment} {site : Site S}
      (found : s.sites[home]? = some site) : Happens s (.adjust home change)
        { s with sites := s.sites.set home { site with pool := change.apply site.pool } }
  | begin {request : Request} {leases : List (Lease S)} {call : Call S}
      (admitted : s.enter request = some (leases, call)) :
      Happens s (.begin request) { s with leases, calls := s.calls ++ [call] }
  | drop {home : PoolId} {byWorker : Bool} {site : Site S} (found : s.sites[home]? = some site)
      (owned : site.owned = true) (free : s.borrowed home = false) :
      Happens s (.drop home byWorker)
        { s with
          sites := s.sites.set home { site with owned := false }
          calls := s.calls ++ [⟨home, byWorker, .drop .close⟩] }
  | step {i : Nat} {connected : S → Bool} {contended : Bool} {call : Call S} {site : Site S}
      {p' : Pool S} {t' : Task S} (atWork : s.calls[i]? = some call)
      (found : s.sites[call.home]? = some site)
      (did : call.task.step (s.view call connected contended) site.pool = some (p', t')) :
      Happens s (.step i connected contended) (s.put i call site p' t')
  | answer {i : Nat} {reply : Reply S} {call : Call S} {site : Site S} {t' : Task S}
      (atWork : s.calls[i]? = some call) (found : s.sites[call.home]? = some site)
      (did : call.task.answer reply = some t') :
      Happens s (.answer i reply)
        { s.put i call site site.pool t' with delivered := reply.delivery.toList ++ s.delivered }
  | finish {i : Nat} {call : Call S} (atWork : s.calls[i]? = some call)
      (ended : call.task.isEnded = true) :
      Happens s (.finish i)
        { s with
          leases := s.leases ++ call.yields
          calls := s.calls.set i { call with task := .returned } }

theorem happens_of_act {s s' : State S} {c : Choice S} (h : s.act c = some s') :
    Happens s c s' := by
  cases c with
  | pass d =>
    cases h
    exact .pass d
  | build builder =>
    simp only [State.act] at h
    split at h
    · next pool hb =>
      cases h
      exact .build hb
    · cases h
  | adjust home change =>
    obtain ⟨site, found, h⟩ := Option.bind_eq_some_iff.1 h
    split at h
    · cases h
      exact .adjust found
    · cases h
  | begin request =>
    obtain ⟨⟨leases, call⟩, admitted, h⟩ := Option.bind_eq_some_iff.1 h
    cases h
    exact .begin admitted
  | drop home byWorker =>
    obtain ⟨site, found, h⟩ := Option.bind_eq_some_iff.1 h
    split at h
    · next hc =>
      cases h
      simp only [Bool.and_eq_true, Bool.not_eq_true'] at hc
      exact .drop found hc.1 hc.2
    · cases h
  | step i connected contended =>
    obtain ⟨call, atWork, h⟩ := Option.bind_eq_some_iff.1 h
    obtain ⟨site, found, h⟩ := Option.bind_eq_some_iff.1 h
    obtain ⟨⟨p', t'⟩, did, h⟩ := Option.bind_eq_some_iff.1 h
    cases h
    exact .step atWork found did
  | answer i reply =>
    -- the call goes on first, then the session is noted as delivered
    obtain ⟨s₁, hs₁, h⟩ := Option.bind_eq_some_iff.1 h
    obtain ⟨call, atWork, hs₁⟩ := Option.bind_eq_some_iff.1 hs₁
    obtain ⟨site, found, hs₁⟩ := Option.bind_eq_some_iff.1 hs₁
    obtain ⟨⟨p', t'⟩, did, hs₁⟩ := Option.bind_eq_some_iff.1 hs₁
    obtain ⟨task, did, ht⟩ := Option.map_eq_some_iff.1 did
    cases ht
    cases hs₁
    cases h
    exact .answer atWork found did
  | finish i =>
    obtain ⟨call, atWork, h⟩ := Option.bind_eq_some_iff.1 h
    split at h
    · next ended =>
      cases h
      exact .finish atWork ended
    · cases h

/-! ## Runs -/

/-- A source never hands the same session over twice. -/
def Choice.Fresh (s : State S) : Choice S → Prop
  | .answer _ reply => ∀ session ∈ reply.delivery, session ∉ s.delivered
  | _ => True

/-- The states and choices that lead from the beginning to a state, the latest first. -/
inductive Run : List (State S × Choice S) → State S → Prop
  | start (now : Instant) : Run [] { now }
  | next {past : List (State S × Choice S)} {s s' : State S} {c : Choice S} (run : Run past s)
      (fresh : c.Fresh s) (act : s.act c = some s') : Run ((s, c) :: past) s'

/-- Every step of a run leads on from a state that a shorter run has reached. -/
theorem Run.of_mem {past : List (State S × Choice S)} {s s₀ : State S} {c : Choice S}
    (run : Run past s) (h : (s₀, c) ∈ past) :
    ∃ before after s₁, past = after ++ (s₀, c) :: before ∧ Run before s₀ ∧ s₀.act c = some s₁ := by
  induction run with
  | start => simp at h
  | next run fresh act ih =>
    rcases List.mem_cons.1 h with h | h
    · cases h
      exact ⟨_, [], _, rfl, run, act⟩
    · obtain ⟨before, after, s₁, rfl, run₀, act₀⟩ := ih h
      exact ⟨before, _ :: after, s₁, rfl, run₀, act₀⟩

/-! ## Scripts -/

instance [DecidableEq S] (s : State S) : (c : Choice S) → Decidable (c.Fresh s)
  | .answer _ reply =>
    inferInstanceAs (Decidable (∀ session ∈ reply.delivery, session ∉ s.delivered))
  | .pass _ | .build _ | .adjust _ _ | .begin _ | .drop _ _ | .step _ _ _ | .finish _ =>
    isTrue trivial

/-- The run that follows a script from a state on, if every choice of it can be made. -/
def follow [DecidableEq S] : List (State S × Choice S) → State S → List (Choice S) →
    Option (List (State S × Choice S) × State S)
  | past, s, [] => some (past, s)
  | past, s, c :: rest =>
    if c.Fresh s then
      match s.act c with
      | some s' => follow ((s, c) :: past) s' rest
      | none => none
    else none

theorem run_of_follow [DecidableEq S] {past past' : List (State S × Choice S)} {s s' : State S}
    {script : List (Choice S)} (run : Run past s) (h : follow past s script = some (past', s')) :
    Run past' s' := by
  induction script generalizing past s with
  | nil =>
    cases h
    exact run
  | cons c rest ih =>
    simp only [follow] at h
    split at h
    · next fresh =>
      split at h
      · next s₁ act => exact ih (.next run fresh act) h
      · cases h
    · cases h

def play [DecidableEq S]
    (script : List (Choice S)) : Option (List (State S × Choice S) × State S) :=
  follow [] {} script

theorem run_of_play [DecidableEq S] {past : List (State S × Choice S)} {s : State S}
    {script : List (Choice S)} (h : play script = some (past, s)) : Run past s :=
  run_of_follow (.start .start) h

/-- A call takes a number of steps, and finds every session connected. -/
def steps (call n : Nat) : List (Choice Nat) := List.replicate n (.step call (fun _ => true) false)

/-- A call that asks the first pool for a session and is lent a new one. -/
def lending (call : Nat) (session : Nat) : List (Choice Nat) :=
  [.begin (.tryAcquire 0)] ++ List.replicate 6 (.step call (fun _ => true) false) ++
    [.answer call (.created (.value session))] ++
    List.replicate 4 (.step call (fun _ => true) false) ++ [.finish call]

end Interleaving

end ConnectionPool
