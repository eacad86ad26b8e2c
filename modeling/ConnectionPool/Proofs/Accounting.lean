import Mathlib.Algebra.GroupWithZero.Nat
import Mathlib.Algebra.Order.BigOperators.Group.List
import Mathlib.Algebra.Order.Group.Nat
import ConnectionPool.Proofs.Books
import ConnectionPool.Proofs.Fates
import ConnectionPool.Proofs.Probing

set_option autoImplicit false

/-! # The accounts of a pool

What a pool has written down, and what the calls in progress have still to write down, add up to
what has happened (`Booked`). So when no call is in progress, every session that was made is in the
pool, or was counted as closed, or was taken out for a caller, and every probe was counted once
(`accounts`). In the middle of things the counters still bound each other: no session is counted as
closed before it is counted as made. -/

namespace ConnectionPool

namespace Interleaving

variable {S : Type} {v : View S} {home : PoolId} {past : List (State S × Choice S)} {s s' : State S}
  {c : Choice S} {p p' : Pool S}

/-! ## What is due, and what has happened -/

def Call.duesAt (home : PoolId) (c : Call S) : Dues := if c.home = home then c.task.dues else {}

/-- How much of something all calls on the pool have still to write down. -/
def State.due (s : State S) (home : PoolId) (f : Dues → Nat) : Nat :=
  (s.calls.map fun call => f (call.duesAt home)).sum

/-- The verdicts of all probes that cycles of the pool have made, the latest first. -/
def verdictsIn (home : PoolId) (past : List (State S × Choice S)) : List Verdict :=
  (probesIn home past).map fun e => Heartbeat.verdict e.2

/-- The count of successful probes was never set to zero. -/
def NeverReset (home : PoolId) (past : List (State S × Choice S)) : Prop :=
  ∀ e ∈ past, e.2 ≠ .adjust home .resetHeartbeats

theorem verdictsIn_cons : verdictsIn home ((s, c) :: past) =
    (s.probes home c).map (fun e => Heartbeat.verdict e.2) ++ verdictsIn home past := by
  rw [verdictsIn, probesIn_cons, List.map_append]
  rfl

theorem verdictsIn_of_none (none : s.probes home c = []) :
    verdictsIn home ((s, c) :: past) = verdictsIn home past := by
  rw [verdictsIn_cons, none]
  rfl

theorem detachedIn_of_none (none : s.detaches home c = []) :
    detachedIn home ((s, c) :: past) = detachedIn home past := by
  rw [detachedIn_cons, none]
  rfl

theorem NeverReset.of_cons {e : State S × Choice S} (h : NeverReset home (e :: past)) :
    NeverReset home past :=
  fun e he => h e (List.mem_cons_of_mem _ he)

/-- A call that goes on leaves the dues of the others alone. -/
theorem State.exists_due_set {i : Nat} {call : Call S}
    (atWork : s.calls[i]? = some call) (home : PoolId) :
    ∃ others : (Dues → Nat) → Nat, (∀ f, s.due home f = f (call.duesAt home) + others f) ∧
      ∀ (s' : State S) (call' : Call S), s'.calls = s.calls.set i call' →
        ∀ f, s'.due home f = f (call'.duesAt home) + others f := by
  obtain ⟨rest, before, after⟩ := exists_perm_flatMap_set (fun call => [call.duesAt home]) atWork
  have sum (calls : List (Call S)) (f : Dues → Nat) :
      (calls.map fun call => f (call.duesAt home)).sum =
        ((calls.flatMap fun call => [call.duesAt home]).map f).sum := by
    simp [← List.map_eq_flatMap, Function.comp_def]
  refine ⟨fun f => (rest.map f).sum, fun f => ?_, fun s' call' calls f => ?_⟩
  · rw [State.due, sum, (before.map f).sum_eq]
    simp
  · rw [State.due, calls, sum, ((after call').map f).sum_eq]
    simp

theorem State.exists_due_task {i : Nat} {call : Call S} (atWork : s.calls[i]? = some call) :
    ∃ others : (Dues → Nat) → Nat, (∀ f, s.due call.home f = f call.task.dues + others f) ∧
      ∀ (s' : State S) (task : Task S), s'.calls = s.calls.set i { call with task } →
        ∀ f, s'.due call.home f = f task.dues + others f := by
  obtain ⟨others, before, after⟩ := State.exists_due_set atWork call.home
  have mine (task : Task S) : ({ call with task } : Call S).duesAt call.home = task.dues :=
    if_pos rfl
  exact ⟨others, fun f => mine call.task ▸ before f,
    fun s' task calls f => mine task ▸ after s' _ calls f⟩

theorem State.due_append {call : Call S} (calls : s'.calls = s.calls ++ [call]) (f : Dues → Nat) :
    s'.due home f = s.due home f + f (call.duesAt home) := by
  simp [State.due, calls]

theorem State.due_eq_zero {f : Dues → Nat} (zero : f {} = 0)
    (none : ∀ call ∈ s.calls, call.home = home → call.task.dues = {}) : s.due home f = 0 := by
  refine List.sum_eq_zero fun n hn => ?_
  obtain ⟨call, hc, rfl⟩ := List.mem_map.1 hn
  unfold Call.duesAt
  split
  · next at_ => rw [none call hc at_, zero]
  · exact zero

/-- A call that begins owes nothing. -/
theorem Begins.dues {call : Call S} (h : Begins s c call) : call.task.dues = {} := by
  have giving (l : Lease S) : l.giveBack.2.dues = {} := by
    obtain ⟨at_, session, info⟩ := l
    cases session <;> rfl
  cases h with
  | acquire first => rcases first with rfl | ⟨limit, rfl⟩ <;> rfl
  | giveBack => exact giving _
  | transfer =>
    rw [Transfer.start]
    split <;> exact giving _
  | @surrender _ l =>
    obtain ⟨at_, session, info⟩ := l
    cases session <;> rfl
  | _ => rfl

/-- A call that has ended has written down all it had to. -/
theorem Task.dues_of_isEnded {t : Task S} (h : t.isEnded = true) :
    t.dues = { freed := t.freed.length } := by
  cases ended_of_isEnded h <;> rfl

theorem Task.dues_of_rests {t : Task S} (h : t.rests = true) : t.dues = {} := by
  cases t with
  | work w =>
    cases w with
    | cycle => cases h
    | _ => rfl
  | returned => rfl
  | _ => cases h

/-- Only an acquirer that was just lent a new session has to count it as made. -/
theorem Task.due_created (t : Task S) :
    t.dues.created = 0 ∨ ∃ loan, t = .acquire (.countNew loan) := by
  have giving (r : Return S) : r.dues.created = 0 := by
    cases r with
    | release r => cases r <;> rfl
    | _ => rfl
  cases t with
  | acquire a =>
    cases a with
    | countNew loan => exact .inr ⟨loan, rfl⟩
    | _ => exact .inl rfl
  | giveBack kept r => exact .inl (giving r)
  | transfer t =>
    cases t with
    | done => exact .inl rfl
    | _ => exact .inl (giving _)
  | cycle b => cases b <;> exact .inl rfl
  | work w =>
    cases w with
    | cycle nominal busy b => cases b <;> exact .inl rfl
    | _ => exact .inl rfl
  | shutDown d | drop d => cases d <;> exact .inl rfl
  | surrender | resize | returned => exact .inl rfl

/-- At least as many sessions are active as are still to be counted as made. -/
theorem Run.due_created_le (run : Run past s) (built : s.pool? home = some p)
    (few : (enrolled home past).length < UInt64.size) : s.due home (·.created) ≤ p.active.size := by
  obtain ⟨-, -, owned⟩ := run.custody built few
  have stakes : ((s.roles home).flatMap Role.stakes).Subperm p.active.keys := by
    refine List.subperm_ext_iff.2 fun key _ => ?_
    have most := owned.most key
    rw [Ledger.stakes, List.count_append] at most
    exact Nat.le_trans (Nat.le_add_left _ _) most
  -- each of them is the loan of a call, and no two calls have one loan
  have each (call : Call S) :
      (call.duesAt home).created ≤ ((call.roleAt home).flatMap Role.stakes).length := by
    unfold Call.duesAt Call.roleAt
    split
    · rcases call.task.due_created with none | ⟨loan, same⟩
      · rw [none]
        exact Nat.zero_le _
      · rw [same]
        exact Nat.le_refl 1
    · exact Nat.zero_le _
  calc s.due home (·.created)
      ≤ (s.calls.map fun call => ((call.roleAt home).flatMap Role.stakes).length).sum :=
        List.sum_le_sum fun call _ => each call
    _ = ((s.roles home).flatMap Role.stakes).length := by
        rw [State.roles, List.flatMap_assoc, List.length_flatMap]
    _ ≤ p.active.keys.length := stakes.length_le
    _ = p.active.size := by rw [Roster.keys, List.length_map, Roster.size]

/-- A session that is about to be put into the pool is in no roster of it. -/
theorem Run.vacant_of_recruit (run : Run past s) {i : Nat} {call : Call S} {r : Record S}
    (atWork : s.calls[i]? = some call) (built : s.pool? call.home = some p)
    (few : (enrolled call.home past).length < UInt64.size) (role : call.task.role = .recruit r) :
    p.places r.info.key = 0 := by
  obtain ⟨-, placed, -⟩ := run.custody built few
  have mem : r.info.key ∈ (s.roles call.home).flatMap Role.recruits := by
    refine List.mem_flatMap.2 ⟨.recruit r, ?_, List.mem_singleton.2 rfl⟩
    exact (State.mem_roles_iff (by simp)).2 ⟨i, call, atWork, rfl, role⟩
  have pos : 0 < ((s.roles call.home).flatMap Role.recruits).count r.info.key :=
    List.count_pos_iff.2 mem
  have apart : ((s.roles call.home).flatMap Role.recruits).count r.info.key +
      p.places r.info.key ≤ 1 :=
    placed.apart r.info.key
  omega

/-! ## The invariant -/

/-- What a pool has counted and what is still due add up to what has happened. -/
structure Booked (home : PoolId) (past : List (State S × Choice S)) (s : State S)
    (p : Pool S) : Prop where
  created : p.tally.created.toNat + s.due home (·.created) + s.due home (·.unused) ≤
    (enrolled home past).length
  /-- Sessions that are not accounted for were taken out, if no session broke off while it was
  closed. -/
  sessions : ∃ lost, p.tally.closed.toNat + s.due home (·.closed) + p.total + lost =
      p.tally.created.toNat + s.due home (·.created) ∧
    (Calm past → s.alive home = true → lost = (detachedIn home past).length + s.due home (·.freed))
  evictions : p.tally.evictions.toNat ≤ p.tally.closed.toNat
  failures : p.tally.probeFailures.toNat ≤ p.tally.probes.toNat
  probes : p.tally.probes.toNat + s.due home (·.probes) ≤ (verdictsIn home past).length
  credits : p.heartbeats.toNat + s.due home (·.credits) ≤
    (verdictsIn home past).countP Verdict.isHealthy
  probed : Calm past →
    p.tally.probes.toNat + s.due home (·.probes) = (verdictsIn home past).length ∧
    p.tally.probeFailures.toNat + s.due home (·.failures) =
      (verdictsIn home past).countP fun v => !v.isHealthy
  credited : NeverReset home past →
    p.heartbeats.toNat + s.due home (·.credits) = (verdictsIn home past).countP Verdict.isHealthy

theorem toNat_add_ofNat {a : UInt64} {n : Nat} (h : a.toNat + n < UInt64.size) :
    (a + .ofNat n).toNat = a.toNat + n := by
  have size : UInt64.size = 2 ^ 64 := rfl
  rw [UInt64.toNat_add, UInt64.toNat_ofNat']
  omega

/-- Every counter is raised by what the entry says, so none has gone round. -/
structure Raised (e : Entry) (p p' : Pool S) : Prop where
  created : p'.tally.created.toNat = p.tally.created.toNat + e.created
  closed : p'.tally.closed.toNat = p.tally.closed.toNat + e.closed
  evictions : p'.tally.evictions.toNat = p.tally.evictions.toNat + e.evictions
  probes : p'.tally.probes.toNat = p.tally.probes.toNat + e.probes
  failures : p'.tally.probeFailures.toNat = p.tally.probeFailures.toNat + e.failures
  credits : p'.heartbeats.toNat = p.heartbeats.toNat + e.credits

theorem raised_of_apply {e : Entry} (books : p'.books = e.apply p)
    (created : p.tally.created.toNat + e.created < UInt64.size)
    (closed : p.tally.closed.toNat + e.closed < UInt64.size)
    (evictions : p.tally.evictions.toNat + e.evictions < UInt64.size)
    (probes : p.tally.probes.toNat + e.probes < UInt64.size)
    (failures : p.tally.probeFailures.toNat + e.failures < UInt64.size)
    (credits : p.heartbeats.toNat + e.credits < UInt64.size) : Raised e p p' := by
  simp only [Pool.books, Entry.apply, List.cons.injEq, and_true] at books
  obtain ⟨bookCreated, bookClosed, bookEvictions, bookProbes, bookFailures, bookCredits⟩ := books
  exact ⟨bookCreated ▸ toNat_add_ofNat created, bookClosed ▸ toNat_add_ofNat closed,
    bookEvictions ▸ toNat_add_ofNat evictions, bookProbes ▸ toNat_add_ofNat probes,
    bookFailures ▸ toNat_add_ofNat failures, bookCredits ▸ toNat_add_ofNat credits⟩

namespace Booked

/-- A choice that concerns neither the sessions of the pool nor its probes. -/
theorem still (h : Booked home past s p) (act : s.act c = some s') (built : s.pool? home = some p)
    (due : ∀ f : Dues → Nat, f {} = 0 → s'.due home f = s.due home f) (tally : p'.tally = p.tally)
    (total : p'.total = p.total)
    (heartbeats : p'.heartbeats = p.heartbeats ∨ p'.heartbeats = 0 ∧
      c = .adjust home .resetHeartbeats)
    (probes : s.probes home c = []) (detaches : s.detaches home c = []) :
    Booked home ((s, c) :: past) s' p' := by
  have verdicts : verdictsIn home ((s, c) :: past) = verdictsIn home past :=
    verdictsIn_of_none probes
  have detached : detachedIn home ((s, c) :: past) = detachedIn home past :=
    detachedIn_of_none detaches
  have more : (enrolled home past).length ≤ (enrolled home ((s, c) :: past)).length := by
    rw [enrolled_cons, List.length_append]
    exact Nat.le_add_left _ _
  obtain ⟨lost, balance, given⟩ := h.sessions
  refine
    { created := ?_, sessions := ⟨lost, ?_, fun calm alive => ?_⟩, evictions := ?_, failures := ?_
      probes := ?_, credits := ?_, probed := fun calm => ?_, credited := fun never => ?_ }
  · rw [tally, due _ rfl, due _ rfl]
    exact Nat.le_trans h.created more
  · rw [tally, total, due _ rfl, due _ rfl]
    exact balance
  · rw [detached, due _ rfl]
    exact given calm.of_cons (alive_of_act act built alive)
  · rw [tally]
    exact h.evictions
  · rw [tally]
    exact h.failures
  · rw [tally, verdicts, due _ rfl]
    exact h.probes
  · rw [verdicts, due _ rfl]
    refine Nat.le_trans (Nat.add_le_add_right ?_ _) h.credits
    rcases heartbeats with same | ⟨none, -⟩
    · exact Nat.le_of_eq (by rw [same])
    · rw [none]
      exact Nat.zero_le _
  · rw [tally, verdicts, due _ rfl, due _ rfl]
    exact h.probed calm.of_cons
  · rw [verdicts, due _ rfl]
    rcases heartbeats with same | ⟨-, reset⟩
    · rw [same]
      exact h.credited never.of_cons
    · exact absurd reset (never _ List.mem_cons_self)

/-- A step of a call on the pool writes an entry. -/
theorem step {i : Nat} {connected : S → Bool} {contended : Bool} {call : Call S}
    {site : Site S} {q : Pool S} {t' : Task S} (h : Booked call.home past s site.pool)
    (run : Run past s) (atWork : s.calls[i]? = some call)
    (found : s.sites[call.home]? = some site) (fresh : (Choice.step i connected contended).Fresh s)
    (act : s.act (.step i connected contended) = some (s.put i call site q t'))
    (few : (enrolled call.home ((s, .step i connected contended) :: past)).length < UInt64.size)
    (fewProbes : (verdictsIn call.home past).length < UInt64.size)
    (did : call.task.step (s.view call connected contended) site.pool = some (q, t')) :
    Booked call.home ((s, .step i connected contended) :: past) (s.put i call site q t') q := by
  have built := State.pool?_of_site found
  have built' : (s.put i call site q t').pool? call.home = some q := by
    rw [State.pool?_put found, if_pos rfl]
  have fewBefore := few_of_cons few
  have vacant (r : Record S) (role : call.task.role = .recruit r) :
      site.pool.places r.info.key = 0 :=
    run.vacant_of_recruit atWork built fewBefore role
  obtain ⟨e, posts⟩ := Task.posts_of_step (run.sound atWork found fewBefore) vacant did
  obtain ⟨others, before, after⟩ := State.exists_due_task atWork
  have after := after (s.put i call site q t') t' rfl
  have lent := (run.next fresh act).due_created_le built' few
  rw [after] at lent
  have drawn : (enrolled call.home ((s, .step i connected contended) :: past)).length =
      drawn call.task.role t'.role + (enrolled call.home past).length := by
    rw [enrolled_cons, enrolment_of_step atWork found did, List.length_append]
    rfl
  have verdicts : verdictsIn call.home ((s, .step i connected contended) :: past) =
      verdictsIn call.home past :=
    verdictsIn_of_none rfl
  have detached : detachedIn call.home ((s, .step i connected contended) :: past) =
      detachedIn call.home past :=
    detachedIn_of_none rfl
  have size : q.active.size ≤ q.total := Nat.le_add_right _ _
  obtain ⟨lost, balance, given⟩ := h.sessions
  have created := h.created
  have evictions := h.evictions
  have failures := h.failures
  have probes := h.probes
  have credits := h.credits
  have healthy : (verdictsIn call.home past).countP Verdict.isHealthy ≤
      (verdictsIn call.home past).length :=
    List.countP_le_length
  obtain ⟨books, someEvicted, someFailed, drew, sessions, freed, probed, failed, credited⟩ := posts
  rw [before, before] at created balance
  rw [before] at probes credits
  rw [drawn] at few
  obtain ⟨toCreated, toClosed, toEvictions, toProbes, toFailures, toCredits⟩ :=
    raised_of_apply books (by omega) (by omega) (by omega) (by omega) (by omega) (by omega)
  refine
    { created := ?_, sessions := ⟨lost + e.released, ?_, fun calm alive => ?_⟩, evictions := ?_,
      failures := ?_
      probes := ?_, credits := ?_, probed := fun calm => ?_, credited := fun never => ?_ }
  · rw [after, after, drawn]
    omega
  · rw [after, after]
    omega
  · have alive := alive_of_act act built alive
    have was := given calm.of_cons alive
    have freed := freed alive
    rw [detached, after]
    rw [before] at was
    omega
  · omega
  · omega
  · rw [after, verdicts]
    omega
  · rw [after, verdicts]
    omega
  · obtain ⟨all, bad⟩ := h.probed calm.of_cons
    rw [before] at all bad
    rw [after, after, verdicts]
    omega
  · have all := h.credited never.of_cons
    rw [before] at all
    rw [after, verdicts]
    omega

/-- An answer to a call on the pool may bring a verdict. -/
theorem answer {i : Nat} {reply : Reply S} {call : Call S} {t' : Task S}
    (h : Booked call.home past s p) (atWork : s.calls[i]? = some call)
    (built : s.pool? call.home = some p)
    (act : s.act (.answer i reply) = some s')
    (calls : s'.calls = s.calls.set i { call with task := t' })
    (did : call.task.answer reply = some t') :
    Booked call.home ((s, .answer i reply) :: past) s' p := by
  obtain ⟨others, before, after⟩ := State.exists_due_task atWork
  have after := after s' t' calls
  have news : ∃ news, Hears (Quiet reply) news call.task.dues t'.dues ∧
      verdictsIn call.home ((s, .answer i reply) :: past) = news ++ verdictsIn call.home past := by
    rcases Task.hears_of_answer did with ⟨none, hears⟩ | ⟨key, session, outcome, rfl, head, hears⟩
    · exact ⟨[], hears, verdictsIn_of_none
        (State.probes_of_answer atWork (by simp [Call.pendingAt, none]))⟩
    · refine ⟨_, hears, ?_⟩
      rw [verdictsIn_cons]
      simp [State.probes, atWork, Call.pendingAt, head]
  obtain ⟨news, hears, verdicts⟩ := news
  have same : enrolled call.home ((s, .answer i reply) :: past) = enrolled call.home past := by
    rw [enrolled_cons]
    rfl
  have detached : detachedIn call.home ((s, .answer i reply) :: past) = detachedIn call.home past :=
    detachedIn_of_none rfl
  have quiet (calm : Calm ((s, .answer i reply) :: past)) : Quiet reply := by
    rintro text rfl
    exact absurd (calm _ List.mem_cons_self) (by simp [Choice.breaksOff])
  obtain ⟨lost, balance, given⟩ := h.sessions
  have created := h.created
  have probes := h.probes
  have credits := h.credits
  have news_le : news.countP Verdict.isHealthy ≤ news.length := List.countP_le_length
  rw [before, before] at created balance
  rw [before] at probes credits
  have hCreated := hears.created
  have hUnused := hears.unused
  have hClosed := hears.closed
  have hProbes := hears.probes
  have hCredits := hears.credits
  refine
    { created := ?_
      sessions := ⟨lost + (call.task.dues.closed - t'.dues.closed), ?_, fun calm alive => ?_⟩
      evictions := h.evictions, failures := h.failures
      probes := ?_, credits := ?_, probed := fun calm => ?_, credited := fun never => ?_ }
  · rw [after, after, same]
    omega
  · rw [after, after]
    omega
  · have was := given calm.of_cons (alive_of_act act built alive)
    have closed := (hears.all (quiet calm)).1
    have freed := hears.freed
    rw [detached, after]
    rw [before] at was
    omega
  · rw [after, verdicts, List.length_append]
    omega
  · rw [after, verdicts, List.countP_append]
    omega
  · obtain ⟨all, bad⟩ := h.probed calm.of_cons
    obtain ⟨-, some, someBad⟩ := hears.all (quiet calm)
    rw [before] at all bad
    rw [after, after, verdicts, List.length_append, List.countP_append]
    omega
  · have all := h.credited never.of_cons
    rw [before] at all
    rw [after, verdicts, List.countP_append]
    omega

/-- A call hands over at its end what it has taken out for its caller. -/
theorem finish {i : Nat} {call : Call S} (h : Booked home past s p)
    (atWork : s.calls[i]? = some call) (ended : call.task.isEnded = true)
    (built : s.pool? home = some p) (act : s.act (.finish i) = some s')
    (calls : s'.calls = s.calls.set i { call with task := .returned }) :
    Booked home ((s, .finish i) :: past) s' p := by
  obtain ⟨others, before, after⟩ := State.exists_due_set atWork home
  have after := after s' { call with task := .returned } calls
  have spent : ({ call with task := .returned } : Call S).duesAt home = {} := ite_self _
  have owed : call.duesAt home = { freed := (s.detaches home (.finish i)).length } := by
    rw [State.detaches_of_finish atWork, Call.duesAt, Task.dues_of_isEnded ended]
    split <;> rfl
  rw [spent] at after
  rw [owed] at before
  -- only what was taken out changes hands
  have due (f : Dues → Nat) (zero : f {} = 0)
      (same : f { freed := (s.detaches home (.finish i)).length } = 0) :
      s'.due home f = s.due home f := by
    rw [after, before, zero, same]
  have verdicts : verdictsIn home ((s, .finish i) :: past) = verdictsIn home past :=
    verdictsIn_of_none rfl
  have enrolled : enrolled home ((s, .finish i) :: past) = enrolled home past := by
    rw [enrolled_cons]
    rfl
  obtain ⟨lost, balance, given⟩ := h.sessions
  refine
    { created := ?_, sessions := ⟨lost, ?_, fun calm alive => ?_⟩, evictions := h.evictions
      failures := h.failures, probes := ?_, credits := ?_, probed := fun calm => ?_
      credited := fun never => ?_ }
  · rw [due _ rfl rfl, due _ rfl rfl, enrolled]
    exact h.created
  · rw [due _ rfl rfl, due _ rfl rfl]
    exact balance
  · have was := given calm.of_cons (alive_of_act act built alive)
    rw [detachedIn_cons, List.length_append, after]
    rw [before] at was
    show lost = (s.detaches home (.finish i)).length + (detachedIn home past).length +
      (0 + others (·.freed))
    change lost = (detachedIn home past).length +
      ((s.detaches home (.finish i)).length + others (·.freed)) at was
    omega
  · rw [due _ rfl rfl, verdicts]
    exact h.probes
  · rw [due _ rfl rfl, verdicts]
    exact h.credits
  · rw [due _ rfl rfl, due _ rfl rfl, verdicts]
    exact h.probed calm.of_cons
  · rw [due _ rfl rfl, verdicts]
    exact h.credited never.of_cons

/-- What a call on another pool does is no business of this one. -/
theorem due_elsewhere {i : Nat} {call : Call S} {task : Task S} (atWork : s.calls[i]? = some call)
    (elsewhere : call.home ≠ home) (calls : s'.calls = s.calls.set i { call with task })
    (f : Dues → Nat) :
    s'.due home f = s.due home f := by
  obtain ⟨others, before, after⟩ := State.exists_due_set atWork home
  have none : call.duesAt home = {} := if_neg elsewhere
  have none' : ({ call with task } : Call S).duesAt home = {} := if_neg elsewhere
  rw [after s' _ calls, before, none, none']

end Booked

/-- No change of the settings touches the books, unless it sets the count of successes to zero. -/
theorem Adjustment.books (change : Adjustment) : (change.apply p).tally = p.tally ∧
    ((change.apply p).heartbeats = p.heartbeats ∨
      (change.apply p).heartbeats = 0 ∧ change = .resetHeartbeats) := by
  cases change with
  | heartbeatQuery text =>
    simp only [apply, Pool.setHeartbeatQuery]
    split
    · next heq =>
      split at heq <;> cases heq
      exact ⟨rfl, .inl rfl⟩
    · exact ⟨rfl, .inl rfl⟩
  | resetHeartbeats => exact ⟨rfl, .inr ⟨rfl, rfl⟩⟩
  | _ => exact ⟨rfl, .inl rfl⟩

theorem Booked.next (h : Booked home past s p) (run : Run past s) (fresh : c.Fresh s)
    (act : s.act c = some s') (built : s.pool? home = some p) (built' : s'.pool? home = some p')
    (few : (enrolled home ((s, c) :: past)).length < UInt64.size)
    (fewProbes : (verdictsIn home ((s, c) :: past)).length < UInt64.size) :
    Booked home ((s, c) :: past) s' p' := by
  obtain ⟨q, hq, alters⟩ := alters_of_act act built
  cases hq.symm.trans built'
  have begun {call : Call S} (calls : s'.calls = s.calls ++ [call])
      (begins : Begins s c call) (f : Dues → Nat) (zero : f {} = 0) :
      s'.due home f = s.due home f := by
    have none : call.duesAt home = {} := by rw [Call.duesAt, begins.dues, ite_self]
    rw [State.due_append calls, none, zero, Nat.add_zero]
  have act' := act
  cases happens_of_act act with
  | pass d =>
    cases alters
    exact h.still act built (fun _ _ => rfl) rfl rfl (.inl rfl) rfl rfl
  | build =>
    cases alters
    exact h.still act built (begun rfl .work) rfl rfl (.inl rfl) rfl rfl
  | begin admitted =>
    cases alters
    exact h.still act built (begun rfl (begins_of_enter admitted)) rfl rfl (.inl rfl) rfl rfl
  | drop =>
    cases alters
    exact h.still act built (begun rfl .drop) rfl rfl (.inl rfl) rfl rfl
  | @adjust at_ change site found =>
    cases alters with
    | rests => exact h.still act built (fun _ _ => rfl) rfl rfl (.inl rfl) rfl rfl
    | adjusts =>
      have alike := @Adjustment.alike _ p change
      have total : (change.apply p).total = p.total := by
        rw [Pool.total, Pool.total, alike.active, alike.idle]
      obtain ⟨tally, heartbeats⟩ := @Adjustment.books _ p change
      refine h.still act built (fun _ _ => rfl) tally total (heartbeats.imp id ?_) rfl rfl
      rintro ⟨zero, rfl⟩
      exact ⟨zero, rfl⟩
  | @step i connected contended call site q t' atWork found did =>
    by_cases hh : call.home = home
    · subst hh
      cases built.symm.trans (State.pool?_of_site found)
      rw [State.pool?_put found, if_pos rfl] at built'
      cases built'
      have fewBefore : (verdictsIn call.home past).length < UInt64.size := by
        rw [verdictsIn_cons, List.length_append] at fewProbes
        omega
      exact h.step run atWork found fresh act few fewBefore did
    · rw [State.pool?_put found, if_neg (Ne.symm hh), built] at built'
      cases built'
      exact h.still act built (fun f _ => due_elsewhere atWork hh rfl f) rfl rfl (.inl rfl) rfl rfl
  | answer atWork found did =>
    cases alters
    rename_i i reply call site t'
    by_cases hh : call.home = home
    · subst hh
      exact h.answer atWork built act rfl did
    · exact h.still act built (fun f _ => due_elsewhere atWork hh rfl f) rfl rfl (.inl rfl)
        (State.probes_of_answer atWork (if_neg hh)) rfl
  | finish atWork ended =>
    cases alters
    exact h.finish atWork ended built act rfl

/-- A new pool has counted nothing. -/
theorem books_of_build {builder : Builder} {now : Instant} (made : builder.build now = .ok p) :
    p.tally = {} ∧ p.heartbeats = 0 := by
  simp only [Builder.build, Pool.new] at made
  split at made
  · next pool new =>
    split at new <;> cases new
    cases made
    exact ⟨rfl, rfl⟩
  · cases made

theorem Run.booked (run : Run past s) (built : s.pool? home = some p)
    (few : (enrolled home past).length < UInt64.size)
    (fewProbes : (verdictsIn home past).length < UInt64.size) :
    Booked home past s p := by
  induction run generalizing p with
  | start now => simp [State.pool?] at built
  | @next past s s' c run fresh act ih =>
    cases old : s.pool? home with
    | some q =>
      have fewBefore : (verdictsIn home past).length < UInt64.size := by
        rw [verdictsIn_cons, List.length_append] at fewProbes
        omega
      exact (ih old (few_of_cons few) fewBefore).next run fresh act old built few fewProbes
    | none =>
      obtain ⟨builder, made, rfl, -⟩ := exists_build act old built
      have new := run.new_ledger act old built
      have total : p.total = 0 := by
        rw [Pool.total, show p.active = .empty from new.active, show p.idle = .empty from new.idle]
        rfl
      obtain ⟨tally, heartbeats⟩ := books_of_build made
      -- nobody is at work on it yet but its worker, who has just begun
      have due (f : Dues → Nat) (zero : f {} = 0) : s'.due home f = 0 := by
        refine State.due_eq_zero zero fun call hc at_ => ?_
        cases happens_of_act act with
        | build =>
        rcases List.mem_append.1 hc with hc | hc
        · exact (run.grounded.elsewhere old hc at_).elim
        · rw [List.mem_singleton.1 hc]
          rfl
      have verdicts : verdictsIn home ((s, .build builder) :: past) = [] := by
        rw [verdictsIn_cons, verdictsIn, (run.unprobed old).2.2]
        rfl
      have detached : detachedIn home ((s, .build builder) :: past) = [] := by
        have none := run.departed_unbuilt old
        rw [departed, List.append_eq_nil_iff, List.append_eq_nil_iff] at none
        rw [detachedIn_cons, none.1.2]
        rfl
      refine
        { created := ?_, sessions := ⟨0, ?_, fun _ _ => ?_⟩, evictions := ?_, failures := ?_,
          probes := ?_
          credits := ?_, probed := fun _ => ⟨?_, ?_⟩, credited := fun _ => ?_ }
      · simp [tally, due]
      · simp [tally, due, total]
      · simp [detached, due]
      · simp [tally]
      · simp [tally]
      · simp [tally, due]
      · simp [heartbeats, due]
      · simp [tally, due, verdicts]
      · simp [tally, due, verdicts]
      · simp [heartbeats, due, verdicts]

/-! ## The accounts -/

/-- What the counters of a pool say, at some moment of a run. -/
structure Accounts (home : PoolId) (past : List (State S × Choice S)) (s : State S)
    (p : Pool S) : Prop where
  /-- Every eviction was counted as a closing, and every closing was preceded by the making. -/
  evictions : p.tally.evictions ≤ p.tally.closed
  closed : p.tally.closed ≤ p.tally.created
  failures : p.tally.probeFailures ≤ p.tally.probes
  /-- The number of successes, from which the rate of successes is computed, does not wrap. -/
  successes : (p.tally.probes - p.tally.probeFailures).toNat =
    p.tally.probes.toNat - p.tally.probeFailures.toNat
  /-- When no call is in progress, every session that was made is in the pool, or was closed, or was
  taken out for a caller. -/
  sessions : Calm past → s.alive home = true →
    (∀ call ∈ s.calls, call.home = home → call.task.rests = true) →
    p.tally.created.toNat =
      p.tally.closed.toNat + p.active.size + p.idle.size + (detachedIn home past).length
  /-- When no call is in progress, every probe was counted once. -/
  probes : Calm past → (∀ call ∈ s.calls, call.home = home → call.task.rests = true) →
    p.tally.probes.toNat =
      p.tally.probeFailures.toNat + (verdictsIn home past).countP Verdict.isHealthy
  /-- The count of successes falls short of them at most by what was reset. -/
  credits : p.heartbeats.toNat ≤ (verdictsIn home past).countP Verdict.isHealthy
  credited : NeverReset home past → (∀ call ∈ s.calls, call.home = home → call.task.rests = true) →
    p.heartbeats.toNat = (verdictsIn home past).countP Verdict.isHealthy

/-- The accounts of a pool are right, in every run in which no counter goes round: fewer than
`2 ^ 64` keys of the pool were drawn, and fewer than `2 ^ 64` probes were made. -/
theorem accounts (run : Run past s) (built : s.pool? home = some p)
    (few : (enrolled home past).length < UInt64.size)
    (fewProbes : (probesIn home past).length < UInt64.size) :
    Accounts home past s p := by
  have booked := run.booked built few (by rw [verdictsIn, List.length_map]; exact fewProbes)
  have lent := run.due_created_le built few
  have size : p.active.size ≤ p.total := Nat.le_add_right _ _
  have rested (rest : ∀ call ∈ s.calls, call.home = home → call.task.rests = true) (f : Dues → Nat)
      (zero : f {} = 0) : s.due home f = 0 :=
    State.due_eq_zero zero fun call hc at_ => Task.dues_of_rests (rest call hc at_)
  obtain ⟨lost, balance, given⟩ := booked.sessions
  have failures : p.tally.probeFailures ≤ p.tally.probes := UInt64.le_iff_toNat_le.2 booked.failures
  refine
    { evictions := UInt64.le_iff_toNat_le.2 booked.evictions
      closed := UInt64.le_iff_toNat_le.2 (by omega)
      failures := failures
      successes := UInt64.toNat_sub_of_le _ _ failures
      sessions := fun calm alive rest => ?_
      probes := fun calm rest => ?_
      credits := Nat.le_trans (Nat.le_add_right _ _) booked.credits
      credited := fun never rest => ?_ }
  · have was := given calm alive
    rw [rested rest _ rfl] at was
    rw [rested rest _ rfl, rested rest _ rfl, Pool.total] at balance
    omega
  · obtain ⟨all, bad⟩ := booked.probed calm
    rw [rested rest _ rfl] at all bad
    have split := List.length_eq_countP_add_countP Verdict.isHealthy (l := verdictsIn home past)
    simp only [Bool.not_eq_true, Bool.decide_eq_false] at split
    omega
  · have all := booked.credited never
    rw [rested rest _ rfl] at all
    exact all

/-- Of three sessions one is taken out, one is given back and found dead by a probe, and one is
still lent. -/
def auditing : List (Choice Nat) :=
  List.flatten [
    [.build { settings := { maxConnections := 3 }, source := some .server }],
    lending 1 10, lending 2 20, lending 3 30, [.begin (.surrender 0)], steps 4 4,
    [.finish 4, .begin (.dropLease 0)], steps 5 4,
    [.finish 5, .pass (.ofSeconds 1), .begin (.cycle 0 .moment "SELECT 1")], steps 6 1,
    [.answer 6 (.queried (.panic "gone"))], steps 6 4, [.answer 6 (.closed (.value ()))],
    steps 6 3, [.finish 6]]

theorem accounts_of_auditing :
    ∃ past s p, Run (S := Nat) past s ∧ s.pool? 0 = some p ∧
      (enrolled 0 past).length < UInt64.size ∧ (probesIn 0 past).length < UInt64.size ∧ Calm past ∧
      AtRest s ∧ s.alive 0 = true ∧
      p.tally =
        { created := 3, closed := 1, checkouts := 3, probes := 1, probeFailures := 1,
          evictions := 1 } ∧
      detachedIn 0 past = [10] ∧ Accounts 0 past s p := by
  have h : ((play auditing).bind fun r =>
      if (enrolled 0 r.1).length < UInt64.size ∧ (probesIn 0 r.1).length < UInt64.size ∧
        Calm r.1 ∧ AtRest r.2 ∧ r.2.alive 0 = true ∧ detachedIn 0 r.1 = [10]
      then (r.2.pool? 0).map Pool.tally else none) =
      some
        { created := 3, closed := 1, checkouts := 3, probes := 1, probeFailures := 1,
          evictions := 1 } := by
    decide +kernel
  obtain ⟨⟨past, s⟩, played, h⟩ := Option.bind_eq_some_iff.1 h
  split at h
  · next holds =>
    obtain ⟨few, fewProbes, calm, rest, alive, detached⟩ := holds
    obtain ⟨p, built, tally⟩ := Option.map_eq_some_iff.1 h
    have run := run_of_play played
    exact ⟨past, s, p, run, built, few, fewProbes, calm, rest, alive, tally, detached,
      accounts run built few fewProbes⟩
  · cases h

end Interleaving

end ConnectionPool
