import ConnectionPool.Proofs.Capacity
import ConnectionPool.Proofs.Checkouts
import ConnectionPool.Proofs.Decisions
import ConnectionPool.Proofs.Exclusion
import ConnectionPool.Proofs.Gone

set_option autoImplicit false

/-! # A pool does not grow past the demand

If every operation on a pool ends before the next one begins, the pool never has more sessions than
there were leases at the same time. A slot is reserved only when nothing idle may be lent; with no
cycle in progress nothing is under probe, so then nothing is idle at all, and every session of the
pool is with a lease. The load is bounded rather than the number of sessions (`Ledger.Met`): it
grows in that one section, and what comes of the slot later does not make it grow again.

As many sessions were made as are in the pool, were closed, or were taken out for a caller, if none
broke off while it was closed. A session that breaks off then has left the pool, and was not counted
as closed. -/

namespace ConnectionPool

namespace Interleaving

variable {S : Type} {v : View S} {reply : Option (Reply S)} {home : PoolId}
  {past : List (State S × Choice S)} {s s' : State S} {c : Choice S} {p p' : Pool S} {x y : Role S}

/-! ## One operation at a time -/

/-- How many calls on the pool are in progress. -/
def State.busy (s : State S) (home : PoolId) : Nat :=
  s.calls.countP fun call => call.home == home && !call.task.rests

/-- Every operation on the pool has ended before the next one began. -/
def Sequential (home : PoolId) (past : List (State S × Choice S)) (s : State S) : Prop :=
  ∀ t ∈ s :: past.map (·.1), t.busy home ≤ 1

instance : Decidable (Sequential home past s) :=
  inferInstanceAs (Decidable (∀ t ∈ s :: past.map (·.1), t.busy home ≤ 1))

theorem Sequential.of_cons (h : Sequential home ((s, c) :: past) s') : Sequential home past s :=
  fun t ht => h t (List.mem_cons_of_mem _ ht)

/-- Whoever plays a part is in progress. -/
theorem State.length_roles_le (s : State S) (home : PoolId) :
    (s.roles home).length ≤ s.busy home := by
  unfold State.roles State.busy
  induction s.calls with
  | nil => exact Nat.zero_le _
  | cons call rest ih =>
    have one : (call.roleAt home).length ≤ if (call.home == home && !call.task.rests) =
        true then 1 else 0 := by
      unfold Call.roleAt
      by_cases at_ : call.home = home
      · cases rests : call.task.rests with
        | true => simp [at_, (Task.empty_of_rests rests).1, Role.toList]
        | false =>
          rw [if_pos at_]
          cases call.task.role <;> simp [at_, Role.toList]
      · simp [at_]
    rw [List.flatMap_cons, List.length_append, List.countP_cons]
    omega

theorem State.busy_of_rests (rest : ∀ call ∈ s.calls, call.home = home → call.task.rests = true) :
    s.busy home = 0 := by
  refine List.countP_eq_zero.2 fun call hc => ?_
  by_cases at_ : call.home = home
  · simp [rest call hc at_]
  · simp [at_]

theorem State.roles_of_rests (rest : ∀ call ∈ s.calls, call.home = home → call.task.rests = true) :
    s.roles home = [] := by
  have busy := s.length_roles_le home
  rw [State.busy_of_rests rest] at busy
  exact List.eq_nil_of_length_eq_zero (Nat.le_zero.1 busy)

/-- With one operation at a time there is only one call that is in progress. -/
theorem State.eq_of_busy {call call' : Call S} (alone : s.busy home ≤ 1) (mem : call ∈ s.calls)
    (mem' : call' ∈ s.calls) (at_ : call.home = home) (at_' : call'.home = home)
    (busy : call.task.rests = false) (busy' : call'.task.rests = false) : call = call' := by
  have here : call ∈ s.calls.filter fun call => call.home == home && !call.task.rests :=
    List.mem_filter.2 ⟨mem, by simp [at_, busy]⟩
  have here' : call' ∈ s.calls.filter fun call => call.home == home && !call.task.rests :=
    List.mem_filter.2 ⟨mem', by simp [at_', busy']⟩
  rw [State.busy, List.countP_eq_length_filter] at alone
  obtain ⟨only, same⟩ :=
    List.length_eq_one_iff.1 (Nat.le_antisymm alone (List.length_pos_of_mem here))
  rw [same, List.mem_singleton] at here here'
  exact here.trans here'.symm

/-- A call at rest probes nothing. -/
theorem Task.batch_of_rests {t : Task S} (h : t.rests = true) : t.batch = [] := by
  refine Task.batch_of_done fun b cycle => ?_
  cases t with
  | work w =>
    cases w with
    | cycle => cases h
    | _ => cases cycle
  | returned => cases cycle
  | _ => cases h

/-- With an acquirer in progress no cycle is, and so nothing is under probe. -/
theorem State.batches_of_acquires (alone : s.busy home ≤ 1) {r : Role S} (mem : r ∈ s.roles home)
    (acquires : r.acquires = true) : s.batches home = [] := by
  have some : r ≠ .none := by
    rintro rfl
    cases acquires
  obtain ⟨i, acquirer, atWork, at_, role⟩ := (State.mem_roles_iff some).1 mem
  obtain ⟨a, task, -⟩ := Task.exists_acquire_of_role (role ▸ acquires)
  refine List.eq_nil_iff_forall_not_mem.2 fun key probed => ?_
  obtain ⟨call, hc, at_', batch⟩ := State.mem_batches_iff.1 probed
  have busy : call.task.rests = false := by
    cases rests : call.task.rests with
    | false => rfl
    | true =>
      rw [Task.batch_of_rests rests] at batch
      cases batch
  obtain rfl := State.eq_of_busy alone (List.mem_of_getElem? atWork) hc at_ at_'
    (by rw [task]; rfl) busy
  rw [task] at batch
  cases batch

/-! ## The peak -/

/-- The greatest number of leases of the pool that were unreleased at the same time. -/
def peak (home : PoolId) (past : List (State S × Choice S)) (s : State S) : Nat :=
  ((s :: past.map (·.1)).map fun t => (t.held home).length).foldr max 0

theorem held_le_peak : (s.held home).length ≤ peak home past s := Nat.le_max_left _ _

/-! ## Borrowed pools -/

theorem Task.borrows_of_step {t t' : Task S} (h : t.step v p = some (p', t'))
    (borrows : t'.borrows = true) : t.borrows = true := by
  cases t with
  | returned => cases h
  | acquire | resize | shutDown => rfl
  | _ =>
    obtain ⟨u, -, rfl⟩ := exists_of_map_step h
    cases borrows

theorem Task.borrows_of_answer {t t' : Task S} {reply : Reply S} (h : t.answer reply = some t')
    (borrows : t'.borrows = true) : t.borrows = true := by
  cases t with
  | returned => cases h
  | acquire | resize | shutDown => rfl
  | _ =>
    obtain ⟨u, -, rfl⟩ := Option.map_eq_some_iff.1 h
    cases borrows

/-- Only whoever has a pool begins a call that borrows it. -/
theorem owned_of_enter {request : Request} {leases : List (Lease S)} {call : Call S}
    (h : s.enter request = some (leases, call)) (borrows : call.task.borrows = true) :
    s.owned call.home = true := by
  cases request with
  | acquire | acquireWithin | tryAcquire | resize | shutDown =>
    simp only [State.enter] at h
    split at h <;> cases h
    assumption
  | cycle =>
    simp only [State.enter] at h
    split at h <;> cases h
    cases borrows
  | release | dropLease | surrender =>
    obtain ⟨lease, -, h⟩ := Option.bind_eq_some_iff.1 h
    cases h
    cases borrows
  | transfer =>
    obtain ⟨source, -, h⟩ := Option.bind_eq_some_iff.1 h
    obtain ⟨target, -, h⟩ := Option.bind_eq_some_iff.1 h
    cases h
    cases borrows

/-- The owner of a pool does not give it up while a call borrows it. -/
theorem Run.owned_of_borrows (run : Run past s) {i : Nat} {call : Call S}
    (atWork : s.calls[i]? = some call) (borrows : call.task.borrows = true) :
    s.owned call.home = true := by
  induction run generalizing call with
  | start now => simp at atWork
  | @next past s s' c run fresh act ih =>
    -- who borrowed the pool before the choice has kept its owner from giving it up with that choice
    have kept {before : Call S} (was : s.calls[i]? = some before) (at_ : before.home = call.home)
        (borrowed : before.task.borrows = true) : s'.owned call.home = true := by
      have owned : s.owned call.home = true := at_ ▸ ih was borrowed
      obtain ⟨p, built⟩ := run.grounded.exists_pool was
      rcases owned_of_act act (at_ ▸ built) with same | ⟨byWorker, rfl, -⟩
      · rw [same, owned]
      · cases happens_of_act act with
        | drop found owned free =>
          refine absurd free ?_
          simp only [State.borrowed, Bool.not_eq_false, List.any_eq_true]
          exact ⟨before, List.mem_of_getElem? was, by simp [at_, borrowed]⟩
    cases came_of_act act atWork with
    | stays was => exact kept was rfl borrows
    | begins new =>
      rcases began_of_act act new atWork with
        ⟨_, rfl, rfl⟩ | ⟨request, leases, rfl, enter⟩ | ⟨_, _, rfl, rfl⟩
      · cases borrows
      · cases happens_of_act act
        show s.owned call.home = true
        exact owned_of_enter enter borrows
      · cases borrows
    | steps was at_ found did => exact kept was at_.symm (Task.borrows_of_step did borrows)
    | hears was at_ did => exact kept was at_.symm (Task.borrows_of_answer did borrows)
    | ends was ended last =>
      rw [last] at borrows
      cases borrows

/-! ## The load in one move -/

/-- Whether the call is to hand over a session that it was lent, or is making. -/
def Role.promises : Role S → Bool
  | slot | made _ | opened _ | recruit _ | loan _ => true
  | _ => false

/-- Whoever promises a session goes on to do so, or gives its slot back. -/
theorem Moves.load_of_promises (m : Moves v reply p x p' y) (held : x.slots ≤ p.reserved.toNat)
    (promised : x.promises = true) : y.promises = true ∨ p'.load + 1 = p.load := by
  have slots := m.reserved held
  cases m with
  | pass => exact .inl promised
  | reuse | reserve | receive | accept | giveUp | enrol | install => exact .inl rfl
  | refuse | unreserve =>
    right
    have total : p.unreserve.total = p.total := rfl
    simp only [Role.slots, Role.hasSlot] at slots
    simp only [Pool.load, total]
    simp at slots
    omega
  | retire shut => rcases shut with rfl | rfl <;> cases promised
  | _ => cases promised

/-- Whoever is answered with a slot has one from then on. -/
theorem Moves.slot_of_reserve {cap : UInt32} {now : Instant} (m : Moves v reply p x p' y)
    (held : x.slots ≤ p.reserved.toNat) (lend : p.lend cap now = (p', .reserve)) :
    y.toList.length = 1 ∧ y.promises = true := by
  have slots := m.reserved held
  obtain ⟨room, rfl⟩ := Pool.lend_eq_reserve lend
  have more : (p.reserved + 1).toNat = p.reserved.toNat + 1 :=
    toNat_add_one_of_lt (Nat.lt_of_le_of_lt (Nat.le_add_left _ _) room)
  have some : 0 < y.slots := by
    change (p.reserved + 1).toNat + x.slots = _ at slots
    omega
  cases y with
  | slot | made | opened | recruit => exact ⟨rfl, rfl⟩
  | _ => cases some

/-! ## The invariant -/

namespace Ledger

/-- The load is within what is held and what is promised, or within what was held at some time. -/
def Met (most : Nat) (d : Ledger S) : Prop :=
  d.pool.load ≤ max most (d.held.length + d.roles.countP Role.promises)

theorem Met.new {most : Nat} {d : Ledger S} (h : d.New) : d.Met most := by
  simp [Met, Pool.load, Pool.total, h.active, h.idle, h.reserved]

theorem countP_promises_toList (r : Role S) :
    r.toList.countP Role.promises = if r.promises then 1 else 0 := by
  cases r <;> rfl

/-- With one operation at a time the bound is kept, if a slot is reserved only when every session of
the pool is with a lease. -/
theorem Met.next {most most' : Nat} {d d' : Ledger S} (step : d.Next d') (counted : d.Counted)
    (grows : most ≤ most') (held : d.held.length ≤ most') (alone : d'.roles.length ≤ 1)
    (lent : ∀ epoch cap now p', .poised epoch cap ∈ d.roles → d.pool.lend cap now = (p', .reserve) →
      d.pool.total ≤ d.held.length) (h : d.Met most) : d'.Met most' := by
  unfold Met at h ⊢
  cases step.change with
  | quiet alike roles held enrolled =>
    rw [alike.load, held.length_eq, roles.countP_eq]
    omega
  | claim pool held' roles enrolled =>
    -- whoever takes a session over from a lease is the only one in progress
    have alone' := roles.length_eq
    have none : d.roles = [] :=
      List.eq_nil_of_length_eq_zero (by simp only [List.length_cons] at alone'; omega)
    rw [none, List.countP_nil] at h
    rw [pool]
    omega
  | issue pool roles held' enrolled =>
    -- what was promised is held
    have fewer := roles.countP_eq Role.promises
    have more := held'.length_eq
    simp only [List.countP_cons, Role.promises, if_true, List.length_cons] at fewer more
    rw [pool]
    omega
  | @move v reply x y rest moves before after held' seen enrolled fresh calm =>
    have slots := before.countP_eq Role.hasSlot
    have was := before.countP_eq Role.promises
    have is := after.countP_eq Role.promises
    have fewer := after.length_eq
    have same := held'.length_eq
    rw [List.countP_append, countP_toList, ← counted.slots] at slots
    rw [List.countP_append, countP_promises_toList] at was is
    rw [List.length_append] at fewer
    rcases moves.load (by omega) with le | ⟨epoch, cap, rfl, lend, more, -⟩
    · by_cases promised : x.promises = true
      · rcases moves.load_of_promises (by omega) promised with still | less
        · rw [if_pos promised] at was
          rw [if_pos still] at is
          omega
        · rw [if_pos promised] at was
          omega
      · rw [if_neg promised] at was
        omega
    · have all := lent epoch cap v.now d'.pool (before.mem_iff.2 (by simp [Role.toList])) lend
      -- the slot is the only one
      obtain ⟨one, promises⟩ := moves.slot_of_reserve (by omega) lend
      have unreserved : d.pool.reserved.toNat = 0 := by
        rw [slots, List.eq_nil_of_length_eq_zero (l := rest) (by omega)]
        rfl
      rw [if_pos promises] at is
      rw [more, Pool.load]
      omega

end Ledger

/-! ## In every run -/

/-- With one operation at a time a slot is reserved only when all sessions of the pool are with
leases. -/
theorem Run.total_le_of_reserve (run : Run past s) (built : s.pool? home = some p)
    (few : (enrolled home past).length < UInt64.size) (alone : s.busy home ≤ 1)
    {epoch : UInt64} {cap : UInt32}
    {now : Instant} (mem : .poised epoch cap ∈ s.roles home)
    (lend : p.lend cap now = (p', .reserve)) :
    p.total ≤ (s.held home).length := by
  have alive : s.alive home = true := by
    obtain ⟨i, call, atWork, at_, role⟩ := (State.mem_roles_iff (by simp)).1 mem
    obtain ⟨a, task, -⟩ := Task.exists_acquire_of_role (t := call.task) (by rw [role]; rfl)
    exact at_ ▸ State.alive_of_owned (run.owned_of_borrows atWork (by rw [task]; rfl))
  have idle : p.idle = .empty := by
    -- whatever is idle may be lent, as nothing is under probe
    refine Roster.ext_find? fun key => ?_
    cases found : p.idle.find? key with
    | none => rfl
    | some r =>
      rcases ((run.filed built).idle key r found).standing with available | probing
      · obtain ⟨key, r, -, reuses⟩ := Pool.exists_oldest_of_available ⟨key, r, found, available⟩
        cases (reuses cap now).symm.trans lend
      · have probed := ((run.probed built few).marks key r found).1 probing
        rw [State.batches_of_acquires alone mem rfl] at probed
        cases probed
  have active : p.active.size = (s.held home).length := by
    -- whatever is active is with a lease, as nobody else has anything in hand
    have owners := ((single_owner run built few).owners alive).length_eq
    have only : s.roles home = [.poised epoch cap] := by
      obtain ⟨r, one⟩ := List.length_eq_one_iff.1
        (Nat.le_antisymm (Nat.le_trans (s.length_roles_le home) alone) (List.length_pos_of_mem mem))
      rw [one, List.mem_singleton] at mem
      rw [one, mem]
    simpa [State.owners, only, Role.stakes, Roster.keys, Roster.size] using owners.symm
  rw [Pool.total, idle, active]
  exact Nat.le_refl _

theorem Run.met (run : Run past s) (built : s.pool? home = some p)
    (few : (enrolled home past).length < UInt64.size) (sequential : Sequential home past s) :
    (ledger home past s p).Met (peak home past s) := by
  refine run.pool_induction (motive := fun past s p => (enrolled home past).length < UInt64.size →
    Sequential home past s →
    (ledger home past s p).Met (peak home past s)) ?_ ?_ built few sequential
  · intro past s s' p c run act fresh built few sequential
    exact Ledger.Met.new (run.new_ledger act fresh built)
  · intro past s s' p p' c run fresh act built built' ih few sequential
    obtain ⟨q, is, step⟩ := next_of_act past run.grounded fresh act built
    cases built'.symm.trans is
    have few' := few_of_cons few
    have alone := sequential s (by simp)
    refine (ih few' sequential.of_cons).next step (run.counted built)
      (Nat.le_max_right _ _) ?_ ?_ ?_
    · exact Nat.le_trans held_le_peak (Nat.le_max_right _ _)
    · exact Nat.le_trans (s'.length_roles_le home) (sequential s' List.mem_cons_self)
    · intro epoch cap now q mem lend
      exact run.total_le_of_reserve built few' alone mem lend

/-- A slot is no session yet, so the bound holds for the sessions without the slots. -/
theorem Run.total_le_of_sequential (run : Run past s) (built : s.pool? home = some p)
    (few : (enrolled home past).length < UInt64.size) (sequential : Sequential home past s) :
    p.active.size + p.idle.size ≤
      max (peak home past s) ((s.held home).length + (s.lending home).length) := by
  have alone := Nat.le_trans (s.length_roles_le home) (sequential s List.mem_cons_self)
  have met : p.load ≤ max (peak home past s)
      ((s.held home).length + (s.roles home).countP Role.promises) :=
    run.met built few sequential
  have slots : p.reserved.toNat = (s.roles home).countP Role.hasSlot := (run.counted built).slots
  rw [Pool.load, Pool.total, slots] at met
  unfold State.lending
  cases roles : s.roles home with
  | nil =>
    rw [roles] at met
    exact met
  | cons r rest =>
    obtain rfl : rest = [] := by
      rw [roles, List.length_cons] at alone
      exact List.eq_nil_of_length_eq_zero (by omega)
    rw [roles] at met
    cases r <;> simp [Role.promises, Role.hasSlot, Role.loans] at met ⊢ <;> omega

/-- Nobody is about to hand a session over between two operations. -/
theorem Run.total_le_peak (run : Run past s) (built : s.pool? home = some p)
    (few : (enrolled home past).length < UInt64.size) (sequential : Sequential home past s)
    (rest : ∀ call ∈ s.calls, call.home = home → call.task.rests = true) :
    p.active.size + p.idle.size ≤ peak home past s := by
  have total := run.total_le_of_sequential built few sequential
  rw [State.lending, State.roles_of_rests rest] at total
  exact Nat.le_trans total (Nat.max_le.2 ⟨Nat.le_refl _, held_le_peak⟩)

/-- What a pool comes to that is used by one operation after the other. -/
structure MeetsDemand (home : PoolId) (past : List (State S × Choice S)) (s : State S)
    (p : Pool S) : Prop where
  /-- In the middle of a request the session counts as well that is about to be handed over. -/
  total : p.active.size + p.idle.size ≤
    max (peak home past s) ((s.held home).length + (s.lending home).length)
  /-- Between two operations there are not more sessions than there were leases at some time. -/
  between : (∀ call ∈ s.calls, call.home = home → call.task.rests = true) →
    p.active.size + p.idle.size ≤ peak home past s
  /-- Nor were more sessions made, but for those that are gone. -/
  created : Calm past → s.alive home = true →
    (∀ call ∈ s.calls, call.home = home → call.task.rests = true) →
    p.tally.created.toNat ≤ peak home past s + p.tally.closed.toNat + (detachedIn home past).length

theorem meets_demand (run : Run past s) (built : s.pool? home = some p)
    (few : (enrolled home past).length < UInt64.size)
    (fewProbes : (probesIn home past).length < UInt64.size)
    (sequential : Sequential home past s) : MeetsDemand home past s p where
  total := run.total_le_of_sequential built few sequential
  between rest := run.total_le_peak built few sequential rest
  created calm alive rest := by
    have made := (accounts run built few fewProbes).sessions calm alive rest
    have fits := run.total_le_peak built few sequential rest
    omega

/-- Two sessions are lent at the same time and given back. A probe finds the first one dead, the
second one is lent again and taken out, and a third one is made. -/
def recurring : List (Choice Nat) :=
  List.flatten [
    [.build { settings := { maxConnections := 3 }, source := some .server }],
    lending 1 10, lending 2 20,
    [.begin (.dropLease 0)], steps 3 4, [.finish 3, .begin (.dropLease 0)], steps 4 4,
    [.finish 4, .pass (.ofSeconds 1), .begin (.cycle 0 .moment "SELECT 1")], steps 5 1,
    [.answer 5 (.queried (.panic "gone")), .answer 5 (.queried (.value ()))], steps 5 5,
    [.answer 5 (.closed (.value ()))], steps 5 3, [.finish 5, .begin (.tryAcquire 0)], steps 6 6,
    [.finish 6, .begin (.surrender 0)], steps 7 4, [.finish 7], lending 8 30]

theorem meets_demand_of_recurring :
    ∃ past s p, Run (S := Nat) past s ∧ s.pool? 0 = some p ∧
      (enrolled 0 past).length < UInt64.size ∧ (probesIn 0 past).length < UInt64.size ∧
      Sequential 0 past s ∧ Calm past ∧ AtRest s ∧ s.alive 0 = true ∧
      peak 0 past s = 2 ∧ p.total = 1 ∧ p.tally.created = 3 ∧ p.tally.closed = 1 ∧
      detachedIn 0 past = [20] ∧ MeetsDemand 0 past s p := by
  have h : ((play recurring).any fun r => decide
      (∃ p ∈ r.2.pool? 0, (enrolled 0 r.1).length < UInt64.size ∧
        (probesIn 0 r.1).length < UInt64.size ∧ Sequential 0 r.1 r.2 ∧ Calm r.1 ∧ AtRest r.2 ∧
        r.2.alive 0 = true ∧ peak 0 r.1 r.2 = 2 ∧ p.total = 1 ∧ p.tally.created = 3 ∧
        p.tally.closed = 1 ∧ detachedIn 0 r.1 = [20])) = true := by
    decide +kernel
  obtain ⟨⟨past, s⟩, played, h⟩ := (Option.any_eq_true _ _).1 h
  obtain ⟨p, built, few, fewProbes, sequential, calm, rest, alive, most, total, created, closed,
    detached⟩ := of_decide_eq_true h
  have run := run_of_play played
  exact ⟨past, s, p, run, built, few, fewProbes, sequential, calm, rest, alive, most, total,
    created, closed, detached, meets_demand run built few fewProbes sequential⟩

/-- A session that is given back dead breaks off while it is closed. Then another one is made, in a
pool for a single session. -/
def outgrowing : List (Choice Nat) :=
  List.flatten [
    [.build { settings := { maxConnections := 1 }, source := some .server }], lending 1 10,
    [.begin (.dropLease 0)], List.replicate 3 (.step 2 (fun _ => false) false),
    [.answer 2 (.closed (.panic "close failed"))], steps 2 1, [.finish 2], lending 3 20]

/-- There never was more than one lease, nothing was counted as closed or taken out, and two
sessions were made. -/
theorem exists_uncounted :
    ∃ past s p, Run (S := Nat) past s ∧ s.pool? 0 = some p ∧ Sequential 0 past s ∧ AtRest s ∧
      s.alive 0 = true ∧ peak 0 past s = 1 ∧ p.tally = { created := 2, checkouts := 2 } ∧
      detachedIn 0 past = [] ∧
      ¬ p.tally.created.toNat ≤
        peak 0 past s + p.tally.closed.toNat + (detachedIn 0 past).length := by
  have h : ((play outgrowing).any fun r => decide
      (∃ p ∈ r.2.pool? 0, Sequential 0 r.1 r.2 ∧ AtRest r.2 ∧ r.2.alive 0 = true ∧
        peak 0 r.1 r.2 = 1 ∧ p.tally = { created := 2, checkouts := 2 } ∧
        detachedIn 0 r.1 = [] ∧ ¬ p.tally.created.toNat ≤
          peak 0 r.1 r.2 + p.tally.closed.toNat + (detachedIn 0 r.1).length)) = true := by
    decide +kernel
  obtain ⟨⟨past, s⟩, played, h⟩ := (Option.any_eq_true _ _).1 h
  obtain ⟨p, built, facts⟩ := of_decide_eq_true h
  exact ⟨past, s, p, run_of_play played, built, facts⟩

end Interleaving

end ConnectionPool
