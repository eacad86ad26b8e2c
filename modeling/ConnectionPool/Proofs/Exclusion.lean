import ConnectionPool.Proofs.Places
import ConnectionPool.Proofs.Probing

set_option autoImplicit false

/-! # Probe exclusion

While a heartbeat cycle is at work on its batch, the sessions of the batch belong to it: no other
cycle has them, no caller is lent them, and the cycle settles exactly its own (`probe_exclusion`).
This holds however many cycles overlap, whoever borrows, gives back or shuts the pool down
meanwhile, and however each probe ends. -/

namespace ConnectionPool

namespace Interleaving

variable {S : Type} {v : View S} {home : PoolId} {past : List (State S × Choice S)} {s s' : State S}
  {p p' : Pool S}

/-! ## Batches, call by call -/

theorem State.perm_batches (s : State S) (home : PoolId) : (s.batches home).Perm
    (s.calls.flatMap fun call => if call.home = home then call.task.batch else []) := by
  have each : s.batches home = (s.calls.flatMap fun call => (call.judgedAt home).map (·.1)) ++
      s.calls.flatMap fun call => (call.pendingAt home).map (·.1) := by
    simp only [State.batches, State.judged, State.pending, List.map_flatMap]
  rw [each]
  refine (List.flatMap_append_perm _ _ _).trans (.of_eq ?_)
  refine List.flatMap_congr fun call _ => ?_
  unfold Call.judgedAt Call.pendingAt
  split <;> rfl

theorem State.mem_batches_iff {key : SessionKey} : key ∈ s.batches home ↔
    ∃ call ∈ s.calls, call.home = home ∧ key ∈ call.task.batch := by
  rw [(s.perm_batches home).mem_iff, List.mem_flatMap]
  refine exists_congr fun call => and_congr_right fun _ => ?_
  by_cases at_ : call.home = home <;> simp [at_]

/-- Two cycles have no session in common. -/
theorem State.disjoint_batches (once : (s.batches home).Nodup) {i j : Nat}
    {call call' : Call S} (ne : i ≠ j) (atWork : s.calls[i]? = some call)
    (atWork' : s.calls[j]? = some call') (at_ : call.home = home)
    (at_' : call'.home = home) : List.Disjoint call.task.batch call'.task.batch := by
  have each := (List.nodup_flatMap.1 ((s.perm_batches home).nodup_iff.1 once)).2
  obtain ⟨hi, rfl⟩ := List.getElem?_eq_some_iff.1 atWork
  obtain ⟨hj, rfl⟩ := List.getElem?_eq_some_iff.1 atWork'
  -- two calls stand apart in the list of calls, one way round or the other
  rcases Nat.lt_or_gt_of_ne ne with lt | lt
  · have apart := List.pairwise_iff_getElem.1 each i j hi hj lt
    simpa only [Function.onFun, if_pos at_, if_pos at_'] using apart
  · have apart := List.pairwise_iff_getElem.1 each j i hj hi lt
    simp only [Function.onFun, if_pos at_, if_pos at_'] at apart
    exact fun key mem mem' => apart mem' mem

/-- A cycle that has ended has no batch. -/
theorem Task.batch_of_done {t : Task S}
    (isOver : ∀ b, t.heartbeat? = some b → ∃ outcome, b = .done outcome) : t.batch = [] := by
  unfold batch judged pending
  cases cycle : t.heartbeat? with
  | none => rfl
  | some b =>
    obtain ⟨outcome, rfl⟩ := isOver b cycle
    rfl

/-- A call that settles its batch goes on to close the sessions that were thrown out. -/
theorem Task.settles_of_step {t t' : Task S} {verdicts : List (SessionKey × Verdict)}
    (h : t.step v p = some (p', t')) (cycle : t.heartbeat? = some (.settle verdicts)) :
    p' = (p.endProbes verdicts v.now).1 ∧ t'.spoils = (p.endProbes verdicts v.now).2 := by
  cases t with
  | cycle b =>
    cases cycle
    cases h
    exact ⟨rfl, rfl⟩
  | work w =>
    cases w with
    | cycle nominal busy b =>
      cases cycle
      cases h
      exact ⟨rfl, rfl⟩
    | _ => cases cycle
  | _ => cases cycle

/-! ## What is excluded -/

/-- Nobody is lent a session of the pool: it is not active, no lease holds it, and no acquirer is
about to hand it over. -/
structure NotLent (home : PoolId) (s : State S) (p : Pool S) (session : S) : Prop where
  active : ∀ key r, p.active.find? key = some r → r.session ≠ session
  leases : ∀ l ∈ s.allLeases, l.home = home → l.session ≠ some session
  loans : ∀ r, Role.loan r ∈ s.roles home → r.session ≠ session

/-- Who is not active is not lent. -/
theorem Run.notLent (run : Run past s) (built : s.pool? home = some p)
    (few : (enrolled home past).length < UInt64.size) {key : SessionKey} {session : S}
    (known : (key, session) ∈ enrolled home past) (away : (ledger home past s p).engaged key = 0) :
    NotLent home s p session := by
  obtain ⟨-, placed, owned⟩ := run.custody built few
  have active (key' : SessionKey) (r : Record S) (found : p.active.find? key' = some r) :
      r.session ≠ session := by
    intro same
    obtain rfl : key' = key := run.key_eq few (placed.filed.active key' r found).known known same
    have one := Roster.count_keys_of_some found
    have none : p.active.keys.count key' = 0 := by
      unfold Ledger.engaged at away
      exact (Nat.add_eq_zero_iff.1 away).2
    omega
  refine ⟨active, fun l hl at_ holds => ?_, fun r hr => active _ r (owned.loans r hr)⟩
  exact active _ _ (owned.held _ (mem_held_of_lease hl at_ holds)) rfl

/-- Who is neither active nor about to be is in nobody's hands. -/
theorem Run.not_inHand (run : Run past s) (built : s.pool? home = some p)
    (few : (enrolled home past).length < UInt64.size) {key : SessionKey}
    (away : (ledger home past s p).engaged key = 0) :
    key ∉ p.active.keys ∧ key ∉ s.inHand home := by
  obtain ⟨-, -, owned⟩ := run.custody built few
  obtain ⟨recruits, active⟩ := Nat.add_eq_zero_iff.1 away
  have owners : (s.owners home).count key ≤ p.active.keys.count key := owned.most key
  have recruits : ((s.roles home).flatMap Role.recruits).count key = 0 := recruits
  have active : p.active.keys.count key = 0 := active
  refine ⟨List.count_eq_zero.1 active, List.count_eq_zero.1 ?_⟩
  rw [State.count_inHand]
  omega

/-- What a call does that settles its batch. -/
structure Settles (s : State S) (p : Pool S) (call : Call S)
    (verdicts : List (SessionKey × Verdict)) (p' : Pool S) (call' : Call S) : Prop where
  /-- The verdicts are on the sessions of the batch. -/
  own : verdicts.map (·.1) = call.task.batch
  /-- The sessions that are thrown out are those that have failed and are still idle. -/
  evicted : call'.task.spoils = (p.idle.holdings.filter fun e => failing verdicts e.1).map (·.2)
  /-- The others of the batch that are still idle may be lent again, and nothing else is changed. -/
  idle : ∀ key, p'.idle.find? key =
    if failing verdicts key = true then none
    else if key ∈ call.task.batch then (p.idle.find? key).map fun r => r.endProbe .healthy s.now
    else p.idle.find? key
  active : p'.active = p.active

/-- How a pool keeps the sessions under probe apart, at some moment of a run. -/
structure ProbeExclusion (home : PoolId) (past : List (State S × Choice S))
    (s : State S) (p : Pool S) : Prop where
  /-- An idle session is marked exactly while it is in the batch of a cycle. -/
  marked : ∀ key r, p.idle.find? key = some r →
    (r.standing = .probing ↔ ∃ call ∈ s.calls, call.home = home ∧ key ∈ call.task.batch)
  /-- A lent session is not marked. -/
  unmarked : ∀ key r, p.active.find? key = some r → r.standing = .active
  /-- A session is in a batch once, and in the batch of one cycle only. -/
  once : ∀ call ∈ s.calls, call.home = home → call.task.batch.Nodup
  disjoint : ∀ (i j : Nat) (call call' : Call S), i ≠ j → s.calls[i]? = some call →
    s.calls[j]? = some call' → call.home = home → call'.home = home →
    List.Disjoint call.task.batch call'.task.batch
  /-- A session in a batch is not active, and its key is in nobody's hands. -/
  apart : ∀ call ∈ s.calls, call.home = home → ∀ key ∈ call.task.batch,
    key ∉ p.active.keys ∧ key ∉ s.inHand home
  /-- A session that is still to be probed, or is being probed, is known to the pool, and is lent to
  nobody. -/
  unlent : ∀ call ∈ s.calls, call.home = home → ∀ e ∈ call.task.pending,
    e ∈ enrolled home past ∧ NotLent home s p e.2
  /-- A verdict is the one that the probe of the session deserves. -/
  told : ∀ call ∈ s.calls, call.home = home → ∀ e ∈ call.task.judged, ∃ session outcome,
    (e.1, session) ∈ enrolled home past ∧ (session, outcome) ∈ probesIn home past ∧
      e.2 = Heartbeat.verdict outcome
  /-- A cycle throws out those of its own batch that have failed, and no others. -/
  settles : ∀ i (call : Call S) verdicts connected contended s', s.calls[i]? = some call →
    call.home = home → call.task.heartbeat? = some (.settle verdicts) →
    s.act (.step i connected contended) = some s' →
    ∃ p' call', s'.pool? home = some p' ∧ s'.calls[i]? = some call' ∧
      Settles s p call verdicts p' call'
  /-- A session whose probe has failed, or has broken off, is lent to nobody from then on. -/
  failed : ∀ session outcome, (session, outcome) ∈ probesIn home past → (∀ u, outcome ≠ .value u) →
    NotLent home s p session
  /-- When no cycle is in progress, no idle session is marked. -/
  settled : (∀ call ∈ s.calls, call.home = home → ∀ b, call.task.heartbeat? = some b →
    ∃ outcome, b = .done outcome) → ∀ key r, p.idle.find? key = some r → r.standing = .idle

/-- A cycle that settles its batch does so for its own sessions only. -/
theorem Probed.settles (h : Probed home past s p) (filed : Filed (enrolled home past) p)
    (built : s.pool? home = some p) {i : Nat} {call : Call S}
    {verdicts : List (SessionKey × Verdict)}
    {connected : S → Bool} {contended : Bool} (atWork : s.calls[i]? = some call)
    (at_ : call.home = home)
    (cycle : call.task.heartbeat? = some (.settle verdicts))
    (act : s.act (.step i connected contended) = some s') : ∃ p' call', s'.pool? home = some p' ∧
      s'.calls[i]? = some call' ∧ Settles s p call verdicts p' call' := by
  subst at_
  have own : verdicts.map (·.1) = call.task.batch := by
    simp [Task.batch, Task.judged, Task.pending, cycle, Heartbeat.judged, Heartbeat.pending]
  have hcall := List.mem_of_getElem? atWork
  have marked (key : SessionKey) (r : Record S) (found : p.idle.find? key = some r)
      (mem : key ∈ verdicts.map (·.1)) : r.standing = .probing :=
    (h.marks key r found).2 (State.mem_batches_iff.2 ⟨call, hcall, rfl, own ▸ mem⟩)
  have sound (key : SessionKey) (r : Record S) (found : p.idle.find? key = some r) :
      r.standing ≠ .canceled := by
    rcases (filed.idle key r found).standing with same | same <;> simp [same]
  cases happens_of_act act with
  | @step _ _ _ _ site q t' atWork' found did =>
    cases atWork.symm.trans atWork'
    cases built.symm.trans (State.pool?_of_site found)
    obtain ⟨rfl, spoils⟩ := Task.settles_of_step did cycle
    refine ⟨_, { call with task := t' }, (State.pool?_put found _).trans (if_pos rfl), ?_, own, ?_,
      fun key => ?_, rfl⟩
    · rw [State.put, List.getElem?_set_self (List.getElem?_eq_some_iff.1 atWork).1]
    · exact spoils.trans (Pool.sessions_endProbes _ marked sound)
    · rw [← own]
      exact Pool.find?_endProbes_eq _ marked sound key

/-- Probes exclude all others, in every run in which fewer than `2 ^ 64` keys of the pool were
drawn; a key that is drawn a second time would have the record of another session replaced. -/
theorem probe_exclusion (run : Run past s) (built : s.pool? home = some p)
    (few : (enrolled home past).length < UInt64.size) : ProbeExclusion home past s p := by
  have probed := run.probed built few
  obtain ⟨-, placed, -⟩ := run.custody built few
  have filed : Filed (enrolled home past) p := placed.filed
  have mem {call : Call S} (hc : call ∈ s.calls) (at_ : call.home = home) {key : SessionKey}
      (hk : key ∈ call.task.batch) : key ∈ s.batches home :=
    State.mem_batches_iff.2 ⟨call, hc, at_, hk⟩
  have pending {call : Call S} (hc : call ∈ s.calls) (at_ : call.home = home) {e : SessionKey × S}
      (he : e ∈ call.task.pending) : e ∈ s.pending home :=
    List.mem_flatMap.2 ⟨call, hc, by rw [Call.pendingAt, if_pos at_]; exact he⟩
  have each := List.nodup_flatMap.1 ((s.perm_batches home).nodup_iff.1 probed.once)
  refine
    { marked := fun key r found => (probed.marks key r found).trans State.mem_batches_iff
      unmarked := fun key r found => (filed.active key r found).standing
      once := fun call hc at_ => ?_
      disjoint := fun i j call call' ne atWork atWork' at_ at_' =>
        State.disjoint_batches probed.once ne atWork atWork' at_ at_'
      apart := fun call hc at_ key hk => ?_
      unlent := fun call hc at_ e he => ?_
      told := fun call hc at_ e he => ?_
      settles := fun i call verdicts connected contended s' atWork at_ cycle act =>
        probed.settles filed built atWork at_ cycle act
      failed := fun session outcome probe fails => ?_
      settled := fun isOver key r found => ?_ }
  · have own := each.1 call hc
    rwa [if_pos at_] at own
  · exact run.not_inHand built few (probed.away key (mem hc at_ hk))
  · have known := probed.known e (pending hc at_ he)
    refine ⟨known, run.notLent built few known (probed.away e.1 (mem hc at_ ?_))⟩
    exact List.mem_append_right _ (List.mem_map_of_mem he)
  · refine probed.told e (List.mem_flatMap.2 ⟨call, hc, ?_⟩)
    rw [Call.judgedAt, if_pos at_]
    exact he
  · have bad : (Heartbeat.verdict outcome).isHealthy = false := by
      cases outcome with
      | value u => exact (fails u rfl).elim
      | _ => rfl
    obtain ⟨key, known, ⟨verdict, judged, -⟩ | ⟨away, -⟩⟩ := probed.failed session outcome probe bad
    · exact run.notLent built few known (probed.away key (Probed.mem_of_judged judged))
    · exact run.notLent built few known away
  · refine (filed.idle key r found).standing.resolve_right fun marked => ?_
    obtain ⟨call, hc, at_, hk⟩ := State.mem_batches_iff.1 ((probed.marks key r found).1 marked)
    rw [Task.batch_of_done (isOver call hc at_)] at hk
    cases hk

/-- Two cycles overlap. The first one has found one session dead and is probing another; the second
one has just marked the session that was given back in between. -/
def overlapping : List (Choice Nat) :=
  List.flatten [
    [.build { settings := { maxConnections := 3 }, source := some .server }],
    lending 1 10, lending 2 20,
    lending 3 30, [.begin (.dropLease 0)], steps 4 4, [.finish 4, .begin (.dropLease 0)], steps 5 4,
    [.finish 5, .pass (.ofSeconds 1), .begin (.cycle 0 .moment "SELECT 1")], steps 6 1,
    [.answer 6 (.queried (.panic "gone")), .begin (.dropLease 0)], steps 7 4,
    [.finish 7, .pass (.ofSeconds 1), .begin (.cycle 0 .moment "SELECT 1")], steps 8 1]

theorem probe_exclusion_of_overlapping :
    ∃ past s p, Run (S := Nat) past s ∧ s.pool? 0 = some p ∧
      (enrolled 0 past).length < UInt64.size ∧ probesIn 0 past = [(10, .panic "gone")] ∧
      s.calls.map (fun call => call.task.batch) = [[], [], [], [], [], [], [⟨1⟩, ⟨2⟩], [], [⟨3⟩]] ∧
      ProbeExclusion 0 past s p := by
  have h : ((play overlapping).bind fun r =>
      if (enrolled 0 r.1).length < UInt64.size ∧ probesIn 0 r.1 = [(10, .panic "gone")] ∧
        r.2.calls.map (fun call => call.task.batch) =
          [[], [], [], [], [], [], [⟨1⟩, ⟨2⟩], [], [⟨3⟩]]
      then (r.2.pool? 0).map Pool.total else none) = some 3 := by
    decide +kernel
  obtain ⟨⟨past, s⟩, played, h⟩ := Option.bind_eq_some_iff.1 h
  split at h
  · next holds =>
    obtain ⟨p, built, -⟩ := Option.map_eq_some_iff.1 h
    have run := run_of_play played
    exact ⟨past, s, p, run, built, holds.1, holds.2.1, holds.2.2, probe_exclusion run built holds.1⟩
  · cases h

end Interleaving

end ConnectionPool
