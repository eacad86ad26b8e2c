import ConnectionPool.Proofs.Later

set_option autoImplicit false

/-! # The batches of heartbeat cycles

A cycle marks the idle sessions that are due in one section, and settles their verdicts in another.
The sessions that it has marked and not settled yet are its batch: those still to be probed
(`pending`), the one under probe among them, and those with a verdict (`judged`).

Nothing but these two sections changes the mark of an idle session. A session that comes to be idle
is not marked, and it was lent before (`Undisturbed`). So a choice does one of four things to the
marks and to the batches of a pool: it leaves them, marks a new batch, brings a verdict, or settles
a batch (`Progress`). -/

namespace ConnectionPool

variable {S : Type}

/-! ## What a call has marked -/

/-- The sessions that a cycle has still to probe, the one that it is probing first. -/
def Heartbeat.pending : Heartbeat S → List (SessionKey × S)
  | probe _ todo _ => todo
  | _ => []

/-- The verdicts that a cycle has still to settle. -/
def Heartbeat.judged : Heartbeat S → List (SessionKey × Verdict)
  | probe _ _ verdicts | credit _ verdicts | settle verdicts => verdicts
  | _ => []

namespace Interleaving

namespace Task

/-- The cycle that a call runs. -/
def heartbeat? : Task S → Option (Heartbeat S)
  | cycle b | work (.cycle _ _ b) => some b
  | _ => none

def pending (t : Task S) : List (SessionKey × S) := t.heartbeat?.elim [] Heartbeat.pending

def judged (t : Task S) : List (SessionKey × Verdict) := t.heartbeat?.elim [] Heartbeat.judged

/-- The keys of the sessions that a call has marked and not settled yet. -/
def batch (t : Task S) : List SessionKey := t.judged.map (·.1) ++ t.pending.map (·.1)

end Task

def Call.pendingAt (home : PoolId) (c : Call S) : List (SessionKey × S) :=
  if c.home = home then c.task.pending else []

def Call.judgedAt (home : PoolId) (c : Call S) : List (SessionKey × Verdict) :=
  if c.home = home then c.task.judged else []

namespace State

def pending (s : State S) (home : PoolId) : List (SessionKey × S) :=
  s.calls.flatMap (Call.pendingAt home)

def judged (s : State S) (home : PoolId) : List (SessionKey × Verdict) :=
  s.calls.flatMap (Call.judgedAt home)

/-- The keys of the sessions of a pool that cycles have marked and not settled yet. -/
def batches (s : State S) (home : PoolId) : List SessionKey :=
  (s.judged home).map (·.1) ++ (s.pending home).map (·.1)

/-- The probe of a session of the pool that a choice ends, and how it went. -/
def probes (s : State S) (home : PoolId) : Choice S → List (S × Outcome Cause Unit)
  | .answer i (.queried outcome) =>
    match s.calls[i]? with
    | some call => ((call.pendingAt home).head?.map fun e => (e.2, outcome)).toList
    | none => []
  | _ => []

end State

/-- The probes that cycles of the pool have made, the latest first. -/
def probesIn (home : PoolId) (past : List (State S × Choice S)) : List (S × Outcome Cause Unit) :=
  past.flatMap fun e => e.1.probes home e.2

theorem probesIn_cons {home : PoolId} {past : List (State S × Choice S)}
    {s : State S} {c : Choice S} :
    probesIn home ((s, c) :: past) = s.probes home c ++ probesIn home past :=
  List.flatMap_cons

/-- A session that is idle was idle before with the same record, or was lent and is not marked. -/
def Undisturbed (p p' : Pool S) : Prop :=
  ∀ key r, p'.idle.find? key = some r → p.idle.find? key = some r ∨
    r.standing = .idle ∧ ∃ lent, p.active.find? key = some lent

theorem Undisturbed.of_idle {p p' : Pool S} (same : p'.idle = p.idle) : Undisturbed p p' :=
  fun _ _ found => .inl (same ▸ found)

end Interleaving

open Interleaving (Undisturbed Task Reply)

variable {v : View S} {p p' : Pool S} {reply : Reply S}

/-! ## Operations that leave the marks alone -/

theorem Acquire.undisturbed_of_step {a a' : Acquire S} (h : a.step v p = some (p', a')) :
    Undisturbed p p' := by
  cases a with
  | choose patience epoch cap =>
    simp only [step] at h
    cases hd : p.lend cap v.now with
    | mk lent decision =>
      rw [hd] at h
      cases h
      cases decision with
      | reuse loan =>
        obtain ⟨key, record, -, -, -, rfl⟩ := Pool.lend_eq_reuse hd
        intro k r found
        rw [Roster.find?_erase] at found
        split at found
        · cases found
        · exact .inl found
      | reserve =>
        obtain ⟨-, rfl⟩ := Pool.lend_eq_reserve hd
        exact .of_idle rfl
      | full =>
        obtain rfl := Pool.eq_of_lend_full hd
        exact .of_idle rfl
  | wait patience epoch =>
    simp only [step] at h
    split at h
    · cases h
      exact .of_idle rfl
    · split at h <;> cases h
      exact .of_idle rfl
  | install loan =>
    simp only [step, Option.some.injEq, Prod.mk.injEq] at h
    obtain ⟨rfl, -⟩ := h
    unfold Pool.install
    split <;> exact .of_idle rfl
  | create | openNew | closeUnused | done => cases h
  | _ =>
    cases h
    exact .of_idle rfl

/-- A session that is taken back was lent, and it is idle without a mark. -/
theorem Release.undisturbed_of_step {r r' : Release S} (h : r.step v p = some (p', r')) :
    Undisturbed p p' := by
  cases r with
  | takeBack key =>
    simp only [step] at h
    split at h
    · cases h
      exact .of_idle rfl
    · next taken =>
      cases h
      obtain ⟨record, lent, rfl⟩ := Pool.takeBack_eq_shelved taken
      intro k r found
      rw [Roster.find?_insert] at found
      split at found
      · next same =>
        cases found
        exact .inr ⟨rfl, record, same ▸ lent⟩
      · exact .inl found
    · next taken =>
      cases h
      obtain ⟨record, -, -, rfl⟩ := Pool.takeBack_eq_rejected taken
      exact .of_idle rfl
  | close | done => cases h
  | _ =>
    cases h
    exact .of_idle rfl

theorem Return.undisturbed_of_step {r r' : Return S} (h : r.step v p = some (p', r')) :
    Undisturbed p p' := by
  cases r with
  | release r =>
    rcases release_of_step h with ⟨outcome, -, rfl, -⟩ | ⟨u, hu, -⟩
    · exact .of_idle rfl
    · exact Release.undisturbed_of_step hu
  | reach session key =>
    cases h
    exact .of_idle rfl
  | close | done => cases h

theorem Surrender.undisturbed_of_step {d d' : Surrender S} (h : d.step v p = some (p', d')) :
    Undisturbed p p' := by
  refine .of_idle ?_
  cases d with
  | reach session key =>
    cases h
    rfl
  | detach session d =>
    rcases detach_of_step h with ⟨outcome, -, rfl, -⟩ | ⟨u, hu, -⟩
    · rfl
    · cases d with
      | letGo key =>
        simp only [Detach.step] at hu
        split at hu
        · cases hu
          rfl
        · next taken =>
          cases hu
          obtain ⟨record, -, rfl⟩ := Pool.letGo_eq_some taken
          rfl
      | announce =>
        cases hu
        rfl
      | done => cases hu
  | done => cases h

theorem Shutdown.undisturbed_of_step {d d' : Shutdown S} (h : d.step v p = some (p', d')) :
    Undisturbed p p' := by
  cases d with
  | drain =>
    cases h
    intro key r found
    simp at found
  | awaitFirst | asleep =>
    simp only [step] at h
    split at h <;> cases h
    exact .of_idle rfl
  | awaitWorker =>
    simp only [step] at h
    split at h
    · cases h
      exact .of_idle rfl
    · split at h <;> cases h
      exact .of_idle rfl
  | closeIdle n todo =>
    cases todo <;> cases h
    exact .of_idle rfl
  | done => cases h
  | _ =>
    cases h
    exact .of_idle rfl

theorem Resize.undisturbed_of_step {c c' : Resize} (h : c.step v p = some (p', c')) :
    Undisturbed p p' := by
  refine .of_idle ?_
  cases c with
  | write count =>
    simp only [step] at h
    split at h
    · next set =>
      cases h
      rw [Pool.setMaxConnections_eq_ok set]
    · cases h
      rfl
  | announce =>
    cases h
    rfl
  | done => cases h

/-! ## What the steps of a cycle do -/

/-- What a step does to the marks of the idle sessions, and to the batch of the call. -/
inductive Heartbeat.Marks (v : View S) (p : Pool S) (b : Heartbeat S) (p' : Pool S)
    (b' : Heartbeat S) : Prop
  | leaves (pending : b'.pending = b.pending) (judged : b'.judged = b.judged)
      (idle : p'.idle = p.idle)
  /-- The sessions that are due are marked, and make up the batch. -/
  | selects {interval : Duration} (none : b.pending = []) (judged : b'.judged = b.judged)
      (pending : b'.pending = (p.beginProbes interval v.now).2)
      (pool : p' = (p.beginProbes interval v.now).1)
  /-- The batch is settled. -/
  | settles {verdicts : List (SessionKey × Verdict)} (now : b = .settle verdicts)
      (after : b' =
        .evict verdicts (p.endProbes verdicts v.now).2.length (p.endProbes verdicts v.now).2)
      (pool : p' = (p.endProbes verdicts v.now).1)

theorem Heartbeat.marks_of_step {b b' : Heartbeat S} (h : b.step v p = some (p', b')) :
    b.Marks v p p' b' := by
  cases b with
  | select interval statement =>
    simp only [step] at h
    split at h
    · cases h
      exact .leaves rfl rfl rfl
    · split at h
      · cases h
        exact .leaves rfl rfl rfl
      · simp only [Option.some.injEq, Prod.mk.injEq] at h
        obtain ⟨rfl, rfl⟩ := h
        refine .selects rfl ?_ ?_ rfl
        · split <;> rfl
        · split
          · next none => exact (List.isEmpty_iff.1 none).symm
          · rfl
  | probe statement todo verdicts =>
    cases todo <;> cases h
    exact .leaves rfl rfl rfl
  | credit todo verdicts =>
    cases todo <;> cases h
    · exact .leaves rfl rfl rfl
    · refine .leaves rfl rfl ?_
      split <;> rfl
  | settle verdicts =>
    cases h
    exact .settles rfl rfl rfl
  | evict verdicts evicted todo =>
    cases todo <;> cases h
    exact .leaves rfl rfl rfl
  | count | announce =>
    cases h
    exact .leaves rfl rfl rfl
  | done => cases h

/-- A session that was probed has a verdict from now on, the one that its answer deserves. -/
theorem Heartbeat.batch_of_answer {b b' : Heartbeat S} (h : b.status.answer reply = some b') :
    (b.pending = [] ∧ b'.pending = [] ∧ b'.judged = b.judged) ∨
      ∃ key session outcome, reply = .queried outcome ∧ b.pending = (key, session) :: b'.pending ∧
        b'.judged = b.judged ++ [(key, verdict outcome)] := by
  cases b with
  | probe statement todo verdicts =>
    cases todo with
    | nil => cases h
    | cons head rest =>
      cases reply with
      | queried outcome =>
        cases h
        exact .inr ⟨head.1, head.2, outcome, rfl, rfl, rfl⟩
      | _ => cases h
  | evict verdicts evicted todo =>
    cases todo with
    | nil => cases h
    | cons session rest =>
      cases reply with
      | closed outcome =>
        cases h
        cases outcome with
        | error e => exact e.elim
        | _ => exact .inl ⟨rfl, rfl, rfl⟩
      | _ => cases h
  | _ => cases h

namespace Interleaving

/-! ## What the steps of a call do -/

/-- What a step of a call does to the marks of the idle sessions, and to its batch. -/
inductive Task.Marks (v : View S) (p : Pool S) (t : Task S) (p' : Pool S) (t' : Task S) : Prop
  | leaves (pending : t'.pending = t.pending) (judged : t'.judged = t.judged)
      (rest : Undisturbed p p')
  | runs {b b' : Heartbeat S} (cycle : t.heartbeat? = some b) (cycle' : t'.heartbeat? = some b')
      (marks : b.Marks v p p' b')

theorem Task.marks_of_step {t t' : Task S} (h : t.step v p = some (p', t')) :
    t.Marks v p p' t' := by
  cases t with
  | cycle b =>
    obtain ⟨u, hu, rfl⟩ := exists_of_map_step h
    exact .runs rfl rfl (Heartbeat.marks_of_step hu)
  | work w =>
    obtain ⟨u, hu, rfl⟩ := exists_of_map_step h
    cases w with
    | cycle nominal busy b =>
      rcases Worker.cycle_of_step hu with ⟨outcome, rfl, rfl, rfl⟩ | ⟨b', hb, rfl⟩
      · cases outcome with
        | error e => exact e.elim
        | _ => exact .leaves rfl rfl (.of_idle rfl)
      · exact .runs rfl rfl (Heartbeat.marks_of_step hb)
    | asleep until? =>
      simp only [Worker.step] at hu
      split at hu
      · cases hu
        exact .leaves rfl rfl (.of_idle rfl)
      · split at hu <;> cases hu
        exact .leaves rfl rfl (.of_idle rfl)
    | readSettings | stop =>
      cases hu
      exact .leaves rfl rfl (.of_idle rfl)
    | done => cases hu
    | _ =>
      cases hu
      split <;> exact .leaves rfl rfl (.of_idle rfl)
  | acquire a =>
    obtain ⟨u, hu, rfl⟩ := exists_of_map_step h
    exact .leaves rfl rfl (Acquire.undisturbed_of_step hu)
  | giveBack kept r =>
    obtain ⟨u, hu, rfl⟩ := exists_of_map_step h
    exact .leaves rfl rfl (Return.undisturbed_of_step hu)
  | transfer t =>
    obtain ⟨u, hu, rfl⟩ := exists_of_map_step h
    refine .leaves rfl rfl ?_
    cases Transfer.steps_of_step hu with
    | giving around did => exact Return.undisturbed_of_step did
    | _ => exact .of_idle rfl
  | surrender d =>
    obtain ⟨u, hu, rfl⟩ := exists_of_map_step h
    exact .leaves rfl rfl (Surrender.undisturbed_of_step hu)
  | resize c =>
    obtain ⟨u, hu, rfl⟩ := exists_of_map_step h
    exact .leaves rfl rfl (Resize.undisturbed_of_step hu)
  | shutDown d | drop d =>
    obtain ⟨u, hu, rfl⟩ := exists_of_map_step h
    exact .leaves rfl rfl (Shutdown.undisturbed_of_step hu)
  | returned => cases h

theorem Task.batch_of_answer {t t' : Task S} (h : t.answer reply = some t') :
    (t.pending = [] ∧ t'.pending = [] ∧ t'.judged = t.judged) ∨
      ∃ key session outcome, reply = .queried outcome ∧ t.pending = (key, session) :: t'.pending ∧
        t'.judged = t.judged ++ [(key, Heartbeat.verdict outcome)] := by
  cases t with
  | cycle b =>
    obtain ⟨u, hu, rfl⟩ := Option.map_eq_some_iff.1 h
    exact Heartbeat.batch_of_answer hu
  | work w =>
    obtain ⟨u, hu, rfl⟩ := Option.map_eq_some_iff.1 h
    cases w with
    | cycle nominal busy b =>
      obtain ⟨b', hb, rfl⟩ := Status.answer_embed hu
      exact Heartbeat.batch_of_answer hb
    | _ => cases hu
  | resize | returned => cases h
  | _ =>
    obtain ⟨u, -, rfl⟩ := Option.map_eq_some_iff.1 h
    exact .inl ⟨rfl, rfl, rfl⟩

/-! ## What a choice does -/

variable {home : PoolId} {past : List (State S × Choice S)} {s s' : State S} {c : Choice S}

/-! The keys of all batches together, under each of the four things that a choice may do. -/

section

variable (pending : (s'.pending home).Perm (s.pending home))
  (judged : (s'.judged home).Perm (s.judged home))

include pending judged in
theorem State.batches_leave : (s'.batches home).Perm (s.batches home) :=
  (judged.map _).append (pending.map _)

include judged in
theorem State.batches_select {batch : List (SessionKey × S)}
    (pending : (s'.pending home).Perm (batch ++ s.pending home)) :
    (s'.batches home).Perm (batch.map (·.1) ++ s.batches home) := by
  have keys := pending.map (·.1)
  rw [List.map_append] at keys
  exact ((judged.map _).append keys).trans (List.perm_append_comm_assoc _ _ _)

theorem State.batches_hear {key : SessionKey} {session : S} {verdict : Verdict}
    (pending : (s.pending home).Perm ((key, session) :: s'.pending home))
    (judged : (s'.judged home).Perm ((key, verdict) :: s.judged home)) :
    (s'.batches home).Perm (s.batches home) := by
  refine ((judged.map (·.1)).append_right _).trans (List.Perm.symm ?_)
  exact ((pending.map (·.1)).append_left _).trans List.perm_middle

include pending in
theorem State.batches_settle {verdicts : List (SessionKey × Verdict)}
    (judged : (s.judged home).Perm (verdicts ++ s'.judged home)) :
    (s.batches home).Perm (verdicts.map (·.1) ++ s'.batches home) := by
  refine ((judged.map (·.1)).append (pending.symm.map (·.1))).trans ?_
  rw [List.map_append, List.append_assoc]
  exact .refl _

end

/-- What a choice does to the marks of a pool, and to the batches of its cycles. -/
inductive Progress (home : PoolId) (s : State S) (p : Pool S) (c : Choice S)
    (s' : State S) (p' : Pool S) : Prop
  | leaves (pending : (s'.pending home).Perm (s.pending home))
      (judged : (s'.judged home).Perm (s.judged home)) (probes : s.probes home c = [])
      (rest : Undisturbed p p')
  | selects {interval : Duration} {now : Instant}
      (pending : (s'.pending home).Perm ((p.beginProbes interval now).2 ++ s.pending home))
      (judged : (s'.judged home).Perm (s.judged home)) (probes : s.probes home c = [])
      (pool : p' = (p.beginProbes interval now).1)
  | hears {key : SessionKey} {session : S} {outcome : Outcome Cause Unit}
      (pending : (s.pending home).Perm ((key, session) :: s'.pending home))
      (judged : (s'.judged home).Perm ((key, Heartbeat.verdict outcome) :: s.judged home))
      (probes : s.probes home c = [(session, outcome)]) (pool : p' = p)
  | settles {verdicts : List (SessionKey × Verdict)} {now : Instant}
      (pending : (s'.pending home).Perm (s.pending home))
      (judged : (s.judged home).Perm (verdicts ++ s'.judged home)) (probes : s.probes home c = [])
      (pool : p' = (p.endProbes verdicts now).1)

theorem Call.no_batch {call : Call S}
    (none : call.task.pending = [] ∧ call.task.judged = []) (home : PoolId) :
    call.pendingAt home = [] ∧ call.judgedAt home = [] := by
  rw [Call.pendingAt, Call.judgedAt, none.1, none.2, ite_self, ite_self]
  exact ⟨rfl, rfl⟩

theorem Begins.no_batch {call : Call S} (h : Begins s c call) (home : PoolId) :
    call.pendingAt home = [] ∧ call.judgedAt home = [] :=
  Call.no_batch (by cases h <;> exact ⟨rfl, rfl⟩) home

theorem Task.no_batch_of_isEnded {t : Task S} (h : t.isEnded = true) :
    t.pending = [] ∧ t.judged = [] := by
  cases ended_of_isEnded h <;> exact ⟨rfl, rfl⟩

/-- A call that goes on leaves the batches of the others alone. -/
theorem State.exists_batches_set {i : Nat} {call : Call S}
    (atWork : s.calls[i]? = some call) (home : PoolId) :
    ∃ pending judged, (s.pending home).Perm (call.pendingAt home ++ pending) ∧
      (s.judged home).Perm (call.judgedAt home ++ judged) ∧
      ∀ (s' : State S) (call' : Call S), s'.calls = s.calls.set i call' →
        (s'.pending home).Perm (call'.pendingAt home ++ pending) ∧
        (s'.judged home).Perm (call'.judgedAt home ++ judged) := by
  obtain ⟨pending, before, after⟩ := exists_perm_flatMap_set (Call.pendingAt home) atWork
  obtain ⟨judged, before', after'⟩ := exists_perm_flatMap_set (Call.judgedAt home) atWork
  refine ⟨pending, judged, before, before', fun s' call' calls => ?_⟩
  rw [State.pending, State.judged, calls]
  exact ⟨after call', after' call'⟩

/-- A choice that begins a call leaves all batches as they are. -/
theorem Begins.batches (s' : State S) {call : Call S} (begun : Begins s c call)
    (calls : s'.calls = s.calls ++ [call]) (home : PoolId) :
    s'.pending home = s.pending home ∧ s'.judged home = s.judged home := by
  obtain ⟨pending, judged⟩ := begun.no_batch home
  constructor
  · simp [State.pending, calls, pending]
  · simp [State.judged, calls, judged]

theorem Progress.of_begins {call : Call S} (calls : s'.calls = s.calls ++ [call])
    (begun : Begins s c call) (probes : s.probes home c = []) : Progress home s p c s' p := by
  obtain ⟨pending, judged⟩ := begun.batches s' calls home
  exact .leaves (pending ▸ .refl _) (judged ▸ .refl _) probes (.of_idle rfl)

theorem progress_of_step {i : Nat} {connected : S → Bool} {contended : Bool}
    {call : Call S} {site : Site S} {q : Pool S} {t' : Task S} (atWork : s.calls[i]? = some call)
    (did : call.task.step (s.view call connected contended) site.pool = some (q, t')) :
    Progress call.home s site.pool (.step i connected contended) (s.put i call site q t') q := by
  obtain ⟨pending, judged, before, before', after⟩ := State.exists_batches_set atWork call.home
  obtain ⟨new, new'⟩ := after (s.put i call site q t') { call with task := t' } rfl
  simp only [Call.pendingAt, Call.judgedAt, if_true] at before before' new new'
  cases Task.marks_of_step did with
  | leaves same same' rest =>
    rw [same] at new
    rw [same'] at new'
    exact .leaves (new.trans before.symm) (new'.trans before'.symm) rfl rest
  | runs cycle cycle' marks =>
    simp only [Task.pending, Task.judged, cycle, Option.elim] at before before'
    simp only [Task.pending, Task.judged, cycle', Option.elim] at new new'
    cases marks with
    | leaves same same' idle =>
      rw [same] at new
      rw [same'] at new'
      exact .leaves (new.trans before.symm) (new'.trans before'.symm) rfl (.of_idle idle)
    | selects none same marked pool =>
      rw [none, List.nil_append] at before
      rw [same] at new'
      rw [marked] at new
      exact .selects (new.trans (before.symm.append_left _)) (new'.trans before'.symm) rfl pool
    | settles now done pool =>
      subst now done
      exact .settles (new.trans before.symm) (before'.trans (new'.symm.append_left _)) rfl pool

/-- The batches of a pool are not touched by a call on another pool. -/
theorem State.batches_set_elsewhere (s' : State S) {i : Nat} {call : Call S} {task : Task S}
    (atWork : s.calls[i]? = some call) (elsewhere : call.home ≠ home)
    (calls : s'.calls = s.calls.set i { call with task }) :
    (s'.pending home).Perm (s.pending home) ∧ (s'.judged home).Perm (s.judged home) := by
  obtain ⟨pending, judged, before, before', after⟩ := State.exists_batches_set atWork home
  obtain ⟨new, new'⟩ := after s' { call with task } calls
  simp only [Call.pendingAt, Call.judgedAt, if_neg elsewhere, List.nil_append]
    at before before' new new'
  exact ⟨new.trans before.symm, new'.trans before'.symm⟩

/-- Only a call that is probing a session of the pool hears how a probe went. -/
theorem State.probes_of_answer {i : Nat} {reply : Reply S} {call : Call S}
    (atWork : s.calls[i]? = some call) (none : call.pendingAt home = []) :
    s.probes home (.answer i reply) = [] := by
  cases reply with
  | queried outcome => simp [probes, atWork, none]
  | _ => rfl

theorem progress_of_answer {i : Nat} {reply : Reply S} {call : Call S} {t' : Task S}
    (atWork : s.calls[i]? = some call) (did : call.task.answer reply = some t')
    (calls : s'.calls = s.calls.set i { call with task := t' }) :
    Progress call.home s p (.answer i reply) s' p := by
  obtain ⟨pending, judged, before, before', after⟩ := State.exists_batches_set atWork call.home
  obtain ⟨new, new'⟩ := after s' { call with task := t' } calls
  simp only [Call.pendingAt, Call.judgedAt, if_true] at before before' new new'
  rcases Task.batch_of_answer did with
    ⟨none, none', same⟩ | ⟨key, session, outcome, rfl, head, more⟩
  · rw [none] at before
    rw [none'] at new
    rw [same] at new'
    refine .leaves (new.trans before.symm) (new'.trans before'.symm) ?_ (.of_idle rfl)
    exact State.probes_of_answer atWork (by simp [Call.pendingAt, none])
  · rw [head] at before
    rw [more] at new'
    have told : s.probes call.home (.answer i (.queried outcome)) = [(session, outcome)] := by
      simp [State.probes, atWork, Call.pendingAt, head]
    refine .hears (before.trans (new.symm.cons _)) (new'.trans ?_) told rfl
    rw [List.append_assoc]
    exact List.perm_middle.trans (before'.symm.cons _)

theorem progress_of_act (act : s.act c = some s') (built : s.pool? home = some p)
    (built' : s'.pool? home = some p') : Progress home s p c s' p' := by
  obtain ⟨q, hq, alters⟩ := alters_of_act act built
  cases hq.symm.trans built'
  cases happens_of_act act with
  | pass d =>
    cases alters
    exact .leaves (.refl _) (.refl _) rfl (.of_idle rfl)
  | build =>
    cases alters
    exact .of_begins rfl .work rfl
  | begin admitted =>
    cases alters
    exact .of_begins rfl (begins_of_enter admitted) rfl
  | drop =>
    cases alters
    exact .of_begins rfl .drop rfl
  | adjust found =>
    refine .leaves (.refl _) (.refl _) rfl (.of_idle ?_)
    cases alters with
    | rests => rfl
    | adjusts => exact (Adjustment.alike _).idle
  | @step i connected contended call site q t' atWork found did =>
    by_cases hh : call.home = home
    · subst hh
      cases built.symm.trans (State.pool?_of_site found)
      rw [State.pool?_put found, if_pos rfl] at built'
      cases built'
      exact progress_of_step atWork did
    · rw [State.pool?_put found, if_neg (Ne.symm hh), built] at built'
      cases built'
      obtain ⟨pending, judged⟩ := State.batches_set_elsewhere (s.put i call site q t') atWork hh rfl
      exact .leaves pending judged rfl (.of_idle rfl)
  | @answer i reply call site t' atWork found did =>
    cases alters
    by_cases hh : call.home = home
    · subst hh
      exact progress_of_answer atWork did rfl
    · obtain ⟨pending, judged⟩ := State.batches_set_elsewhere { s.put i call site site.pool t' with
        delivered := reply.delivery.toList ++ s.delivered } atWork hh rfl
      exact .leaves pending judged (State.probes_of_answer atWork (if_neg hh)) (.of_idle rfl)
  | @finish i call atWork ended =>
    cases alters
    obtain ⟨pending, judged, before, before', after⟩ := State.exists_batches_set atWork home
    obtain ⟨new, new'⟩ := after { s with
      leases := s.leases ++ call.yields
      calls := s.calls.set i { call with task := .returned } } { call with task := .returned } rfl
    obtain ⟨none, none'⟩ := Call.no_batch (Task.no_batch_of_isEnded ended) home
    obtain ⟨spent, spent'⟩ := @Call.no_batch _ { call with task := .returned } ⟨rfl, rfl⟩ home
    rw [none] at before
    rw [none'] at before'
    rw [spent] at new
    rw [spent'] at new'
    exact .leaves (new.trans before.symm) (new'.trans before'.symm) rfl (.of_idle rfl)

end Interleaving

end ConnectionPool
