import ConnectionPool.Proofs.Epochs
import ConnectionPool.Proofs.Later

set_option autoImplicit false

/-! # What a shutdown has done

The phase of a shutdown tells what it has done, and what it has seen, on its way there (`Backed`).
One that goes on after closing the pool has closed it; one that is past the idle sessions has taken
them (`Drained`); one that returns has seen that nothing was outstanding (`Emptied`), or has lost
its patience (`LeftEarly`). A shutdown that finds the pool closed does none of this itself. It
returns when the pool is marked as drained, and only a shutdown that has come to its end marks
it. -/

namespace ConnectionPool

open Interleaving (Task Adjustment)

variable {S : Type} {v : View S} {p p' : Pool S}

/-! ## Who writes that something has ended

A pool is marked as drained when its first shutdown has ended, and its worker as stopped when that
has ended. No section of a pool writes either mark; of the operations, only the one that ends
does. -/

namespace Pool

/-- Whether the first shutdown has ended, and whether the worker has. -/
def endings (p : Pool S) : Bool × Bool := (p.drained, p.workerStopped)

variable {now : Instant}

theorem endings_lend {cap : UInt32} {decision : Decision S} (h : p.lend cap now = (p', decision)) :
    p'.endings = p.endings := by
  cases decision with
  | reuse loan =>
    obtain ⟨key, record, -, -, -, rfl⟩ := lend_eq_reuse h
    rfl
  | reserve =>
    obtain ⟨-, rfl⟩ := lend_eq_reserve h
    rfl
  | full => rw [eq_of_lend_full h]

theorem endings_install (loan : Record S) : (p.install loan).1.endings = p.endings := by
  simp only [install]
  split <;> rfl

theorem endings_takeBack {key : SessionKey} {connected : S → Bool} {rejected : Option S}
    (h : p.takeBack key connected now = some (p', rejected)) : p'.endings = p.endings := by
  obtain ⟨record, idle, -, rfl, -⟩ := takeBack_eq_some h
  rfl

theorem endings_letGo {key : SessionKey} (h : p.letGo key = some p') : p'.endings = p.endings := by
  obtain ⟨record, -, rfl⟩ := letGo_eq_some h
  rfl

end Pool

theorem Acquire.endings_of_step {a a' : Acquire S} (h : a.step v p = some (p', a')) :
    p'.endings = p.endings := by
  cases a with
  | choose patience epoch cap =>
    simp only [step] at h
    cases hd : p.lend cap v.now with
    | mk lent decision =>
      rw [hd] at h
      cases h
      exact Pool.endings_lend hd
  | wait patience epoch =>
    simp only [step] at h
    split at h
    · cases h
      rfl
    · split at h <;> cases h
      rfl
  | install loan =>
    cases h
    exact Pool.endings_install loan
  | create | openNew | closeUnused | done => cases h
  | _ =>
    cases h
    rfl

theorem Release.endings_of_step {r r' : Release S} (h : r.step v p = some (p', r')) :
    p'.endings = p.endings := by
  cases r with
  | takeBack key =>
    simp only [step] at h
    split at h
    · cases h
      rfl
    · next ht =>
      cases h
      exact Pool.endings_takeBack ht
    · next ht =>
      cases h
      exact Pool.endings_takeBack ht
  | close | done => cases h
  | _ =>
    cases h
    rfl

theorem Detach.endings_of_step {d d' : Detach} (h : d.step v p = some (p', d')) :
    p'.endings = p.endings := by
  cases d with
  | letGo key =>
    simp only [step] at h
    split at h
    · cases h
      rfl
    · next ht =>
      cases h
      exact Pool.endings_letGo ht
  | announce =>
    cases h
    rfl
  | done => cases h

theorem Heartbeat.endings_of_step {b b' : Heartbeat S} (h : b.step v p = some (p', b')) :
    p'.endings = p.endings := by
  cases b with
  | select interval statement =>
    simp only [step] at h
    split at h
    · cases h
      rfl
    · split at h <;> cases h <;> rfl
  | probe statement todo verdicts =>
    cases todo <;> cases h
    rfl
  | credit todo verdicts =>
    cases todo <;> cases h
    · rfl
    · split <;> rfl
  | evict verdicts evicted todo =>
    cases todo <;> cases h
    rfl
  | done => cases h
  | _ =>
    cases h
    rfl

theorem Resize.endings_of_step {c c' : Resize} (h : c.step v p = some (p', c')) :
    p'.endings = p.endings := by
  cases c with
  | write count =>
    simp only [step] at h
    split at h
    · next set =>
      cases h
      rw [Pool.setMaxConnections_eq_ok set]
      rfl
    · cases h
      rfl
  | announce =>
    cases h
    rfl
  | done => cases h

/-- A worker that stops says so. -/
theorem Worker.endings_of_step {w w' : Worker S} (h : w.step v p = some (p', w')) :
    p'.endings = p.endings ∨ w = stop ∧ p' = { p with workerStopped := true } := by
  cases w with
  | asleep until? =>
    simp only [step] at h
    split at h
    · cases h
      exact .inl rfl
    · split at h <;> cases h
      exact .inl rfl
  | cycle nominal busy heartbeat =>
    rcases cycle_of_step h with ⟨outcome, -, rfl, -⟩ | ⟨b, hb, -⟩
    · exact .inl rfl
    · exact .inl (Heartbeat.endings_of_step hb)
  | stop =>
    cases h
    exact .inr ⟨rfl, rfl⟩
  | done => cases h
  | _ =>
    cases h
    exact .inl rfl

theorem Return.endings_of_step {r r' : Return S} (h : r.step v p = some (p', r')) :
    p'.endings = p.endings := by
  cases r with
  | reach session key =>
    cases h
    rfl
  | release r =>
    rcases release_of_step h with ⟨outcome, -, rfl, -⟩ | ⟨u, hu, -⟩
    · rfl
    · exact Release.endings_of_step hu
  | close | done => cases h

theorem Surrender.endings_of_step {d d' : Surrender S} (h : d.step v p = some (p', d')) :
    p'.endings = p.endings := by
  cases d with
  | reach session key =>
    cases h
    rfl
  | detach session d =>
    rcases detach_of_step h with ⟨outcome, -, rfl, -⟩ | ⟨u, hu, -⟩
    · rfl
    · exact Detach.endings_of_step hu
  | done => cases h

theorem Transfer.endings_of_step {t t' : Transfer S} (h : t.step v p = some (p', t')) :
    p'.endings = p.endings := by
  cases steps_of_step h with
  | giving around did => exact Return.endings_of_step did
  | _ => rfl

/-- A shutdown that has come to its end says so. -/
theorem Shutdown.endings_of_step {d d' : Shutdown S} (h : d.step v p = some (p', d')) :
    p'.endings = p.endings ∨ d = finish ∧ p' = { p with drained := true } := by
  cases d with
  | awaitFirst =>
    simp only [step] at h
    split at h <;> cases h
    exact .inl rfl
  | awaitWorker =>
    simp only [step] at h
    split at h
    · cases h
      exact .inl rfl
    · split at h <;> cases h
      exact .inl rfl
  | asleep =>
    simp only [step] at h
    split at h <;> cases h
    exact .inl rfl
  | closeIdle n todo =>
    cases todo <;> cases h
    exact .inl rfl
  | finish =>
    cases h
    exact .inr ⟨rfl, rfl⟩
  | done => cases h
  | _ =>
    cases h
    exact .inl rfl

namespace Interleaving

/-- The shutdown that a call is about, if it is about one. -/
def Task.shutdown? : Task S → Option (Shutdown S)
  | shutDown d | drop d => some d
  | _ => none

/-- What a step of a call writes about endings. -/
theorem Task.endings_of_step {t t' : Task S} (h : t.step v p = some (p', t')) :
    p'.endings = p.endings ∨ t.shutdown? = some .finish ∧ p' = { p with drained := true } ∨
      t = .work .stop ∧ p' = { p with workerStopped := true } := by
  cases t with
  | acquire a =>
    obtain ⟨u, hu, -⟩ := exists_of_map_step h
    exact .inl (Acquire.endings_of_step hu)
  | giveBack kept r =>
    obtain ⟨u, hu, -⟩ := exists_of_map_step h
    exact .inl (Return.endings_of_step hu)
  | transfer t =>
    obtain ⟨u, hu, -⟩ := exists_of_map_step h
    exact .inl (Transfer.endings_of_step hu)
  | surrender d =>
    obtain ⟨u, hu, -⟩ := exists_of_map_step h
    exact .inl (Surrender.endings_of_step hu)
  | cycle b =>
    obtain ⟨u, hu, -⟩ := exists_of_map_step h
    exact .inl (Heartbeat.endings_of_step hu)
  | work w =>
    obtain ⟨u, hu, -⟩ := exists_of_map_step h
    exact (Worker.endings_of_step hu).imp_right fun ⟨last, marked⟩ =>
      .inr ⟨congrArg work last, marked⟩
  | resize c =>
    obtain ⟨u, hu, -⟩ := exists_of_map_step h
    exact .inl (Resize.endings_of_step hu)
  | shutDown d | drop d =>
    obtain ⟨u, hu, -⟩ := exists_of_map_step h
    exact (Shutdown.endings_of_step hu).imp_right fun ⟨last, marked⟩ =>
      .inl ⟨congrArg some last, marked⟩
  | returned => cases h

/-- Only a shutdown that has come to its end marks the pool as drained. -/
theorem Task.drained_of_step {t t' : Task S} (h : t.step v p = some (p', t')) :
    p'.drained = p.drained ∨ t.shutdown? = some .finish := by
  rcases endings_of_step h with same | ⟨finishing, -⟩ | ⟨-, rfl⟩
  · exact .inl (congrArg Prod.fst same)
  · exact .inr finishing
  · exact .inl rfl

/-- Only the worker marks itself as stopped. -/
theorem Task.workerStopped_of_step {t t' : Task S} (h : t.step v p = some (p', t')) :
    p'.workerStopped = p.workerStopped ∨ t = .work .stop ∧ p'.workerStopped = true := by
  rcases endings_of_step h with same | ⟨-, rfl⟩ | ⟨stopping, rfl⟩
  · exact .inl (congrArg Prod.snd same)
  · exact .inl rfl
  · exact .inr ⟨stopping, rfl⟩

theorem Adjustment.endings (change : Adjustment) : (change.apply p).endings = p.endings := by
  cases change with
  | heartbeatQuery text =>
    simp only [apply, Pool.setHeartbeatQuery]
    split
    · next heq =>
      split at heq <;> cases heq
      rfl
    · rfl
  | _ => rfl

theorem Adjustment.drained (change : Adjustment) : (change.apply p).drained = p.drained :=
  congrArg Prod.fst change.endings

/-- Nothing has ended in a pool that was just built. -/
theorem endings_of_build {builder : Builder} {now : Instant} (made : builder.build now = .ok p) :
    p.endings = (false, false) := by
  simp only [Builder.build, Pool.new] at made
  split at made
  · next hnew =>
    split at hnew <;> cases hnew
    cases made
    rfl
  · cases made

theorem Task.shutdown?_of_step {t t' : Task S} {d' : Shutdown S} (h : t.step v p = some (p', t'))
    (about : t'.shutdown? = some d') : ∃ d, t.shutdown? = some d ∧ d.step v p = some (p', d') := by
  cases t with
  | shutDown d | drop d =>
    obtain ⟨u, hu, rfl⟩ := exists_of_map_step h
    cases about
    exact ⟨d, rfl, hu⟩
  | returned => cases h
  | _ =>
    obtain ⟨u, -, rfl⟩ := exists_of_map_step h
    cases about

theorem Task.shutdown_step {t t' : Task S} {d : Shutdown S} (about : t.shutdown? = some d)
    (h : t.step v p = some (p', t')) :
    ∃ d', t'.shutdown? = some d' ∧ d.step v p = some (p', d') := by
  cases t with
  | shutDown u | drop u =>
    cases about
    obtain ⟨d', did, rfl⟩ := exists_of_map_step h
    exact ⟨d', rfl, did⟩
  | _ => cases about

theorem Task.shutdown?_of_answer {t t' : Task S} {reply : Reply S} {d' : Shutdown S}
    (h : t.answer reply = some t') (about : t'.shutdown? = some d') :
    ∃ d, t.shutdown? = some d ∧ d.status.answer reply = some d' := by
  cases t with
  | shutDown d | drop d =>
    obtain ⟨u, hu, rfl⟩ := Option.map_eq_some_iff.1 h
    cases about
    exact ⟨d, rfl, hu⟩
  | resize | returned => cases h
  | _ =>
    obtain ⟨u, -, rfl⟩ := Option.map_eq_some_iff.1 h
    cases about

/-! ## What the shutdowns of a pool have done -/

variable {home : PoolId} {past : List (State S × Choice S)} {s s' : State S} {c : Choice S}

/-- The phase from which a choice moves a shutdown of the pool on. -/
def shutdownPhase? (home : PoolId) (e : State S × Choice S) : Option (Shutdown S) :=
  match e.2 with
  | .step i _ _ => (e.1.calls[i]?).bind fun call =>
                     if call.home = home then call.task.shutdown? else none
  | _ => none

/-- A shutdown has taken the idle sessions of the pool. -/
def Drained (home : PoolId) (past : List (State S × Choice S)) : Prop :=
  ∃ e ∈ past, shutdownPhase? home e = some .drain

instance [DecidableEq S] : Decidable (Drained home past) :=
  inferInstanceAs (Decidable (∃ e ∈ past, shutdownPhase? home e = some .drain))

/-- A shutdown of the pool looks whether anything is outstanding, and sees this state of it. -/
def LooksAt (home : PoolId) (e : State S × Choice S) (p : Pool S) : Prop :=
  (∃ since pause limit, shutdownPhase? home e = some (.look since pause limit)) ∧
    e.1.pool? home = some p

/-- A shutdown has seen that no session of the pool is lent and none is being made. -/
def Emptied (home : PoolId) (past : List (State S × Choice S)) : Prop :=
  ∃ e ∈ past, ∃ p, LooksAt home e p ∧ p.outstanding = 0

/-- A shutdown has lost its patience while sessions were lent, or being made. -/
def LeftEarly (home : PoolId) (past : List (State S × Choice S)) : Prop :=
  ∃ e ∈ past, ∃ since pause limit p, shutdownPhase? home e = some (.look since pause (some limit)) ∧
    e.1.pool? home = some p ∧ p.outstanding ≠ 0 ∧ limit ≤ e.1.now.since since

/-- When the shutdown that a choice makes look began to wait, how long it is ready to wait, and what
it sees. -/
def look? (home : PoolId) (e : State S × Choice S) : Option (Instant × Option Duration × Pool S) :=
  match shutdownPhase? home e, e.1.pool? home with
  | some (.look since _ limit), some p => some (since, limit, p)
  | _, _ => none

theorem look?_eq_some {e : State S × Choice S} {since : Instant} {limit : Option Duration} :
    look? home e = some (since, limit, p) ↔
      (∃ pause, shutdownPhase? home e = some (.look since pause limit)) ∧
      e.1.pool? home = some p := by
  unfold look?
  split
  · next since' pause limit' p' phase built =>
    simp only [phase, built, Option.some.injEq, Prod.mk.injEq, Shutdown.look.injEq]
    grind
  · next other =>
    constructor
    · rintro ⟨⟩
    · rintro ⟨⟨pause, phase⟩, built⟩
      exact (other _ _ _ _ phase built).elim

instance : Decidable (Emptied home past) :=
  decidable_of_iff (∃ e ∈ past, (look? home e).any (·.2.2.outstanding = 0) = true) <| by
    simp only [Emptied, LooksAt, Option.any_eq_true, Prod.exists, look?_eq_some]
    grind

instance : Decidable (LeftEarly home past) :=
  decidable_of_iff (∃ e ∈ past, (look? home e).any (fun (since, limit, p) =>
      limit.any fun limit => p.outstanding ≠ 0 && limit ≤ e.1.now.since since) = true) <| by
    simp only [LeftEarly, Option.any_eq_true, Prod.exists, look?_eq_some]
    grind

/-- A shutdown has done all that it can do before it returns. -/
structure Concluded (home : PoolId) (past : List (State S × Choice S)) : Prop where
  drained : Drained home past
  looked : Emptied home past ∨ LeftEarly home past

theorem shutdownPhase?_of_step {i : Nat} {connected : S → Bool} {contended : Bool} {call : Call S}
    (was : s.calls[i]? = some call) :
    shutdownPhase? call.home (s, .step i connected contended) = call.task.shutdown? := by
  simp [shutdownPhase?, was]

theorem exists_shutdown_of_phase {e : State S × Choice S} {d : Shutdown S}
    (h : shutdownPhase? home e = some d) :
    ∃ i connected contended call, e.2 = .step i connected contended ∧ e.1.calls[i]? = some call ∧
      call.home = home ∧ call.task.shutdown? = some d := by
  obtain ⟨s, c⟩ := e
  cases c with
  | step i connected contended =>
    obtain ⟨call, was, h⟩ := Option.bind_eq_some_iff.1 h
    split at h
    · next at_ => exact ⟨i, connected, contended, call, rfl, was, at_, h⟩
    · cases h
  | _ => cases h

theorem Drained.mono {more : List (State S × Choice S)} (h : Drained home past)
    (sub : past ⊆ more) : Drained home more :=
  h.imp fun _ he => ⟨sub he.1, he.2⟩

theorem Emptied.mono {more : List (State S × Choice S)} (h : Emptied home past)
    (sub : past ⊆ more) : Emptied home more :=
  h.imp fun _ he => ⟨sub he.1, he.2⟩

theorem LeftEarly.mono {more : List (State S × Choice S)} (h : LeftEarly home past)
    (sub : past ⊆ more) : LeftEarly home more :=
  h.imp fun _ he => ⟨sub he.1, he.2⟩

theorem Concluded.mono {more : List (State S × Choice S)} (h : Concluded home past)
    (sub : past ⊆ more) : Concluded home more :=
  ⟨h.drained.mono sub, h.looked.imp (·.mono sub) (·.mono sub)⟩

end Interleaving

open Interleaving (State Choice Drained Concluded)

/-- What a shutdown in this phase has done and seen. -/
def Shutdown.Backed (home : PoolId) (past : List (State S × Choice S))
    (p : Pool S) : Shutdown S → Prop
  | close | awaitFirst | done (.panic _) => True
  | stopWorker | awaitWorker | announce | drain => p.closed = true
  | closeIdle _ _ | count _ | readPauses | look _ _ _ | asleep _ _ _ _ => Drained home past
  | finish | done (.value _) => Concluded home past
  | done (.error e) => e.elim

theorem Shutdown.Backed.mono {home : PoolId}
    {past more : List (State S × Choice S)} {d : Shutdown S} (h : d.Backed home past p)
    (sub : past ⊆ more) (closed : p.closed = true → p'.closed = true) :
    d.Backed home more p' := by
  cases d with
  | close | awaitFirst => trivial
  | stopWorker | awaitWorker | announce | drain => exact closed h
  | closeIdle | count | readPauses | look | asleep => exact Drained.mono h sub
  | finish => exact Concluded.mono h sub
  | done outcome =>
    cases outcome with
    | value _ => exact Concluded.mono h sub
    | error e => exact e.elim
    | panic text => trivial

namespace Interleaving

variable {home : PoolId} {past : List (State S × Choice S)} {s s' : State S} {c : Choice S}

/-- A step of a shutdown adds what it does and sees to what the shutdown has done and seen. -/
theorem Shutdown.backed_of_step {d d' : Shutdown S} (now : v.now = s.now)
    (built : s.pool? home = some p) (phase : shutdownPhase? home (s, c) = some d)
    (did : d.step v p = some (p', d'))
    (marked : p.drained = true → Concluded home past) (h : d.Backed home past p) :
    d'.Backed home ((s, c) :: past) p' := by
  have older : past ⊆ (s, c) :: past := List.subset_cons_self _ _
  cases d with
  | close =>
    cases did
    split
    · trivial
    · rfl
  | awaitFirst =>
    simp only [Shutdown.step] at did
    split at did <;> cases did
    exact (marked ‹_›).mono older
  | awaitWorker =>
    simp only [Shutdown.step] at did
    split at did
    · cases did
      trivial
    · split at did <;> cases did
      exact h
  | stopWorker | announce =>
    cases did
    exact h
  | drain =>
    cases did
    exact ⟨_, List.mem_cons_self, phase⟩
  | closeIdle n todo =>
    cases todo <;> cases did
    exact Drained.mono h older
  | count | readPauses =>
    cases did
    exact Drained.mono h older
  | look since pause limit =>
    cases did
    -- the look that ends the wait is the one that this step takes
    split
    · next none =>
        exact ⟨Drained.mono h older,
          .inl ⟨_, List.mem_cons_self, p, ⟨⟨_, _, _, phase⟩, built⟩, none⟩⟩
    · next some =>
      split
      · next late =>
        obtain ⟨limit, rfl, late⟩ := Option.any_eq_true _ _ |>.1 late
        rw [now] at late
        exact ⟨Drained.mono h older,
          .inr ⟨_, List.mem_cons_self, since, pause, limit, p, phase, built, some,
            of_decide_eq_true late⟩⟩
      · exact Drained.mono h older
  | asleep until? since pause limit =>
    simp only [Shutdown.step] at did
    split at did <;> cases did
    exact Drained.mono h older
  | finish =>
    cases did
    exact Concluded.mono h older
  | done => cases did

theorem Shutdown.backed_of_answer {d d' : Shutdown S} {reply : Reply S}
    (did : d.status.answer reply = some d') (h : d.Backed home past p) : d'.Backed home past p := by
  cases d with
  | closeIdle n todo =>
    cases todo with
    | nil => cases did
    | cons session rest =>
      cases reply with
      | closed outcome =>
        cases did
        cases outcome with
        | value _ => exact h
        | error e => exact e.elim
        | panic text => trivial
      | _ => cases did
  | _ => cases did

/-- Every phase of every shutdown of a pool is backed, and so is the mark of the pool. -/
structure Accounted (past : List (State S × Choice S)) (s : State S) : Prop where
  phases : ∀ (i : Nat) (call : Call S) (d : Shutdown S) (p : Pool S), s.calls[i]? = some call →
    call.task.shutdown? = some d → s.pool? call.home = some p → d.Backed call.home past p
  marks : ∀ home p, s.pool? home = some p → p.drained = true → Concluded home past

/-- A pool that was there before is closed if it was closed. -/
theorem closed_of_act (run : Run past s) (fresh : c.Fresh s) (act : s.act c = some s')
    (built : s.pool? home = some p) (built' : s'.pool? home = some p') (h : p.closed = true) :
    p'.closed = true := by
  obtain ⟨q, hq, change⟩ := change_of_act past run.grounded fresh act built
  cases hq.symm.trans built'
  cases change with
  | quiet alike => exact alike.closed.trans h
  | move moves => exact moves.closed h
  | claim pool | issue pool => exact (congrArg Pool.closed pool).trans h

theorem Accounted.marks_next (act : s.act c = some s') (h : Accounted past s)
    (built' : s'.pool? home = some p') (marked : p'.drained = true) :
    Concluded home ((s, c) :: past) := by
  have older : past ⊆ (s, c) :: past := List.subset_cons_self _ _
  cases old : s.pool? home with
  | none =>
    obtain ⟨builder, made, -, -⟩ := exists_build act old built'
    have unmarked : p'.drained = false := congrArg Prod.fst (endings_of_build made)
    rw [unmarked] at marked
    cases marked
  | some p =>
    obtain ⟨q, hq, alters⟩ := alters_of_act act old
    cases hq.symm.trans built'
    cases alters with
    | rests => exact (h.marks home _ old marked).mono older
    | @adjusts change => exact (h.marks home p old (change.drained ▸ marked)).mono older
    | works was at_ did =>
      rcases Task.drained_of_step did with same | finishing
      · exact (h.marks home p old (same ▸ marked)).mono older
      · subst at_
        exact Concluded.mono (h.phases _ _ _ p was finishing old) older

theorem Run.accounted (run : Run past s) : Accounted past s := by
  induction run with
  | start now => exact ⟨by simp, by simp [State.pool?]⟩
  | @next past s s' c run fresh act ih =>
    have older : past ⊆ (s, c) :: past := List.subset_cons_self _ _
    refine ⟨fun i call' d' p' was' about' built' => ?_, fun home p' => ih.marks_next act⟩
    cases came_of_act act was' with
    | stays was =>
      obtain ⟨p, built⟩ := run.grounded.exists_pool was
      exact (ih.phases i call' d' p was about' built).mono older
        (closed_of_act run fresh act built built')
    | begins new =>
      cases begins_of_act act new was' with
      | shutDown | drop =>
        cases about'
        trivial
      | _ => cases about'
    | @steps connected contended call site q was at_ found did =>
      obtain ⟨d, about, stepped⟩ := Task.shutdown?_of_step did about'
      have built := State.pool?_of_site found
      have after : s'.pool? call.home = some q := by
        cases happens_of_act act with
        | step atWork found' did' =>
        cases was.symm.trans atWork
        cases found.symm.trans found'
        cases did.symm.trans did'
        rw [State.pool?_put found, if_pos rfl]
      cases (at_ ▸ built').symm.trans after
      rw [at_]
      exact Shutdown.backed_of_step rfl built ((shutdownPhase?_of_step was).trans about) stepped
        (ih.marks _ _ built) (ih.phases _ _ _ _ was about built)
    | @hears reply call was at_ did =>
      obtain ⟨d, about, answered⟩ := Task.shutdown?_of_answer did about'
      obtain ⟨p, built⟩ := run.grounded.exists_pool was
      have backed := (ih.phases i call d p was about built).mono older
        (closed_of_act run fresh act built (at_ ▸ built'))
      exact at_ ▸ Shutdown.backed_of_answer answered backed
    | ends was ended last =>
      rw [last] at about'
      cases about'

/-- What a shutdown has done before it goes on from some phase. -/
theorem Run.backed_of_phase {e : State S × Choice S} {d : Shutdown S} (run : Run past e.1)
    (h : shutdownPhase? home e = some d) (built : e.1.pool? home = some p) :
    d.Backed home past p := by
  obtain ⟨i, connected, contended, call, -, was, rfl, about⟩ := exists_shutdown_of_phase h
  exact run.accounted.phases i call d p was about built

end Interleaving

end ConnectionPool
