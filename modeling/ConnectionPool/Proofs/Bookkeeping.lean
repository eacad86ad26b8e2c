import Mathlib.Data.List.Basic
import ConnectionPool.Operation.Heartbeat
import ConnectionPool.Proofs.Capacity
import ConnectionPool.Proofs.Order

set_option autoImplicit false

/-! # Bookkeeping on a walk

A step keeps a walk in order, and what it does comes to its end (`Walk.Sound`); so a whole walk
through a new pool is in order (`Walk.InOrder.run`). From that follows what its caller can see
(`Walk.bookkeeping`): the snapshots agree with the row, a request is turned down exactly if the pool
is full, and once all leases are dropped the pool and the server have counted alike, and each
session is in the pool, closed, or with the caller who took it out (`Walk.Balanced`).

The heartbeat worker of the pool is left out of a walk. While heartbeats are off it does nothing
(`Worker.Dormant`). -/

namespace ConnectionPool

/-! ## The worker -/

namespace Worker

/-- The worker of a pool whose heartbeats are off pauses, looks at the pool, and pauses again. -/
inductive Dormant : Worker Serial → Prop
  | start : Dormant .start
  | pause (length : Duration) : Dormant (.pause length)
  | asleep (until? : Option Instant) : Dormant (.asleep until?)
  | reach : Dormant .reach
  | checkOpen : Dormant .checkOpen
  | readSettings : Dormant .readSettings
  | select (nominal busy : Duration) {interval : Duration} (statement : String)
      (zero : interval.isZero = true) : Dormant (.cycle nominal busy (.select interval statement))
  | disabled (nominal busy : Duration) : Dormant (.cycle nominal busy (.done (.value .disabled)))

/-- Such a worker calls no session. -/
theorem Dormant.status_eq {x : Worker Serial} (dormant : x.Dormant) : x.status = .running := by
  cases dormant <;> rfl

/-- Nor does it do anything to the pool. -/
theorem Dormant.step {x x' : Worker Serial} (dormant : x.Dormant) {v : View Serial}
    {p p' : Pool Serial} (steady : Walk.Steady p) (alive : v.alive = true)
    (taken : x.step v p = some (p', x')) :
    p' = p ∧ x'.Dormant := by
  cases dormant with
  | start =>
    rw [Worker.step, if_pos alive] at taken
    cases taken
    exact ⟨rfl, .pause _⟩
  | pause length =>
    rw [Worker.step, if_neg (by simp [steady.running])] at taken
    cases taken
    exact ⟨rfl, .asleep _⟩
  | asleep until? =>
    rw [Worker.step, if_neg (by simp [steady.running])] at taken
    split at taken
    · cases taken
      exact ⟨rfl, .reach⟩
    · cases taken
  | reach =>
    rw [Worker.step, if_pos alive] at taken
    cases taken
    exact ⟨rfl, .checkOpen⟩
  | checkOpen =>
    rw [Worker.step, if_neg (by simp [steady.isOpen])] at taken
    cases taken
    exact ⟨rfl, .readSettings⟩
  | readSettings =>
    cases taken
    exact ⟨rfl, .select _ _ _ steady.silent⟩
  | select nominal busy statement zero =>
    simp only [Worker.step, Heartbeat.step, zero, if_true, Option.map_some] at taken
    cases taken
    exact ⟨rfl, .disabled _ _⟩
  | disabled nominal busy =>
    cases taken
    exact ⟨rfl, .pause _⟩

end Worker

namespace Walk

variable {g : Log} {w : Walk} {s : Solo} {held rest : List (Lease Serial)} {l : Lease Serial}
  {x : Step}

/-! ## The row -/

/-- The lease that leaves the row and those that stay are the row as it was. -/
theorem perm_swapRemove {i : Nat} (at_ : held[i]? = some l) :
    held.Perm (l :: swapRemove held i) := by
  obtain ⟨hi, rfl⟩ := List.getElem?_eq_some_iff.1 at_
  refine (List.getElem_cons_eraseIdx_perm hi).symm.trans (.cons _ ?_)
  obtain rfl | ⟨init, last, rfl⟩ := held.eq_nil_or_concat'
  · cases hi
  · have replaced : (init ++ [last]).set i last = swapRemove (init ++ [last]) i ++ [last] := by
      simp only [swapRemove, List.getLast?_concat]
      rw [List.set_append]
      split
      · rw [List.dropLast_concat]
      · have at_end : i - init.length = 0 := by
          rw [List.length_append, List.length_singleton] at hi
          omega
        rw [at_end, List.set_cons_zero, List.dropLast_concat]
    have shifted := List.set_perm_cons_eraseIdx hi last
    rw [replaced] at shifted
    exact ((List.perm_append_singleton last _).symm.trans shifted).cons_inv.symm

theorem InOrder.perm (h : InOrder g s held) (same : held.Perm rest) : InOrder g s rest :=
  { h with row := h.row.perm same }

/-! ## Single steps -/

/-- A walk takes a step: it stays in order, and what it does comes to its end without a panic. -/
structure Sound (g : Log) (w : Walk) (x : Step) : Prop where
  order : InOrder (g.after w x) (w.step x).1.solo (w.step x).1.held
  ends : ∀ text, (w.step x).2 ≠ .broken text

/-- A step that is neither a detachment nor a refusal, and opens nothing again, adds nothing to what
was seen. -/
theorem Sound.of_quiet {w' : Walk} {answer : Answer} (taken : w.step x = (w', answer))
    (detaches : answer.detaches = []) (refusal : answer.isRefusal = false)
    (reopens : w.reopens x = []) (ends : ∀ text, answer ≠ .broken text)
    (order : InOrder g w'.solo w'.held) : Sound g w x := by
  have same : g.after w x = g := by simp [Log.after, taken, detaches, refusal, reopens]
  exact ⟨by rw [same, taken]; exact order, by rw [taken]; exact ends⟩

/-- A session that is given back has gone home. -/
theorem InOrder.giveBack (h : InOrder g s (l :: rest))
    (few : s.server.sessions.length < UInt32.size) :
    InOrder g (giveBack s l).1 rest ∧ (giveBack s l).2 = .done ∧
      (giveBack s l).1.server.sessions.length = s.server.sessions.length := by
  obtain ⟨record, found, holds⟩ := h.row.leases l List.mem_cons_self
  obtain ⟨s', ran, given⟩ :=
    Solo.run_giveBack h.steady.isOpen holds found (show 7 ≤ moves by decide)
  rw [Walk.giveBack, ran]
  refine ⟨?_, rfl, ?_⟩
  · cases given with
    | shelved taken => exact h.shelve few taken
    | discarded taken => exact h.discard few taken
  · cases given with
    | shelved taken => rfl
    | discarded taken => exact List.length_map _

/-- All leases of the row are dropped. -/
theorem InOrder.dropAll (h : InOrder g s held) (few : s.server.sessions.length < UInt32.size) :
    InOrder g (held.foldl (fun s l => (Walk.giveBack s l).1) s) [] ∧
      (held.foldl (fun s l => (Walk.giveBack s l).1) s).server.sessions.length =
        s.server.sessions.length := by
  induction held generalizing s with
  | nil => exact ⟨h, rfl⟩
  | cons l rest ih =>
    obtain ⟨after, -, length⟩ := h.giveBack few
    obtain ⟨order, same⟩ := ih after (length ▸ few)
    exact ⟨order, same.trans length⟩

/-- A walk forgets no session of its server. -/
theorem length_sessions_of_step (w : Walk) (step : Step) :
    w.solo.server.sessions.length ≤ (w.step step).1.solo.server.sessions.length := by
  have withLease (n : Nat) (f : Nat → Lease Serial → Walk × Answer)
      (kept : ∀ i l, w.solo.server.sessions.length ≤ (f i l).1.solo.server.sessions.length) :
      w.solo.server.sessions.length ≤ (w.withLease n f).1.solo.server.sessions.length := by
    unfold Walk.withLease
    split
    · exact kept _ _
    · exact Nat.le_refl _
  have touch (l : Lease Serial) (f : ServerSession → ServerSession) :
      w.solo.server.sessions.length ≤ (w.touch l f).solo.server.sessions.length := by
    unfold Walk.touch
    split
    · exact Nat.le_of_eq (List.length_map _).symm
    · exact Nat.le_refl _
  cases step with
  | acquire =>
    have kept := Solo.length_sessions_of_run moves w.solo (Acquire.impatient (S := Serial))
    rw [Walk.step]
    split
    · next ran =>
      rw [ran] at kept
      exact kept
    · next ran =>
      rw [ran] at kept
      exact kept
  | refuse _ => exact Nat.le_refl _
  | cap n => exact Solo.length_sessions_of_run moves w.solo (Resize.write n)
  | release n => exact withLease n _ fun _ l =>
                   Solo.length_sessions_of_run moves w.solo l.giveBack.2
  | drop n => exact withLease n _ fun _ l => Solo.length_sessions_of_run moves w.solo l.giveBack.2
  | detach n => exact withLease n _ fun _ l =>
                  Solo.length_sessions_of_run moves w.solo (Surrender.start l)
  | kill n => exact withLease n _ fun _ l => touch l _
  | reopen n => exact withLease n _ fun _ l => touch l _

section

variable {s' : Solo}

theorem step_acquire_of_loan {loan : Record Serial}
    (ran : w.solo.run moves Acquire.impatient = (s', some (.value (some loan)))) :
    w.step .acquire = ({ solo := s', held := w.held ++ [.issue 0 loan] },
      .acquired loan.info.key) := by
  rw [Walk.step, ran]

theorem step_acquire_of_none
    (ran : w.solo.run moves (Acquire.impatient (S := Serial)) = (s', some (.value none))) :
    w.step .acquire = ({ w with solo := s' }, .full) := by
  rw [Walk.step, ran]
  rfl

theorem step_acquire_of_error {e : Error}
    (ran : w.solo.run moves (Acquire.impatient (S := Serial)) = (s', some (.error e))) :
    w.step .acquire = ({ w with solo := s' }, .failed e) := by
  rw [Walk.step, ran]
  rfl

end

/-- What becomes of a request on a walk. -/
theorem InOrder.acquired (h : InOrder g w.solo w.held)
    (few : w.solo.server.sessions.length < UInt32.size) :
    ∃ s' outcome, w.solo.run moves (Acquire.impatient (S := Serial)) = (s', some outcome) ∧
      Solo.Acquired w.solo s' outcome :=
  Solo.run_impatient h.steady.isOpen h.steady.sourced
    (fun _ hx => h.numbered.fresh few hx) (by decide)

/-- An acquirer gets a session, or learns that there is none for it. -/
theorem InOrder.acquire (h : InOrder g w.solo w.held)
    (few : (w.step .acquire).1.solo.server.sessions.length < UInt32.size) : Sound g w .acquire := by
  have before := Nat.lt_of_le_of_lt (length_sessions_of_step w .acquire) few
  obtain ⟨s', outcome, ran, acquired⟩ := h.acquired before
  cases acquired with
  | reused lends => exact .of_quiet (step_acquire_of_loan ran) rfl rfl rfl nofun (h.reuse lends)
  | full _ =>
    exact .of_quiet (step_acquire_of_none ran) rfl rfl rfl nofun
      (h.aside h.steady rfl rfl rfl rfl rfl rfl rfl { h.counts with })
  | refused _ refuses =>
    have taken := step_acquire_of_error ran
    have logged : g.after w .acquire = { g with refused := g.refused + 1 } := by
      rw [Log.after, taken]
      rfl
    refine ⟨?_, by rw [taken]; nofun⟩
    rw [logged, taken, Server.create_of_refusals refuses]
    exact h.aside { h.steady with } rfl rfl rfl rfl rfl rfl rfl { h.counts with
      attempts := by
        rw [← Nat.add_assoc, UInt32.ofNat_add, ← h.counts.attempts]
        rfl }
  | made _ accepts =>
    have taken := step_acquire_of_loan ran
    rw [taken, Server.sessions_opened h.numbered before accepts, List.length_append] at few
    exact .of_quiet taken rfl rfl rfl nofun (h.make few accepts)

/-- The cap is changed, or the new one is turned down. -/
theorem InOrder.cap (h : InOrder g w.solo w.held) (n : UInt32) : Sound g w (.cap n) := by
  obtain ⟨now, ran⟩ := Solo.run_resize (s := w.solo) n (show 2 ≤ moves by decide)
  by_cases none : n = 0
  · rw [if_pos none] at ran
    have taken : w.step (.cap n) = ({ w with solo := { w.solo with now } },
        .failed (.invalidSettings Settings.Flaw.noCapacity.message)) := by
      rw [Walk.step, ran]
      rfl
    exact .of_quiet taken rfl rfl rfl nofun
      (h.aside h.steady rfl rfl rfl rfl rfl rfl rfl { h.counts with })
  · rw [if_neg none] at ran
    have taken : w.step (.cap n) = ({ w with solo := { w.solo with
        pool := { w.solo.pool with
          settings := { w.solo.pool.settings with maxConnections := n }
          epoch := w.solo.pool.epoch + 1 }
        now } }, .done) := by
      rw [Walk.step, ran]
      rfl
    exact .of_quiet taken rfl rfl rfl nofun
      (h.aside { h.steady with } rfl rfl rfl rfl rfl rfl rfl { h.counts with })

section

variable {n : Nat} {f : Nat → Lease Serial → Walk × Answer}

theorem withLease_of_none (nobody : w.held[n % w.held.length]? = none) :
    w.withLease n f = (w, .nobody) := by
  rw [withLease, nobody]

theorem withLease_of_some (at_ : w.held[n % w.held.length]? = some l) :
    w.withLease n f = f (n % w.held.length) l := by
  rw [withLease, at_]

end

/-- Nothing happens if nobody is held. -/
theorem InOrder.nobody (h : InOrder g w.solo w.held) (taken : w.step x = (w, .nobody))
    (reopens : w.reopens x = []) : Sound g w x :=
  .of_quiet taken rfl rfl reopens nofun h

/-- A lease of the row is given back. -/
theorem InOrder.release (h : InOrder g w.solo w.held)
    (few : w.solo.server.sessions.length < UInt32.size) (n : Nat) : Sound g w (.release n) := by
  cases at_ : w.held[n % w.held.length]? with
  | none => exact h.nobody (by rw [Walk.step, withLease_of_none at_]) rfl
  | some l =>
    obtain ⟨after, done, -⟩ := (h.perm (perm_swapRemove at_)).giveBack few
    have taken : w.step (.release n) =
        ({ solo := (Walk.giveBack w.solo l).1, held := swapRemove w.held (n % w.held.length) },
          .done) := by
      rw [Walk.step, withLease_of_some at_, ← done]
    exact .of_quiet taken rfl rfl rfl nofun after

/-- A lease of the row is dropped. -/
theorem InOrder.drop (h : InOrder g w.solo w.held)
    (few : w.solo.server.sessions.length < UInt32.size) (n : Nat) : Sound g w (.drop n) := by
  cases at_ : w.held[n % w.held.length]? with
  | none => exact h.nobody (by rw [Walk.step, withLease_of_none at_]) rfl
  | some l =>
    obtain ⟨after, -⟩ := (h.perm (perm_swapRemove at_)).giveBack few
    have taken : w.step (.drop n) =
        ({ solo := (Walk.giveBack w.solo l).1, held := swapRemove w.held (n % w.held.length) },
          .done) := by
      rw [Walk.step, withLease_of_some at_]
    exact .of_quiet taken rfl rfl rfl nofun after

/-- The session of a lease of the row is taken out. -/
theorem InOrder.detach (h : InOrder g w.solo w.held) (n : Nat) : Sound g w (.detach n) := by
  cases at_ : w.held[n % w.held.length]? with
  | none => exact h.nobody (by rw [Walk.step, withLease_of_none at_]) rfl
  | some l =>
    have order := h.perm (perm_swapRemove at_)
    obtain ⟨record, found, holds⟩ := order.row.leases l List.mem_cons_self
    obtain ⟨p', now, gone, ran⟩ :=
      Solo.run_surrender (s := w.solo) holds found (show 4 ≤ moves by decide)
    have taken : w.step (.detach n) =
        ({ solo := { w.solo with pool := p'.notify, now }
           held := swapRemove w.held (n % w.held.length) }, .detached record.session) := by
      rw [Walk.step, withLease_of_some at_, ran]
      rfl
    have logged : g.after w (.detach n) = { g with detached := record.session :: g.detached } := by
      rw [Log.after, taken]
      rfl
    refine ⟨?_, by rw [taken]; nofun⟩
    rw [logged, taken]
    exact order.letGo found gone

/-- The session of a lease of the row is killed. -/
theorem InOrder.kill (h : InOrder g w.solo w.held)
    (few : w.solo.server.sessions.length < UInt32.size) (n : Nat) : Sound g w (.kill n) := by
  cases at_ : w.held[n % w.held.length]? with
  | none => exact h.nobody (by rw [Walk.step, withLease_of_none at_]) rfl
  | some l =>
    obtain ⟨record, found, holds⟩ := h.row.leases l (List.mem_of_getElem? at_)
    have taken : w.step (.kill n) =
        ({ w with solo := { w.solo with server := w.solo.server.modify record.session .kill } },
          .done) := by
      rw [Walk.step, withLease_of_some at_, Walk.touch, holds]
    exact .of_quiet taken rfl rfl rfl nofun
      (h.touch few found .kill [] (fun _ => rfl) (fun _ => rfl) nofun fun _ _ =>
        (UInt32.add_zero _).symm)

/-- The session of a lease of the row is opened again. -/
theorem InOrder.reopen (h : InOrder g w.solo w.held)
    (few : w.solo.server.sessions.length < UInt32.size) (n : Nat) : Sound g w (.reopen n) := by
  cases at_ : w.held[n % w.held.length]? with
  | none => exact h.nobody (by rw [Walk.step, withLease_of_none at_]) (by rw [reopens, at_]; rfl)
  | some l =>
    obtain ⟨record, found, holds⟩ := h.row.leases l (List.mem_of_getElem? at_)
    have taken : w.step (.reopen n) =
        ({ w with solo := { w.solo with server := w.solo.server.modify record.session .connect } },
          .reopened) := by
      rw [Walk.step, withLease_of_some at_, Walk.touch, holds]
    have logged : g.after w (.reopen n) =
        { g with reopened := [record.session] ++ g.reopened } := by
      rw [Log.after, taken, reopens, at_]
      simp [holds, Answer.detaches, Answer.isRefusal]
    refine ⟨?_, by rw [taken]; nofun⟩
    rw [logged, taken]
    exact h.touch few found .connect [record.session] (fun _ => rfl) (fun _ => rfl)
      (fun _ mem => List.mem_singleton.1 mem) (by simp [ServerSession.connect])

/-- A walk in order takes one more step. -/
theorem InOrder.step (h : InOrder g w.solo w.held)
    (few : (w.step x).1.solo.server.sessions.length < UInt32.size) : Sound g w x := by
  have before := Nat.lt_of_le_of_lt (length_sessions_of_step w x) few
  cases x with
  | acquire => exact h.acquire few
  | refuse n =>
    exact .of_quiet rfl rfl rfl rfl nofun
      (h.aside h.steady rfl rfl rfl rfl rfl rfl rfl { h.counts with })
  | cap n => exact h.cap n
  | release n => exact h.release before n
  | drop n => exact h.drop before n
  | detach n => exact h.detach n
  | kill n => exact h.kill before n
  | reopen n => exact h.reopen before n

/-! ## Whole walks -/

theorem length_sessions_of_walk (w : Walk) (steps : List Step) :
    w.solo.server.sessions.length ≤ (w.run steps).2.solo.server.sessions.length := by
  induction steps generalizing w with
  | nil => exact Nat.le_refl _
  | cons step rest ih => exact Nat.le_trans (length_sessions_of_step w step) (ih (w.step step).1)

/-- A walk in order stays in order, and no step of it panics or goes on for ever. -/
theorem InOrder.run (h : InOrder g w.solo w.held) {steps : List Step}
    (few : (w.run steps).2.solo.server.sessions.length < UInt32.size) :
    InOrder (w.log g steps) (w.run steps).2.solo (w.run steps).2.held ∧
      ∀ sight ∈ (w.run steps).1, ∀ text, sight.answer ≠ .broken text := by
  induction steps generalizing g w with
  | nil => exact ⟨h, nofun⟩
  | cons x rest ih =>
    have sound := h.step (Nat.lt_of_le_of_lt (length_sessions_of_walk (w.step x).1 rest) few)
    obtain ⟨order, ends⟩ := ih sound.order few
    exact ⟨order, List.forall_mem_cons.2 ⟨sound.ends, ends⟩⟩

/-- A walk starts in order. -/
theorem exists_start {settings : Settings} (valid : settings.Valid)
    (off : settings.heartbeatInterval.isZero = true) :
    ∃ w, start settings = .ok w ∧ InOrder {} w.solo w.held := by
  refine ⟨_, by rw [start, (Settings.flaw?_eq_none_iff settings).2 valid], ?_⟩
  exact {
    steady := ⟨rfl, rfl, off, rfl⟩
    counts := ⟨rfl, rfl, rfl, rfl, rfl, rfl⟩
    numbered := ⟨rfl, rfl⟩
    counter := rfl
    filed := ⟨nofun, nofun⟩
    rested := nofun
    row := ⟨.nil, nofun⟩
    kept := nofun
    known := nofun }

/-! ## What is seen of a walk in order -/

/-- The snapshot of the pool. -/
def stat (w : Walk) : Snapshot := w.solo.pool.snapshot w.solo.pool.settings.maxConnections

section

variable (h : InOrder g w.solo w.held) (few : w.solo.server.sessions.length < UInt32.size)
include h few

/-- A snapshot shows all sessions of the pool. -/
theorem InOrder.stat :
    w.stat.total.toNat = w.solo.pool.total ∧ w.stat.active.toNat = w.held.length ∧
      w.stat.idle.toNat = w.solo.pool.idle.size := by
  have total := h.counts.total
  have split : w.solo.pool.total = w.solo.pool.active.size + w.solo.pool.idle.size := rfl
  simp only [Walk.stat, Pool.snapshot]
  rw [Interleaving.toNat_saturate (by omega), Interleaving.toNat_saturate (by omega),
    Interleaving.toNat_saturate (by omega)]
  exact ⟨rfl, h.row.length_eq, rfl⟩

/-- An idle session is connected. -/
theorem InOrder.connected {key : SessionKey} {record : Record Serial}
    (found : w.solo.pool.idle.find? key = some record) :
    w.solo.server.connected record.session = true := by
  obtain ⟨x, hx, same, rfl⟩ := exists_session (h.filed.idle key record found).known
  rw [← same, h.numbered.connected_eq few hx]
  exact (h.kept x hx).shelved (Roster.mem_keys_iff.2 (by rw [found]; rfl))

/-- The pool is full if no session is idle and the held ones reach the cap. -/
theorem InOrder.full_iff : w.solo.pool.Full w.solo.pool.settings.maxConnections ↔
    w.stat.idle = 0 ∧ w.solo.pool.settings.maxConnections.toNat ≤ w.held.length := by
  obtain ⟨-, -, idle⟩ := h.stat few
  have none : w.stat.idle = 0 ↔ w.solo.pool.idle.size = 0 := by
    rw [← idle, ← UInt32.toNat_inj]
    rfl
  have load : w.solo.pool.total + w.solo.pool.reserved.toNat =
      w.held.length + w.solo.pool.idle.size := by
    rw [h.counts.reserved, Pool.total, h.row.length_eq]
    rfl
  rw [none]
  constructor
  · intro full
    have empty : w.solo.pool.idle.size = 0 := by
      -- a session on the shelf would be available, as none is under probe
      refine Nat.eq_zero_of_not_pos fun some => ?_
      obtain ⟨⟨key, record⟩, mem⟩ := List.exists_mem_of_length_pos some
      have found := Roster.mem_entries_iff.1 mem
      have unavailable := full.unavailable key record found
      rw [h.rested key record found] at unavailable
      cases unavailable
    have reached := full.reached
    exact ⟨empty, by omega⟩
  · rintro ⟨empty, reached⟩
    refine ⟨fun key record found => ?_, by omega⟩
    rw [Roster.eq_empty_of_size empty] at found
    cases found

/-- A request is turned down exactly if the pool is full. -/
theorem InOrder.acquire_full_iff : (w.step .acquire).2 = .full ↔
    w.solo.pool.Full w.solo.pool.settings.maxConnections := by
  obtain ⟨s', outcome, ran, acquired⟩ := h.acquired few
  cases acquired with
  | reused lends =>
    have room : ¬ w.solo.pool.Full w.solo.pool.settings.maxConnections := fun full => by
      rw [Pool.lend_eq_full_iff.2 full] at lends
      cases lends
    rw [step_acquire_of_loan ran]
    exact iff_of_false nofun room
  | full full =>
    rw [step_acquire_of_none ran]
    exact iff_of_true rfl full
  | refused room _ =>
    rw [step_acquire_of_error ran]
    exact iff_of_false nofun room
  | made room _ =>
    rw [step_acquire_of_loan ran]
    exact iff_of_false nofun room

end

/-- A session is on the shelf if its key is. -/
theorem InOrder.mem_shelf_iff (h : InOrder g s held) {x : ServerSession} :
    x.serial ∈ s.pool.idle.values.map (·.session) ↔ Serial.key x.serial ∈ s.pool.idle.keys := by
  constructor
  · intro mem
    obtain ⟨record, listed, same⟩ := List.mem_map.1 mem
    obtain ⟨⟨key, record⟩, entry, rfl⟩ := List.mem_map.1 listed
    obtain ⟨y, -, own, rfl⟩ :=
      exists_session (h.filed.idle key record (Roster.mem_entries_iff.1 entry)).known
    rw [← same, ← own]
    exact List.mem_map_of_mem (f := (·.1)) entry
  · intro mem
    obtain ⟨record, found⟩ := Option.isSome_iff_exists.1 (Roster.mem_keys_iff.1 mem)
    obtain ⟨y, -, own, same⟩ := exists_session (h.filed.idle _ record found).known
    rw [← Serial.key_inj same, own]
    exact List.mem_map_of_mem (List.mem_map_of_mem (f := (·.2)) (Roster.mem_entries_iff.2 found))

/-! ## The books -/

/-- Where a session may be once all leases are dropped. -/
inductive Destination where
  | shelved
  | discarded
  | detached

/-- The pool has a shelved session, a discarded one was closed, and a caller took a detached one
out. -/
def Destination.Of (g : Log) (w : Walk) (x : ServerSession) : Destination → Prop
  | shelved => x.serial ∈ w.solo.pool.idle.values.map (·.session)
  | discarded => x.closes ≠ 0
  | detached => x.serial ∈ g.detached

/-- What is true of a session once all leases are dropped. -/
structure Traced (g : Log) (w : Walk) (x : ServerSession) : Prop where
  destination : ∃! place : Destination, place.Of g w x
  shelved : Destination.shelved.Of g w x → x.connected = true ∧ x.closes = 0
  discarded : Destination.discarded.Of g w x → x.connected = false ∧ x.closes = 1
  detached : Destination.detached.Of g w x → x.closes = 0
  opens : x.opens = .ofNat (1 + g.reopened.count x.serial)

/-- The pool and its server have counted alike. -/
structure Balanced (g : Log) (w : Walk) : Prop where
  active : w.stat.active = 0
  traced : ∀ x ∈ w.solo.server.sessions, Traced g w x
  attempts : w.solo.server.attempts = w.solo.server.created + .ofNat g.refused
  made : w.solo.server.created.toNat = w.solo.server.sessions.length
  created : w.solo.pool.tally.created.toNat = w.solo.server.created.toNat
  left : w.solo.server.created.toNat =
    w.stat.idle.toNat + w.solo.pool.tally.closed.toNat + g.detached.length
  evictions : w.solo.pool.tally.closed = w.solo.pool.tally.evictions
  closed : w.solo.pool.tally.closed.toNat = discarded w.solo.server

/-- With no lease in the row a session is in one of three places. -/
theorem InOrder.traced (h : InOrder g w.solo []) {x : ServerSession}
    (hx : x ∈ w.solo.server.sessions) : Traced g w x := by
  have old := h.kept x hx
  have place := old.place
  have unlent : w.solo.pool.active.keys.count (Serial.key x.serial) = 0 := by
    rw [← h.row.keys.count_eq]
    rfl
  rw [Pool.places, unlent, Nat.zero_add] at place
  have shelved : Destination.shelved.Of g w x ↔
      0 < w.solo.pool.idle.keys.count (Serial.key x.serial) :=
    h.mem_shelf_iff.trans List.count_pos_iff.symm
  have discarded : Destination.discarded.Of g w x ↔ 0 < x.closes.toNat := by
    rw [Nat.pos_iff_ne_zero, ← UInt32.toNat_zero, Ne, UInt32.toNat_inj]
    rfl
  have detached : Destination.detached.Of g w x ↔ 0 < g.detached.count x.serial :=
    List.count_pos_iff.symm
  have closed_of {n : UInt32} (closes : x.closes.toNat = n.toNat) : x.closes = n :=
    UInt32.toNat_inj.1 closes
  refine ⟨?_, fun here => ⟨old.shelved (h.mem_shelf_iff.1 here), ?_⟩,
    fun here => ⟨old.dead here, ?_⟩, fun here => ?_, old.opens⟩
  · -- one of the three counts is one, and the others are zero
    have one : 0 < w.solo.pool.idle.keys.count (Serial.key x.serial) ∨ 0 < x.closes.toNat ∨
        0 < g.detached.count x.serial := by omega
    rcases one with here | here | here
    · refine ⟨.shelved, shelved.2 here, fun other of => ?_⟩
      cases other with
      | shelved => rfl
      | discarded => have := discarded.1 of; omega
      | detached => have := detached.1 of; omega
    · refine ⟨.discarded, discarded.2 here, fun other of => ?_⟩
      cases other with
      | shelved => have := shelved.1 of; omega
      | discarded => rfl
      | detached => have := detached.1 of; omega
    · refine ⟨.detached, detached.2 here, fun other of => ?_⟩
      cases other with
      | shelved => have := shelved.1 of; omega
      | discarded => have := discarded.1 of; omega
      | detached => rfl
  · have := shelved.1 here
    exact closed_of (show x.closes.toNat = 0 by omega)
  · have := discarded.1 here
    exact closed_of (show x.closes.toNat = 1 by omega)
  · have := detached.1 here
    exact closed_of (show x.closes.toNat = 0 by omega)

/-- With no lease in the row the books balance. -/
theorem InOrder.balanced (h : InOrder g w.solo [])
    (few : w.solo.server.sessions.length < UInt32.size) (none : w.held = []) : Balanced g w := by
  have order : InOrder g w.solo w.held := by rw [none]; exact h
  obtain ⟨-, active, idle⟩ := order.stat few
  have total := h.counts.total
  have bound : discarded w.solo.server ≤ w.solo.server.sessions.length := List.countP_le_length
  have word : UInt32.size ≤ UInt64.size := by decide
  have made : w.solo.server.created.toNat = w.solo.server.sessions.length := by
    rw [h.numbered.created]
    exact UInt32.toNat_ofNat_of_lt' few
  have closed : w.solo.pool.tally.closed.toNat = discarded w.solo.server := by
    rw [h.counts.closed]
    exact UInt64.toNat_ofNat_of_lt' (by omega)
  exact {
    active := UInt32.toNat_inj.1 (by rw [active, none]; rfl)
    traced := fun x hx => h.traced hx
    attempts := by rw [h.counts.attempts, h.numbered.created, UInt32.ofNat_add]
    made := made
    created := by
      rw [made, h.counts.created]
      exact UInt64.toNat_ofNat_of_lt' (by omega)
    left := by
      rw [made, idle, closed, ← total, Pool.total, h.row.length_eq, List.length_nil]
      omega
    evictions := h.counts.closed.trans h.counts.evictions.symm
    closed := closed }

/-! ## Bookkeeping -/

/-- What is true of a walk at any time. -/
structure Bookkept (g : Log) (w : Walk) : Prop where
  active : w.stat.active.toNat = w.held.length
  total : w.stat.total.toNat = w.stat.active.toNat + w.stat.idle.toNat
  keys : (w.held.map (·.info.key)).Nodup
  connected : ∀ record ∈ w.solo.pool.idle.values, w.solo.server.connected record.session = true
  full : (w.step .acquire).2 = .full ↔ w.stat.idle = 0 ∧ w.stat.max.toNat ≤ w.held.length
  /-- The worker does not interfere. -/
  worker : ∀ (v : View Serial) (x : Worker Serial), v.alive = true → x.Dormant →
    x.status = .running ∧
      ∀ p' x', x.step v w.solo.pool = some (p', x') → p' = w.solo.pool ∧ x'.Dormant
  /-- All leases may be dropped now. -/
  dropped : Balanced g w.dropAll

/-- A walk in order keeps the books. -/
theorem InOrder.bookkept (h : InOrder g w.solo w.held)
    (few : w.solo.server.sessions.length < UInt32.size) : Bookkept g w := by
  obtain ⟨total, active, idle⟩ := h.stat few
  obtain ⟨dropped, same⟩ := h.dropAll few
  exact {
    active := active
    total := by rw [total, active, idle, ← h.row.length_eq]; rfl
    keys := h.row.nodup
    connected := fun record listed => by
      obtain ⟨⟨key, record⟩, entry, rfl⟩ := List.mem_map.1 listed
      exact h.connected few (Roster.mem_entries_iff.1 entry)
    full := (h.acquire_full_iff few).trans (h.full_iff few)
    worker := fun v x alive dormant =>
      ⟨dormant.status_eq, fun p' x' => dormant.step h.steady alive⟩
    dropped := dropped.balanced (same ▸ few) rfl }

/-- A walk through a new pool without heartbeats keeps the books, whatever its steps are, as long as
the server's 32-bit count of its sessions does not overflow: the pool's own count has 64 bits, and
the two differ from there on (`created_of_overflow`). -/
theorem bookkeeping {settings : Settings} (valid : settings.Valid)
    (off : settings.heartbeatInterval.isZero = true) (steps : List Step) :
    ∃ w, start settings = .ok w ∧ ((w.run steps).2.solo.server.sessions.length < UInt32.size →
        (∀ sight ∈ (w.run steps).1, ∀ text, sight.answer ≠ .broken text) ∧
          Bookkept (w.log {} steps) (w.run steps).2) := by
  obtain ⟨w, started, order⟩ := exists_start valid off
  refine ⟨w, started, fun few => ?_⟩
  obtain ⟨after, ends⟩ := order.run few
  exact ⟨ends, after.bookkept few⟩

/-- A walk with two sessions, of which one is killed, opened again and taken out, and the other one
is killed and given back. -/
def keeping : List Step :=
  [.acquire, .acquire, .kill 0, .reopen 0, .detach 0, .refuse 1, .acquire, .cap 1, .acquire,
    .kill 0, .release 0]

theorem bookkeeping_of_keeping :
    ∃ w, start {} = .ok w ∧ Bookkept (w.log {} keeping) (w.run keeping).2 ∧
      (w.log {} keeping).detached = [1] ∧ (w.log {} keeping).reopened = [1] ∧
      (w.log {} keeping).refused = 1 ∧
      discarded (w.run keeping).2.solo.server = 1 := by
  obtain ⟨w, started, books⟩ := bookkeeping Settings.valid_default rfl keeping
  have seen : (start {}).toOption.map (fun w => ((w.run keeping).2.solo.server.sessions.length,
      (w.log {} keeping).detached, (w.log {} keeping).reopened, (w.log {} keeping).refused,
      discarded (w.run keeping).2.solo.server)) = some (2, [1], [1], 1, 1) := by
    decide +kernel
  rw [started] at seen
  obtain ⟨length, rest⟩ := Prod.mk.inj (Option.some.inj seen)
  exact ⟨w, started, (books (by rw [length]; decide)).2, by simpa using rest⟩

/-- When the server makes its last session its count starts again from zero, while that of the pool
goes on. -/
theorem InOrder.created_of_overflow (h : InOrder g w.solo w.held)
    (last : w.solo.server.sessions.length + 1 = UInt32.size)
    (made : w.solo.server.sessions.length < (w.step .acquire).1.solo.server.sessions.length) :
    (w.step .acquire).1.solo.server.created = 0 ∧
      (w.step .acquire).1.solo.pool.tally.created = .ofNat UInt32.size := by
  have few : w.solo.server.sessions.length < UInt32.size := by omega
  obtain ⟨s', outcome, ran, acquired⟩ := h.acquired few
  cases acquired with
  | reused lends =>
    rw [step_acquire_of_loan ran] at made
    exact absurd made (Nat.lt_irrefl _)
  | full _ =>
    rw [step_acquire_of_none ran] at made
    exact absurd made (Nat.lt_irrefl _)
  | refused _ refuses =>
    rw [step_acquire_of_error ran, Server.create_of_refusals refuses] at made
    exact absurd made (Nat.lt_irrefl _)
  | made _ accepts =>
    rw [step_acquire_of_loan ran]
    refine ⟨?_, ?_⟩
    · rw [(h.numbered.opened few accepts).created, Server.sessions_opened h.numbered few accepts,
        List.length_append, List.length_singleton, last]
      rfl
    · rw [← last, UInt64.ofNat_add, ← h.counts.created]
      rfl

end Walk

end ConnectionPool
