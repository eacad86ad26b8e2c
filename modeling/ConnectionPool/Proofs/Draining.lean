import ConnectionPool.Proofs.Places
import ConnectionPool.Proofs.Shrinking

set_option autoImplicit false

/-! # What a shutdown leaves to others

A shutdown closes the idle sessions itself, and then waits until no session is lent and no slot is
reserved. It does not see the other calls that have taken a session out of the pool and are still to
close it, so it may return before sessions are closed that were in the pool
(`exists_unclosed_after_shutdown`). Those that are in the hands of such calls are the only ones
(`dispersed_of_shutdown`).

Nor does it see an acquirer that has found the pool open and has not reserved its slot yet. Such an
acquirer may make a session when the shutdown has long returned (`exists_creation_after_shutdown`),
and nobody else may (`saw_open_of_holdsSlot`). -/

namespace ConnectionPool

/-- A shutdown has sessions to close only while it drains the pool. -/
theorem Shutdown.role_of_spoils {S : Type} {d : Shutdown S} {session : S} (h : session ∈ d.spoils) :
    d.role = .draining := by
  cases d with
  | closeIdle => rfl
  | _ => cases h

namespace Interleaving

variable {S : Type} {v : View S} {reply : Option (Reply S)} {p p' : Pool S} {x y : Role S}

/-! ## One shutdown at a time

Only the shutdown that closes the pool drains it. -/

/-- Whether a shutdown has closed the pool and has not come to its end. -/
def Role.shuts : Role S → Bool
  | closing | draining => true
  | _ => false

theorem Moves.shuts (m : Moves v reply p x p' y) (h : y.shuts = true) :
    x.shuts = true ∨ p.closed = false ∧ p'.closed = true := by
  cases m with
  | pass alike => exact .inl h
  | close isOpen => exact .inr ⟨isOpen, rfl⟩
  | proclaim | drain => exact .inl rfl
  | _ => cases h

namespace Ledger

/-- How many shutdowns have closed the pool and have not come to their ends. -/
def shutting (d : Ledger S) : Nat := d.roles.countP Role.shuts

theorem Change.shutting {d d' : Ledger S} (h : d.Change d') : d'.shutting ≤ d.shutting ∨
    d.pool.closed = false ∧ d'.pool.closed = true ∧ d'.shutting ≤ d.shutting + 1 := by
  cases h with
  | quiet alike roles => exact .inl (Nat.le_of_eq (roles.countP_eq _))
  | claim pool held roles => exact .inl (by simp [Ledger.shutting, roles.countP_eq, Role.shuts])
  | issue pool roles => exact .inl (by simp [Ledger.shutting, roles.countP_eq, Role.shuts])
  | @move v reply x y rest moves before after =>
    have own (r : Role S) : r.toList.countP Role.shuts = if r.shuts then 1 else 0 := by
      cases r <;> rfl
    simp only [Ledger.shutting, before.countP_eq, after.countP_eq, List.countP_append, own]
    cases hy : y.shuts with
    | false =>
      left
      simp
    | true =>
      rcases moves.shuts hy with hx | ⟨isOpen, closed⟩
      · exact .inl (by simp [hx])
      · exact .inr ⟨isOpen, closed, by simp; omega⟩

/-- One shutdown at most drains the pool, and none does while the pool is open. -/
structure Single (d : Ledger S) : Prop where
  one : d.shutting ≤ 1
  none : d.pool.closed = false → d.shutting = 0

theorem Single.new {d : Ledger S} (h : d.New) : d.Single where
  one := by simp [shutting, h.roles]
  none := by simp [shutting, h.roles]

theorem Single.next {d d' : Ledger S} (step : d.Next d') (h : d.Single) : d'.Single := by
  rcases step.change.shutting with fewer | ⟨isOpen, closed, more⟩
  · refine ⟨Nat.le_trans fewer h.one, fun isOpen => ?_⟩
    have was : d.pool.closed = false := by
      cases hd : d.pool.closed with
      | false => rfl
      | true => rw [step.change.shrinks.closed hd] at isOpen; cases isOpen
    have := h.none was
    omega
  · have := h.none isOpen
    exact ⟨by omega, fun still => by rw [closed] at still; cases still⟩

end Ledger

variable {home : PoolId} {past since : List (State S × Choice S)} {s₀ s : State S}
  {e : SessionKey × S}

theorem Run.single (run : Run past s) (built : s.pool? home = some p) :
    (s.roles home).countP Role.shuts ≤ 1 :=
  Ledger.Single.one (run.ledger_induction (fun _ => Ledger.Single.new)
    (fun _ _ => Ledger.Single.next) built)

/-- No shutdown begins to drain a pool that is closed. -/
theorem Leads.shutting_le (run₀ : Run past s₀) (leads : Leads s₀ since s)
    (built₀ : s₀.pool? home = some p) (closed : p.closed = true) :
    (s.roles home).countP Role.shuts ≤ (s₀.roles home).countP Role.shuts := by
  induction leads with
  | here => exact Nat.le_refl _
  | next leads fresh act ih =>
    obtain ⟨q, built⟩ := leads.exists_pool? built₀
    obtain ⟨q', -, change⟩ := change_of_act past (run₀.append leads).grounded fresh act built
    have still : q.closed = true := (leads.shrinks run₀ built₀ built).closed closed
    rcases change.shutting with fewer | ⟨isOpen, -⟩
    · exact Nat.le_trans fewer ih
    · exact absurd still (Bool.eq_false_iff.1 isOpen)

/-- A shutdown has sessions in its hands only while it drains the pool. -/
theorem Task.role_of_settled {t : Task S} {d : Shutdown S} {session : S}
    (about : t.shutdown? = some d) (h : session ∈ t.settled) : t.role = .draining := by
  cases t with
  | shutDown u | drop u =>
    have spoils : session ∈ u.spoils := by simpa [settled, spoils, freed] using h
    exact Shutdown.role_of_spoils spoils
  | _ => cases about

/-- A shutdown that sees nothing outstanding has drained the pool, and comes to its end. -/
theorem Task.role_of_look {t t' : Task S} {since : Instant} {pause : Duration}
    {limit : Option Duration} (about : t.shutdown? = some (.look since pause limit))
    (none : p.outstanding = 0)
    (h : t.step v p = some (p', t')) : t.role = .draining ∧ t'.role = .none := by
  cases t with
  | shutDown d | drop d =>
    obtain ⟨u, did, rfl⟩ := exists_of_map_step h
    cases about
    cases did
    exact ⟨rfl, by simp [none, Task.role, Shutdown.role]⟩
  | _ => cases about

/-- Once a shutdown has seen that nothing is outstanding, no shutdown drains the pool any more. -/
theorem Emptied.not_shutting (h : Emptied home past) (run : Run past s) :
    (s.roles home).countP Role.shuts = 0 := by
  obtain ⟨⟨s₁, c⟩, he, p₁, ⟨⟨since, pause, limit, phase⟩, built₁⟩, none⟩ := h
  obtain ⟨before, later, s₂, rfl, run₁, fresh, act, leads⟩ := run.exists_leads he
  have drained : Drained home before := run₁.backed_of_phase phase built₁
  have closed := (drained.swept run₁ built₁).closed
  obtain ⟨i, connected, contended, call, rfl, was, rfl, about⟩ := exists_shutdown_of_phase phase
  -- the shutdown that looks is the one that drains the pool, and it comes to its end
  have idle : (s₂.roles call.home).countP Role.shuts = 0 := by
    cases happens_of_act act with
    | @step _ _ _ _ site q t' atWork found did =>
    cases was.symm.trans atWork
    cases built₁.symm.trans (State.pool?_of_site found)
    obtain ⟨rest, old, new⟩ := State.exists_roles_set was call.home
    have one := run₁.single built₁
    obtain ⟨role, role'⟩ := Task.role_of_look about none did
    rw [old.countP_eq, Call.roleAt, if_pos rfl, role, List.countP_append] at one
    rw [State.roles, State.put, (new t').countP_eq, Call.roleAt, if_pos rfl, role',
      List.countP_append]
    simp only [Role.toList, List.countP_singleton, Role.shuts, if_true, List.countP_nil] at one ⊢
    omega
  obtain ⟨p₂, built₂, -⟩ := alters_of_act act built₁
  have least := leads.shutting_le (.next run₁ fresh act) built₂
    (closed_of_act run₁ fresh act built₁ built₂ closed)
  omega

/-! ## Sessions -/

/-- Where a session of a pool may be that nobody has been lent, and that is not idle. -/
inductive Dispersed (home : PoolId) (past : List (State S × Choice S)) (s : State S)
    (session : S) : Prop
  | closed (closing : (home, session) ∈ closings past s)
  | detached (taken : session ∈ detachedIn home past)
  /-- A call other than a shutdown has taken it out of the pool, and is to close it, or to hand it
  to its caller. -/
  | leaving {call : Call S} (hcall : call ∈ s.calls) (at_ : call.home = home)
      (settled : session ∈ call.task.settled) (other : call.task.shutdown? = none)
  /-- Its acquirer is about to put it into the pool. -/
  | entering {call : Call S} {loan : Record S} (hcall : call ∈ s.calls) (at_ : call.home = home)
      (role : call.task.role = .recruit loan) (own : loan.session = session)

theorem Dispersed.of_departed {session : S} (idle : (s.roles home).countP Role.shuts = 0)
    (h : session ∈ departed home past s) : Dispersed home past s session := by
  rcases List.mem_append.1 h with h | h
  · rcases List.mem_append.1 h with h | h
    · refine .closed (mem_sessionsOf.1 ?_)
      rw [sessionsOf_closings]
      exact List.mem_append_left _ h
    · exact .detached h
  · obtain ⟨call, hcall, h⟩ := List.mem_flatMap.1 h
    unfold Call.settledAt at h
    split at h
    · next at_ =>
      refine .leaving hcall at_ h ?_
      cases about : call.task.shutdown? with
      | none => rfl
      | some d =>
        have role := Task.role_of_settled about h
        have shuts : .draining ∈ s.roles home :=
          List.mem_flatMap.2 ⟨call, hcall, by simp [Call.roleAt, at_, role, Role.toList]⟩
        exact absurd rfl (List.countP_eq_zero.1 idle _ shuts)
    · cases h

/-- Once a shutdown has seen that nothing is outstanding, the sessions of the pool are dispersed. -/
theorem Emptied.dispersed (h : Emptied home past) (run : Run past s) (calm : Calm past)
    (few : (enrolled home past).length < UInt64.size) (known : e ∈ enrolled home past) :
    Dispersed home past s e.2 := by
  obtain ⟨p, built⟩ := run.exists_pool known
  obtain ⟨active, idle⟩ := h.no_sessions run built
  cases run.whereabouts built few calm known with
  | left _ _ leaves => exact .of_departed (h.not_shutting run) leaves
  | idle _ here =>
    rw [idle] at here
    cases here
  | inHand here =>
    -- nobody owns a session, so the key is that of one that has no place yet
    obtain ⟨-, placed, owned⟩ := run.custody built few
    have none : (s.owners home).count e.1 ≤ p.active.keys.count e.1 := owned.most e.1
    rw [active, Roster.keys_empty, List.count_nil] at none
    have some := List.count_pos_iff.2 here
    rw [State.count_inHand] at some
    obtain ⟨r, hr, key⟩ := List.mem_flatMap.1 (List.count_pos_iff.1
      (show 0 < ((s.roles home).flatMap Role.recruits).count e.1 by omega))
    cases r with
    | recruit loan =>
      obtain ⟨i, call, was, at_, role⟩ := (State.mem_roles_iff (by simp)).1 hr
      have same := run.session_eq few (placed.ready loan hr).known known
        (List.mem_singleton.1 key).symm
      exact .entering (List.mem_of_getElem? was) at_ role same
    | _ => cases key

/-- When a shutdown returns that has not lost its patience, and neither has any other of the pool,
all sessions that have a key of the pool are closed, or were taken out, or are in the hands of
calls. -/
theorem dispersed_of_shutdown (run : Run past s) (calm : Calm past)
    (few : (enrolled home past).length < UInt64.size) {call : Call S} (hcall : call ∈ s.calls)
    (at_ : call.home = home) (returns : call.task.shutdown? = some (.done (.value ())))
    (patient : ¬LeftEarly home past) (known : e ∈ enrolled home past) :
    Dispersed home past s e.2 := by
  subst at_
  obtain ⟨p, built⟩ := run.exists_pool known
  obtain ⟨i, atWork⟩ := List.mem_iff_getElem?.1 hcall
  have done : Concluded call.home past := run.accounted.phases i call _ p atWork returns built
  exact (done.looked.resolve_right patient).dispersed run calm few known

/-- When no call has a session of the pool in its hands, all of them are closed, or were taken
out. -/
theorem Dispersed.closed_or_detached {session : S} (h : Dispersed home past s session)
    (free : ∀ call ∈ s.calls, call.home = home → call.task.settled = [] ∧
      call.task.role.recruits = []) :
    (home, session) ∈ closings past s ∨ session ∈ detachedIn home past := by
  cases h with
  | closed closing => exact .inl closing
  | detached taken => exact .inr taken
  | leaving hcall at_ settled other =>
    rw [(free _ hcall at_).1] at settled
    cases settled
  | entering hcall at_ role =>
    have none := (free _ hcall at_).2
    rw [role] at none
    cases none

/-- A session is lent while the pool is shut down as far as the idle sessions, and is given back as
far as the section that takes its record out of the pool. Then the shutdown returns. -/
def overtaking : List (Choice Nat) :=
  List.flatten [shuttingDown, [.begin (.release 0)], steps 3 2, steps 2 5]

theorem dispersed_of_shutdown_of_overtaking :
    ∃ past s call, Run (S := Nat) past s ∧ Calm past ∧ (enrolled 0 past).length < UInt64.size ∧
      call ∈ s.calls ∧ call.home = 0 ∧ call.task.shutdown? = some (.done (.value ())) ∧
      ¬LeftEarly 0 past ∧
      (⟨1⟩, 10) ∈ enrolled 0 past ∧ Dispersed 0 past s 10 := by
  have h : ((play overtaking).any fun r => decide (Calm r.1 ∧ (enrolled 0 r.1).length = 1 ∧
      (∃ call ∈ r.2.calls, call.home = 0 ∧ call.task.shutdown? = some (.done (.value ()))) ∧
      ¬LeftEarly 0 r.1 ∧ (⟨1⟩, 10) ∈ enrolled 0 r.1)) = true := by decide +kernel
  obtain ⟨⟨past, s⟩, played, h⟩ := (Option.any_eq_true _ _).1 h
  obtain ⟨calm, length, ⟨call, hcall, at_, returns⟩, patient, known⟩ := of_decide_eq_true h
  have run := run_of_play played
  have few : (enrolled 0 past).length < UInt64.size := by
    rw [length]
    decide
  exact ⟨past, s, call, run, calm, few, hcall, at_, returns, patient, known,
    dispersed_of_shutdown run calm few hcall at_ returns patient known⟩

/-- A shutdown that has not lost its patience returns although a session that was in the pool is not
closed. -/
theorem exists_unclosed_after_shutdown :
    ∃ past s, Run (S := Nat) past s ∧ Calm past ∧ ¬LeftEarly 0 past ∧
      (∃ call ∈ s.calls, call.home = 0 ∧ call.task.shutdown? = some (.done (.value ()))) ∧
      (∃ e ∈ past, ∃ p ∈ e.1.pool? 0, 10 ∈ p.sessions) ∧ closings past s = [] ∧
      detachedIn 0 past = [] := by
  have h : ((play overtaking).any fun r => decide (Calm r.1 ∧ ¬LeftEarly 0 r.1 ∧
      (∃ call ∈ r.2.calls, call.home = 0 ∧ call.task.shutdown? = some (.done (.value ()))) ∧
      (∃ e ∈ r.1, ∃ p ∈ e.1.pool? 0, 10 ∈ p.sessions) ∧ closings r.1 r.2 = [] ∧
      detachedIn 0 r.1 = [])) = true := by
    decide +kernel
  obtain ⟨⟨past, s⟩, played, h⟩ := (Option.any_eq_true _ _).1 h
  exact ⟨past, s, run_of_play played, of_decide_eq_true h⟩

end Interleaving

/-! ## Slots -/

/-- Whether an acquirer has found the pool open, and has neither got its answer since nor begun to
wait. -/
def Acquire.passed {S : Type} : Acquire S → Bool
  | readTimeout | start _ | checkOpen _ | wait _ _ | countFailure _ false | done _ => false
  | _ => true

theorem Acquire.passed_of_step {S : Type} {v : View S} {p p' : Pool S} {a a' : Acquire S}
    (h : a.step v p = some (p', a')) (passed : a'.passed = true) :
    a.passed = true ∨ p.closed = false ∧ ∃ patience, a = .checkOpen patience := by
  cases a with
  | checkOpen patience =>
    cases h
    split at passed
    · cases passed
    · next isOpen => exact .inr ⟨Bool.eq_false_iff.2 isOpen, patience, rfl⟩
  | wait patience epoch =>
    simp only [step] at h
    split at h
    · cases h
      cases passed
    · split at h <;> cases h
      cases passed
  | countFailure reason slot =>
    cases h
    cases slot
    · cases passed
    · exact .inl rfl
  | readTimeout | start =>
    cases h
    cases passed
  | done => cases h
  | _ => exact .inl rfl

theorem Acquire.passed_of_answer {S : Type} {reply : Interleaving.Reply S} {a a' : Acquire S}
    (h : a.status.answer reply = some a') : a.passed = true := by
  cases a with
  | create | openNew | closeUnused => rfl
  | countFailure reason slot => cases h
  | _ => cases h

theorem Acquire.passed_of_hasSlot {S : Type} {a : Acquire S} (h : a.role.hasSlot = true) :
    a.passed = true := by
  cases a with
  | countFailure reason slot =>
    cases slot
    · cases h
    · rfl
  | done outcome =>
    cases outcome with
    | value loan => cases loan <;> cases h
    | _ => cases h
  | readTimeout | start | checkOpen | wait => cases h
  | _ => rfl

namespace Interleaving

variable {S : Type} {home : PoolId} {past : List (State S × Choice S)} {s : State S} {p : Pool S}

/-- In this step an acquirer saw that the pool is open. -/
structure SawOpen (home : PoolId) (w : Stride S) : Prop where
  task : ∃ patience, w.task = .acquire (.checkOpen patience)
  isOpen : ∃ p, w.state.pool? home = some p ∧ p.closed = false

/-- An acquirer that is to have its request decided, or that makes a session, has seen the pool
open. -/
theorem Run.saw_open (run : Run past s) {i : Nat} {call : Call S} {a : Acquire S}
    (atWork : s.calls[i]? = some call) (task : call.task = .acquire a) (passed : a.passed = true) :
    ∃ w ∈ trail i past, SawOpen call.home w := by
  induction run generalizing call a with
  | start => simp at atWork
  | @next past s s' c run fresh act ih =>
    cases came_of_act act atWork with
    | stays was idle =>
      rw [trail_of_none (idle past)]
      exact ih was task passed
    | begins new idle first => rcases first a task with rfl | ⟨limit, rfl⟩ <;> cases passed
    | @steps connected contended old site q was at_ found did =>
      rw [trail_of_step was, at_]
      rw [task] at did
      obtain ⟨a₀, hold, did⟩ := Task.acquire_of_step did
      rcases Acquire.passed_of_step did passed with before | ⟨isOpen, patience, rfl⟩
      · obtain ⟨w, hw, saw⟩ := ih was hold before
        exact ⟨w, List.mem_cons_of_mem _ hw, saw⟩
      · exact ⟨_, List.mem_cons_self, ⟨patience, hold⟩, site.pool,
          State.pool?_of_site found, isOpen⟩
    | @hears reply old was at_ did =>
      rw [trail_of_none rfl, at_]
      rw [task] at did
      obtain ⟨a₀, hold, did⟩ := Task.acquire_of_answer did
      exact ih was hold (Acquire.passed_of_answer did)
    | ends was ended last =>
      rw [last] at task
      cases task

/-- Whoever has a slot of a pool has seen the pool open, before any shutdown took the idle
sessions. -/
theorem saw_open_of_holdsSlot (run : Run past s) {i : Nat} {call : Call S}
    (atWork : s.calls[i]? = some call) (holds : call.holdsSlot home = true) :
    ∃ w ∈ trail i past, SawOpen home w ∧ ¬Drained home w.past := by
  obtain ⟨at_, slot⟩ := Bool.and_eq_true_iff.1 holds
  have at_ : call.home = home := beq_iff_eq.1 at_
  subst at_
  obtain ⟨a, task, role⟩ := Task.exists_acquire_of_role (Role.acquires_of_hasSlot slot)
  rw [role] at slot
  obtain ⟨w, hw, saw⟩ := run.saw_open atWork task (Acquire.passed_of_hasSlot slot)
  refine ⟨w, hw, saw, fun drained => ?_⟩
  obtain ⟨p, built, isOpen⟩ := saw.isOpen
  have closed := (drained.swept (run.of_mem_trail hw).1 built).closed
  rw [isOpen] at closed
  cases closed

/-- An acquirer sees the pool open. The pool is shut down, which takes no time as it has no
sessions, and the acquirer goes on. -/
def straggling : List (Choice Nat) :=
  List.flatten [
    [.build { settings := {}, source := some .server }, .begin (.tryAcquire 0)], steps 1 2,
    [.begin (.shutDown 0 false)], steps 2 2, steps 0 3, steps 2 8, [.finish 2], steps 1 4]

/-- A shutdown has seen that nothing is outstanding, and has returned; and then a slot is reserved,
and the source is asked for a session. -/
theorem exists_creation_after_shutdown :
    ∃ past s p, Run (S := Nat) past s ∧ s.pool? 0 = some p ∧ Emptied 0 past ∧ p.drained = true ∧
      p.reserved = 1 ∧
      ∃ call ∈ s.calls, call.home = 0 ∧ call.task = .acquire (.create .server) := by
  have h : ((play straggling).any fun r => decide (∃ p ∈ r.2.pool? 0, Emptied 0 r.1 ∧
      p.drained = true ∧ p.reserved = 1 ∧ ∃ call ∈ r.2.calls, call.home = 0 ∧
      call.task = .acquire (.create .server))) = true := by
    decide +kernel
  obtain ⟨⟨past, s⟩, played, h⟩ := (Option.any_eq_true _ _).1 h
  obtain ⟨p, built, h⟩ := of_decide_eq_true h
  exact ⟨past, s, p, run_of_play played, built, h⟩

end Interleaving

end ConnectionPool
