import ConnectionPool.Proofs.Shutdowns

set_option autoImplicit false

/-! # Closed pools only shrink

A pool that was closed stays closed. Once its idle sessions were taken as well it has no idle
session ever again, and nobody is lent one: sessions are only taken from the active ones from then
on, by whoever gives one back or takes one out (`Shrinks`). That holds of every move, so calls that
had begun before the shutdown are no exception.

An acquirer that begins on a closed pool looks at the clock at most, sees that the pool is closed
and is refused after a few steps of its own, each of which it can take at once (`TurnedAway`). -/

namespace ConnectionPool

/-- What is taken back by a closed pool does not become idle again. -/
theorem Pool.idle_takeBack {S : Type} {p p' : Pool S} {key : SessionKey} {connected : S → Bool}
    {now : Instant} {rejected : Option S} (h : p.takeBack key connected now = some (p', rejected))
    (closed : p.closed = true) : p'.idle = p.idle := by
  simp only [takeBack, closed, Bool.not_true, Bool.false_and, Bool.false_eq_true, if_false] at h
  split at h <;> cases h
  rfl

namespace Interleaving

variable {S : Type} {v : View S} {reply : Option (Reply S)} {p p' : Pool S} {x y : Role S}

/-! ## What moves do to a closed pool -/

/-- A pool that was closed, and whose idle sessions were taken. -/
structure Swept (p : Pool S) : Prop where
  closed : p.closed = true
  idle : p.idle = .empty

/-- How a pool develops in the end: what is closed stays closed, and what is swept stays swept,
without any session becoming active. -/
structure Shrinks (p p' : Pool S) : Prop where
  closed : p.closed = true → p'.closed = true
  swept : Swept p → Swept p'
  fewer : Swept p → ∀ key r, p'.active.find? key = some r → p.active.find? key = some r

theorem Shrinks.refl (p : Pool S) : Shrinks p p := ⟨id, id, fun _ _ _ => id⟩

theorem Shrinks.trans (p q r : Pool S) (h : Shrinks p q) (h' : Shrinks q r) : Shrinks p r where
  closed := h'.closed ∘ h.closed
  swept := h'.swept ∘ h.swept
  fewer hp key record hr := h.fewer hp key record (h'.fewer (h.swept hp) key record hr)

theorem Shrinks.of_same (closed : p'.closed = p.closed) (idle : p'.idle = p.idle)
    (active : p'.active = p.active) : Shrinks p p' where
  closed h := closed.trans h
  swept h := ⟨closed.trans h.closed, idle.trans h.idle⟩
  fewer _ _ _ h := active ▸ h

/-- A session leaves the roster of active ones, and the others stay where they are. -/
theorem Shrinks.of_erase {key : SessionKey} (closed : p'.closed = p.closed)
    (idle : p.closed = true → p'.idle = p.idle) (active : p'.active = p.active.erase key) :
    Shrinks p p' where
  closed h := closed.trans h
  swept h := ⟨closed.trans h.closed, (idle h.closed).trans h.idle⟩
  fewer _ k r h := by
    rw [active, Roster.find?_erase] at h
    split at h
    · cases h
    · exact h

theorem Moves.shrinks (m : Moves v reply p x p' y) : Shrinks p p' := by
  cases m with
  | pass alike => exact .of_same alike.closed alike.idle alike.active
  | reuse lend =>
    obtain ⟨key, record, found, -, -, rfl⟩ := Pool.lend_eq_reuse lend
    -- a swept pool has no idle session to lend
    have none (swept : Swept p) : False := by
      rw [swept.idle] at found
      cases found
    exact ⟨id, fun swept => (none swept).elim, fun swept => (none swept).elim⟩
  | reserve lend =>
    obtain ⟨-, rfl⟩ := Pool.lend_eq_reserve lend
    exact .of_same rfl rfl rfl
  | install isOpen =>
    have never (closed : p.closed = true) : False := by simp [isOpen] at closed
    exact ⟨fun closed => (never closed).elim, fun swept => (never swept.closed).elim,
      fun swept => (never swept.closed).elim⟩
  | takeBack taken =>
    have idle := Pool.idle_takeBack taken
    obtain ⟨record, idle', -, rfl, -⟩ := Pool.takeBack_eq_some taken
    exact .of_erase rfl idle rfl
  | letGo taken =>
    obtain ⟨record, -, rfl⟩ := Pool.letGo_eq_some taken
    exact .of_erase rfl (fun _ => rfl) rfl
  | beginProbes =>
    refine ⟨id, fun swept => ⟨swept.closed, ?_⟩, fun _ _ _ => id⟩
    simp only [Pool.beginProbes, swept.idle]
    rfl
  | endProbes =>
    refine ⟨id, fun swept => ⟨swept.closed, ?_⟩, fun _ _ _ => id⟩
    simp only [Pool.endProbes, swept.idle]
    rfl
  | resize set =>
    rw [Pool.setMaxConnections_eq_ok set]
    exact .of_same rfl rfl rfl
  | close isOpen => exact ⟨fun _ => rfl, fun swept => ⟨rfl, swept.idle⟩, fun _ _ _ => id⟩
  | drain => exact ⟨id, fun swept => ⟨swept.closed, rfl⟩, fun _ _ _ => id⟩
  | _ => exact .of_same rfl rfl rfl

/-- A swept pool lends nothing, neither an idle session nor a new one. -/
theorem Moves.loan_of_swept {r : Record S} (m : Moves v reply p x p' (.loan r)) (swept : Swept p) :
    x = .loan r := by
  cases m with
  | pass alike => rfl
  | reuse lend =>
    obtain ⟨key, record, found, -⟩ := Pool.lend_eq_reuse lend
    rw [swept.idle] at found
    cases found
  | install isOpen => exact absurd swept.closed (by simp [isOpen])

theorem Ledger.Change.shrinks {d d' : Ledger S} (h : d.Change d') : Shrinks d.pool d'.pool := by
  cases h with
  | quiet alike => exact .of_same alike.closed alike.idle alike.active
  | move moves => exact moves.shrinks
  | claim pool | issue pool => exact pool ▸ .refl _

theorem Ledger.Change.loan_of_swept {d d' : Ledger S} (h : d.Change d')
    (swept : Swept d.pool) {r : Record S} (hr : .loan r ∈ d'.roles) : .loan r ∈ d.roles := by
  cases h with
  | quiet alike roles => exact roles.mem_iff.1 hr
  | claim pool held roles => simpa using roles.mem_iff.1 hr
  | issue pool roles => exact roles.mem_iff.2 (List.mem_cons_of_mem _ hr)
  | move moves before after =>
    refine before.mem_iff.2 ?_
    rcases List.mem_append.1 (after.mem_iff.1 hr) with hr | hr
    · obtain rfl := Role.eq_of_mem_toList hr
      rw [moves.loan_of_swept swept]
      exact List.mem_append_left _ (Role.mem_toList (by simp))
    · exact List.mem_append_right _ hr

variable {home : PoolId} {past since later : List (State S × Choice S)} {s₀ s s' : State S}
  {c : Choice S} {p₀ : Pool S}

theorem Leads.shrinks (run₀ : Run past s₀) (leads : Leads s₀ since s)
    (built₀ : s₀.pool? home = some p₀) (built : s.pool? home = some p) : Shrinks p₀ p :=
  leads.kept .refl .trans (fun _ _ h => h.shrinks) run₀ built₀ built

/-- Whoever has a session of a swept pool to hand over had it before. -/
theorem Leads.loan_of_swept (run₀ : Run past s₀) (leads : Leads s₀ since s)
    (built₀ : s₀.pool? home = some p₀) (swept : Swept p₀) {r : Record S}
    (hr : .loan r ∈ s.roles home) :
    .loan r ∈ s₀.roles home := by
  induction leads with
  | here => exact hr
  | next leads fresh act ih =>
    obtain ⟨q, built⟩ := leads.exists_pool? built₀
    obtain ⟨q', -, change⟩ := change_of_act past (run₀.append leads).grounded fresh act built
    exact ih (change.loan_of_swept ((leads.shrinks run₀ built₀ built).swept swept) hr)

/-! ## After the shutdown has taken the idle sessions -/

theorem Drained.swept (h : Drained home past) (run : Run past s) (built : s.pool? home = some p) :
    Swept p := by
  obtain ⟨⟨s₁, c⟩, he, phase⟩ := h
  obtain ⟨before, later, s₂, rfl, run₁, fresh, act, leads⟩ := run.exists_leads he
  obtain ⟨i, connected, contended, call, rfl, was, rfl, about⟩ := exists_shutdown_of_phase phase
  cases happens_of_act act with
  | @step _ _ _ _ site p' t' atWork found did =>
  cases was.symm.trans atWork
  have before₁ := State.pool?_of_site found
  have closed : site.pool.closed = true := run₁.backed_of_phase phase before₁
  have drained : p' = site.pool.drain.1 := by
    obtain ⟨at_, byWorker, task⟩ := call
    cases task <;> cases about <;> cases did <;> rfl
  have after : (s₁.put i call site p' t').pool? call.home = some p' := by
    rw [State.pool?_put found, if_pos rfl]
  exact (leads.shrinks (.next run₁ fresh act) after built).swept
    ⟨by rw [drained]; exact closed, by rw [drained]; rfl⟩

/-- Once a shutdown has seen that nothing is outstanding the pool has no sessions. -/
theorem Emptied.no_sessions (h : Emptied home past) (run : Run past s)
    (built : s.pool? home = some p) : p.active = .empty ∧ p.idle = .empty := by
  obtain ⟨⟨s₁, c⟩, he, q, ⟨⟨since, pause, limit, phase⟩, before₁⟩, none⟩ := h
  obtain ⟨before, later, s₂, rfl, run₁, fresh, act, leads⟩ := run.exists_leads he
  have drained : Drained home before := run₁.backed_of_phase phase before₁
  have swept := drained.swept run₁ before₁
  have shrinks := (leads.after fresh act).shrinks run₁ before₁ built
  have hollow : q.active = .empty := Roster.eq_empty_of_size (by
    simp only [Pool.outstanding] at none
    omega)
  refine ⟨Roster.ext_find? fun key => ?_, (shrinks.swept swept).idle⟩
  cases found : p.active.find? key with
  | none => rfl
  | some r =>
    have := shrinks.fewer swept key r found
    rw [hollow] at this
    cases this

end Interleaving

/-! ## Acquirers that begin on a closed pool -/

/-- How many steps an acquirer is away from its refusal, if it is to be refused as soon as it sees
that the pool is closed. -/
def Acquire.refusedIn? {S : Type} : Acquire S → Option Nat
  | readTimeout => some 4
  | start _ => some 3
  | checkOpen _ => some 2
  | countFailure .poolClosed false => some 1
  | done (.error .poolClosed) => some 0
  | _ => none

namespace Interleaving

variable {S : Type} {v : View S} {p p' : Pool S} {home : PoolId}
  {past since later : List (State S × Choice S)} {s₀ s s' : State S} {c : Choice S}
  {p₀ : Pool S} {i : Nat}

namespace Acquire

variable {a a' : Acquire S} {left : Nat}

theorem refusedIn?_of_step (h : a.refusedIn? = some left) (closed : p.closed = true)
    (did : a.step v p = some (p', a')) :
    ∃ n, left = n + 1 ∧ a'.refusedIn? = some n ∧ Alike p p' := by
  cases a with
  | readTimeout | start =>
    cases h
    cases did
    exact ⟨_, rfl, rfl, .rfl⟩
  | checkOpen patience =>
    cases h
    simp only [Acquire.step, closed, if_true] at did
    cases did
    exact ⟨_, rfl, rfl, .rfl⟩
  | countFailure reason slot =>
    cases reason <;> cases slot <;> cases h
    cases did
    exact ⟨_, rfl, rfl, ⟨rfl, rfl, rfl, rfl, rfl, rfl, rfl⟩⟩
  | done outcome => cases did
  | _ => cases h

theorem exists_step_of_refusedIn? (h : a.refusedIn? = some (left + 1)) :
    ∃ p' a', a.step v p = some (p', a') := by
  cases a with
  | readTimeout | start | checkOpen | countFailure => exact ⟨_, _, rfl⟩
  | done outcome =>
    cases outcome with
    | error e => cases e <;> cases h
    | _ => cases h
  | _ => cases h

theorem not_answer_of_refusedIn? {reply : Reply S} (h : a.refusedIn? = some left) :
    a.status.answer reply = none := by
  cases a with
  | create | openNew | closeUnused => cases h
  | _ => rfl

theorem eq_done_of_refusedIn? (h : a.refusedIn? = some 0) : a = .done (.error .poolClosed) := by
  cases a with
  | countFailure reason slot => cases reason <;> cases slot <;> cases h
  | done outcome =>
    cases outcome with
    | error e =>
      cases e <;> cases h
      rfl
    | _ => cases h
  | _ => cases h

theorem not_isEnded_of_refusedIn? (h : a.refusedIn? = some (left + 1)) :
    a.status.isEnded = false := by
  cases a with
  | done outcome =>
    cases outcome with
    | error e => cases e <;> cases h
    | _ => cases h
  | _ => rfl

end Acquire

/-- The acquirer has been refused, or will be: it has so many steps left, and takes four in all at
most. -/
def OnItsWay (home : PoolId) (i : Nat) (later : List (State S × Choice S)) (s : State S) : Prop :=
  (∃ call, s.calls[i]? = some call ∧ call.task = .returned) ∨
    ∃ call a left, s.calls[i]? = some call ∧ call.home = home ∧ call.task = .acquire a ∧
      a.refusedIn? = some left ∧ left + (trail i later).length ≤ 4

theorem OnItsWay.next (h : OnItsWay home i later s) (act : s.act c = some s')
    (closed : ∀ p, s.pool? home = some p → p.closed = true) :
    OnItsWay home i ((s, c) :: later) s' := by
  have exists_was : ∃ call, s.calls[i]? = some call := by
    rcases h with ⟨call, was, -⟩ | ⟨call, a, left, was, -⟩ <;> exact ⟨call, was⟩
  obtain ⟨call₀, was₀⟩ := exists_was
  obtain ⟨call', was'⟩ := exists_call_of_act act was₀
  cases came_of_act act was' with
  | stays was idle =>
    rcases h with ⟨call, was₁, returned⟩ | ⟨call, a, left, was₁, rest⟩
    · cases was.symm.trans was₁
      exact .inl ⟨_, was', returned⟩
    · cases was.symm.trans was₁
      exact .inr ⟨_, a, left, was', by rw [trail_of_none (idle later)]; exact rest⟩
  | begins new => cases new.symm.trans was₀
  | steps was at_ found did =>
    rcases h with ⟨call, was₁, returned⟩ | ⟨call, a, left, was₁, rfl, task, refused, count⟩
    · cases was.symm.trans was₁
      rw [returned] at did
      cases did
    · cases was.symm.trans was₁
      rw [task] at did
      obtain ⟨a', did, task'⟩ := exists_of_map_step did
      obtain ⟨n, rfl, refused', -⟩ :=
        Acquire.refusedIn?_of_step refused (closed _ (State.pool?_of_site found)) did
      refine .inr ⟨call', a', n, was', at_, task', refused', ?_⟩
      rw [trail_of_step was, List.length_cons]
      omega
  | hears was at_ did =>
    rcases h with ⟨call, was₁, returned⟩ | ⟨call, a, left, was₁, rfl, task, refused, count⟩
    · cases was.symm.trans was₁
      rw [returned] at did
      cases did
    · cases was.symm.trans was₁
      rw [task, Task.answer, Acquire.not_answer_of_refusedIn? refused] at did
      cases did
  | ends was ended last => exact .inl ⟨call', was', last⟩

/-- What is true at any later time of a call that asked a closed pool for a session. -/
structure TurnedAway (home : PoolId) (i : Nat) (later : List (State S × Choice S))
    (s : State S) : Prop where
  course : OnItsWay home i later s
  /-- It never waits for anybody: unless it has ended it can take its next step. -/
  prompt : ∀ call, s.calls[i]? = some call → call.task = .returned ∨ call.task.isEnded = true ∨
    ∀ connected contended, (s.act (.step i connected contended)).isSome = true
  /-- What it ends with is that the pool is closed. -/
  result : ∀ call, s.calls[i]? = some call → call.task.isEnded = true →
    call.task = .acquire (.done (.error .poolClosed))
  /-- It asks neither a source nor a session. -/
  unasked : ∀ call reply, s.calls[i]? = some call → call.task.answer reply = none
  /-- It leaves the sessions and the slots of the pool alone. -/
  harmless : ∀ connected contended s' p p', s.act (.step i connected contended) = some s' →
    s.pool? home = some p → s'.pool? home = some p' → Alike p p'

theorem TurnedAway.of_returned {call : Call S} (was : s.calls[i]? = some call)
    (returned : call.task = .returned) : TurnedAway home i later s where
  course := .inl ⟨call, was, returned⟩
  prompt call' was' := by
    cases was.symm.trans was'
    exact .inl returned
  result call' was' ended := by
    cases was.symm.trans was'
    rw [returned] at ended
    cases ended
  unasked call' reply was' := by
    cases was.symm.trans was'
    rw [returned]
    rfl
  harmless connected contended s' q q' act := by
    cases happens_of_act act with
    | step atWork found did =>
    cases was.symm.trans atWork
    rw [returned] at did
    cases did

theorem OnItsWay.turnedAway (h : OnItsWay home i later s) (built : s.pool? home = some p)
    (closed : p.closed = true) : TurnedAway home i later s := by
  have course := h
  rcases h with ⟨call, was, returned⟩ | ⟨call, a, left, was, rfl, task, refused, -⟩
  · exact .of_returned was returned
  refine ⟨course, fun call' was' => ?prompt, fun call' was' ended => ?result,
    fun call' reply was' => ?unasked, fun connected contended s' q q' act built' after => ?harmless⟩
  case prompt =>
    cases was.symm.trans was'
    cases left with
    | zero =>
      right; left
      rw [task, Acquire.eq_done_of_refusedIn? refused]
      rfl
    | succ n =>
      right; right
      intro connected contended
      simp only [State.pool?, Option.map_eq_some_iff] at built
      obtain ⟨site, found, rfl⟩ := built
      obtain ⟨p', a', did⟩ :=
        Acquire.exists_step_of_refusedIn? (v := s.view call connected contended)
          (p := site.pool) refused
      simp [State.act, State.advance, was, found, task, Task.step, did]
  case result =>
    cases was.symm.trans was'
    cases left with
    | zero => rw [task, Acquire.eq_done_of_refusedIn? refused]
    | succ n =>
      rw [task, Task.isEnded, Acquire.not_isEnded_of_refusedIn? refused] at ended
      cases ended
  case unasked =>
    cases was.symm.trans was'
    rw [task, Task.answer, Acquire.not_answer_of_refusedIn? refused]
    rfl
  case harmless =>
    cases happens_of_act act with
    | step atWork found did =>
    cases was.symm.trans atWork
    rw [task] at did
    obtain ⟨a', did, -⟩ := exists_of_map_step did
    have same := State.pool?_of_site found
    cases built.symm.trans built'
    cases built.symm.trans same
    rw [State.pool?_put found, if_pos rfl] at after
    cases after
    obtain ⟨n, -, -, alike⟩ := Acquire.refusedIn?_of_step refused closed did
    exact alike

/-- A request for a session of the pool. -/
inductive AsksFor (home : PoolId) : Request → Prop
  | acquire : AsksFor home (.acquire home)
  | acquireWithin (limit : Duration) : AsksFor home (.acquireWithin home limit)
  | tryAcquire : AsksFor home (.tryAcquire home)

theorem AsksFor.onItsWay {request : Request} (asks : AsksFor home request)
    (act : s₀.act (.begin request) = some s) : OnItsWay home s₀.calls.length [] s := by
  cases happens_of_act act with
  | @begin _ leases call admitted =>
  have first : call.home = home ∧
      (call.task = .acquire .readTimeout ∨ ∃ limit, call.task = .acquire (.start limit)) := by
    cases asks <;> simp only [State.enter] at admitted <;> split at admitted <;> cases admitted
    · exact ⟨rfl, .inl rfl⟩
    · exact ⟨rfl, .inr ⟨_, rfl⟩⟩
    · exact ⟨rfl, .inr ⟨_, rfl⟩⟩
  have was : (s₀.calls ++ [call])[s₀.calls.length]? = some call := by simp
  obtain ⟨at_, task | ⟨limit, task⟩⟩ := first
  · exact .inr ⟨call, _, 4, was, at_, task, rfl, Nat.le_refl _⟩
  · exact .inr ⟨call, _, 3, was, at_, task, rfl, Nat.le_succ _⟩

theorem Leads.turnedAway (run₀ : Run past s₀) (built₀ : s₀.pool? home = some p₀)
    (closed : p₀.closed = true) {request : Request} (asks : AsksFor home request)
    (leads : Leads s₀ (later ++ [(s₀, .begin request)]) s)
    (built : s.pool? home = some p) : TurnedAway home s₀.calls.length later s := by
  have closedLater {since : List (State S × Choice S)} {s : State S}
      (leads : Leads s₀ since s) (p : Pool S) (built : s.pool? home = some p) : p.closed = true :=
    (leads.shrinks run₀ built₀ built).closed closed
  refine OnItsWay.turnedAway ?_ built (closedLater leads p built)
  obtain ⟨s₁, act, leads₁⟩ := leads.of_append_singleton
  have fresh₀ : (Choice.begin request).Fresh s₀ := trivial
  clear leads built
  induction leads₁ with
  | here => exact asks.onItsWay act
  | next leads fresh act' ih => exact ih.next act' (closedLater (leads.after fresh₀ act))

/-! ## Main result -/

/-- What has become of a pool since some moment, as far as closing it is concerned. -/
structure OnlyShrinks (home : PoolId) (past : List (State S × Choice S)) (s₀ : State S)
    (since : List (State S × Choice S)) (s : State S) (p₀ p : Pool S) : Prop where
  /-- A closed pool stays closed. -/
  closed : p₀.closed = true → p.closed = true
  /-- From the step on in which a shutdown takes the idle sessions there are none, and only sessions
  that were active are, under the records that they had. -/
  drained : Drained home past →
    p.idle = .empty ∧ ∀ key r, p.active.find? key = some r → p₀.active.find? key = some r
  /-- From then on nobody is lent a session: who has one to hand over had it before. -/
  lent : Drained home past → ∀ r, .loan r ∈ s.roles home → .loan r ∈ s₀.roles home
  /-- Whoever asks a closed pool for a session is turned away. -/
  refused : p₀.closed = true → ∀ request later, AsksFor home request →
    since = later ++ [(s₀, .begin request)] → TurnedAway home s₀.calls.length later s
  /-- When any shutdown of the pool has returned, the idle sessions were taken, and nothing was
  outstanding any more unless the patience of a shutdown has ended. -/
  concluded : ∀ call ∈ s₀.calls, call.home = home → call.task.shutdown? = some (.done (.value ())) →
    Drained home past ∧ (Emptied home past ∨ LeftEarly home past)
  /-- Once a shutdown has seen that nothing is outstanding the pool has no sessions. -/
  emptied : Emptied home past → p.active = .empty ∧ p.idle = .empty
  /-- No lease holds a session of the pool from then on, and no call has one to hand over, as long
  as no key was given to two sessions. -/
  unlent : Emptied home past → (enrolled home (since ++ past)).length < UInt64.size →
    s.held home = [] ∧ ∀ call ∈ s.calls, call.home = home → call.task.loan? = none

theorem Emptied.unlent (h : Emptied home past) (run : Run past s) (built : s.pool? home = some p)
    (few : (enrolled home past).length < UInt64.size) :
    s.held home = [] ∧ ∀ call ∈ s.calls, call.home = home → call.task.loan? = none := by
  obtain ⟨-, -, owned⟩ := run.custody built few
  have none (key : SessionKey) (r : Record S) (found : p.active.find? key = some r) : False := by
    rw [(h.no_sessions run built).1] at found
    cases found
  refine ⟨?_, fun call hcall at_ => ?_⟩
  · refine List.eq_nil_iff_forall_not_mem.2 fun r hr => ?_
    exact none _ r (owned.held r hr)
  · cases lent : call.task.loan? with
    | none => rfl
    | some r =>
      have role : call.task.role = .loan r := by
        obtain ⟨at_, byWorker, task⟩ := call
        cases task with
        | acquire a =>
          cases a with
          | done outcome =>
            cases outcome <;> cases lent
            rfl
          | _ => cases lent
        | _ => cases lent
      obtain ⟨i, atWork⟩ := List.mem_iff_getElem?.1 hcall
      exact (none _ r (owned.loans r
        ((State.mem_roles_iff (by simp)).2 ⟨i, call, atWork, at_, role⟩))).elim

/-- From any moment on, whatever happens, a closed pool only shrinks, and an empty one stays
empty. -/
theorem closed_pool_only_shrinks (run : Run past s₀) (built₀ : s₀.pool? home = some p₀)
    (leads : Leads s₀ since s) (built : s.pool? home = some p) :
    OnlyShrinks home past s₀ since s p₀ p := by
  have shrinks := leads.shrinks run built₀ built
  have after := run.append leads
  have more : past ⊆ since ++ past := List.subset_append_right _ _
  refine ⟨shrinks.closed, fun drained => ?_, fun drained r hr => ?_, ?_, ?_, fun emptied => ?_,
    fun emptied few => ?_⟩
  · exact ⟨((drained.mono more).swept after built).idle, shrinks.fewer (drained.swept run built₀)⟩
  · exact leads.loan_of_swept run built₀ (drained.swept run built₀) hr
  · rintro closed request later asks rfl
    exact leads.turnedAway run built₀ closed asks built
  · rintro call hcall rfl about
    obtain ⟨i, atWork⟩ := List.mem_iff_getElem?.1 hcall
    have done : Concluded call.home past := run.accounted.phases i call _ p₀ atWork about built₀
    exact ⟨done.drained, done.looked⟩
  · exact (emptied.mono more).no_sessions after built
  · exact (emptied.mono more).unlent after built few

/-- A session is lent, and the pool is shut down as far as the idle sessions. -/
def shuttingDown : List (Choice Nat) :=
  List.flatten [
    [.build { settings := { maxConnections := 2 }, source := some .server }], lending 1 10,
    [.begin (.shutDown 0 false)], steps 2 2, steps 0 3, steps 2 3]

/-- Somebody asks for a session in vain, the lent session is given back, and the shutdown
returns. -/
def givingBack : List (Choice Nat) :=
  List.flatten [
    [.begin (.tryAcquire 0)], steps 3 3, [.finish 3, .begin (.release 0)], steps 4 3,
    [.answer 4 (.closed (.value ()))], steps 4 2, steps 2 5]

theorem closed_pool_only_shrinks_of_givingBack :
    ∃ past since s₀ s p₀ p, Run (S := Nat) past s₀ ∧ s₀.pool? 0 = some p₀ ∧ Leads s₀ since s ∧
      s.pool? 0 = some p ∧ Drained 0 past ∧ p₀.active.keys = [⟨1⟩] ∧ p.active.keys = [] ∧
      p.drained = true ∧ OnlyShrinks 0 past s₀ since s p₀ p := by
  have h : ((play shuttingDown).bind fun r => (follow r.1 r.2 givingBack).bind fun r' =>
      if Drained 0 r.1 then (r.2.pool? 0).bind fun p₀ => (r'.2.pool? 0).map fun p =>
        (p₀.active.keys, p.active.keys, p.drained) else none) = some ([⟨1⟩], [], true) := by
    decide +kernel
  obtain ⟨⟨past, s₀⟩, played, h⟩ := Option.bind_eq_some_iff.1 h
  obtain ⟨⟨past', s⟩, followed, h⟩ := Option.bind_eq_some_iff.1 h
  split at h
  · next drained =>
    obtain ⟨p₀, built₀, h⟩ := Option.bind_eq_some_iff.1 h
    obtain ⟨p, built, h⟩ := Option.map_eq_some_iff.1 h
    obtain ⟨before, h⟩ := Prod.mk.inj h
    obtain ⟨after, ended⟩ := Prod.mk.inj h
    have run := run_of_play played
    obtain ⟨since, -, leads⟩ := leads_of_follow followed
    exact ⟨past, since, s₀, s, p₀, p, run, built₀, leads, built, drained, before, after, ended,
      closed_pool_only_shrinks run built₀ leads built⟩
  · cases h

end Interleaving

end ConnectionPool
