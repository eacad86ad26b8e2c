import ConnectionPool.Proofs.Departures

set_option autoImplicit false

/-! # Where sessions come from

A source hands each session over once, to one acquirer, who asks for one pool. So no session gets a
key of two pools (`Run.apart`). A session that was opened, or was found open, is given its key in
the next step of its acquirer (`Run.opened`). -/

namespace ConnectionPool

namespace Interleaving

variable {S : Type} {home : PoolId} {past : List (State S × Choice S)}
  {s s' : State S} {c : Choice S}

/-! ## Deliveries -/

/-- The session that a source hands over with a choice, to an acquirer on the pool. -/
def State.delivers (s : State S) (home : PoolId) : Choice S → List S
  | .answer i reply =>
    match s.calls[i]? with
    | some call => if call.home = home then reply.delivery.toList else []
    | none => []
  | _ => []

/-- The sessions that sources have handed over to acquirers on the pool, the latest first. -/
def deliveredTo (home : PoolId) (past : List (State S × Choice S)) : List S :=
  past.flatMap fun e => e.1.delivers home e.2

theorem deliveredTo_cons {e : State S × Choice S} :
    deliveredTo home (e :: past) = e.1.delivers home e.2 ++ deliveredTo home past :=
  List.flatMap_cons

theorem exists_of_mem_delivers {session : S} (h : session ∈ s.delivers home c) : ∃ i reply call,
    c = .answer i reply ∧ s.calls[i]? = some call ∧ call.home = home ∧
    session ∈ reply.delivery := by
  unfold State.delivers at h
  split at h
  · next i reply =>
    split at h
    · next call was =>
      split at h
      · next at_ => exact ⟨i, reply, call, rfl, was, at_, Option.mem_toList.1 h⟩
      · cases h
    · cases h
  · cases h

theorem Run.deliveredTo_subset (run : Run past s) : deliveredTo home past ⊆ s.delivered := by
  induction run with
  | start => exact List.nil_subset _
  | @next past s s' c run fresh act ih =>
    intro session h
    rw [deliveredTo_cons] at h
    rcases List.mem_append.1 h with h | h
    · obtain ⟨i, reply, call, rfl, -, -, delivered⟩ := exists_of_mem_delivers h
      cases happens_of_act act with
      | answer => exact List.mem_append_left _ (Option.mem_toList.2 delivered)
    · exact delivered_subset act (ih h)

/-- No session is handed over for two pools. -/
theorem Run.home_eq_of_delivered (run : Run past s) {home' : PoolId} {session : S}
    (h : session ∈ deliveredTo home past) (h' : session ∈ deliveredTo home' past) :
    home = home' := by
  induction run with
  | start => cases h
  | @next past s s' c run fresh act ih =>
    -- what is handed over now was not handed over before
    have new {at_ at' : PoolId} (now : session ∈ s.delivers at_ c)
        (before : session ∈ deliveredTo at' past) :
        False := by
      obtain ⟨i, reply, call, rfl, -, -, delivered⟩ := exists_of_mem_delivers now
      exact fresh session delivered (run.deliveredTo_subset before)
    rw [deliveredTo_cons] at h h'
    rcases List.mem_append.1 h with h | h <;> rcases List.mem_append.1 h' with h' | h'
    · obtain ⟨i, reply, call, rfl, was, rfl, -⟩ := exists_of_mem_delivers h
      obtain ⟨j, reply', call', hc, was', rfl, -⟩ := exists_of_mem_delivers h'
      cases hc
      cases was.symm.trans was'
      rfl
    · exact (new h h').elim
    · exact (new h' h).elim
    · exact ih h h'

/-- An acquirer makes its session from what it was handed. -/
theorem Run.newcomer_delivered (run : Run past s) {i : Nat} {call : Call S}
    (atWork : s.calls[i]? = some call) {session : S} (h : session ∈ call.task.role.newcomers) :
    session ∈ deliveredTo call.home past := by
  induction run generalizing i call with
  | start => simp at atWork
  | @next past s s' c run fresh act ih =>
    rw [deliveredTo_cons]
    cases came_of_act act atWork with
    | stays was => exact List.mem_append_right _ (ih was h)
    | begins new =>
      rw [Role.newcomers_of_not_acquires (begins_of_act act new atWork).acquires] at h
      cases h
    | @steps connected contended old site q was at_ found did =>
      rw [at_]
      refine List.mem_append_right _ (ih was ?_)
      rcases Task.moves_of_step did with ⟨-, moves⟩ | ⟨-, hands⟩
      · rcases moves.newcomers with ⟨-, -, same | none | ⟨made, hears, -⟩⟩ | ⟨made, -, none, -⟩
        · exact same ▸ h
        · rw [none] at h
          cases h
        · cases hears
        · rw [none] at h
          cases h
      · rw [Role.newcomers_of_not_acquires hands.acquires.2] at h
        cases h
    | @hears reply old was at_ did =>
      rw [at_]
      obtain ⟨p, -⟩ := run.grounded.exists_pool was
      have moves := (@Task.moves_of_answer _ (s.view old (fun _ => false) false) p _ _ _ did).2
      rcases moves.newcomers with ⟨-, -, same | none | ⟨made, hears, -, one⟩⟩ | ⟨made, -, none, -⟩
      · exact List.mem_append_right _ (ih was (same ▸ h))
      · rw [none] at h
        cases h
      · cases hears
        obtain rfl := List.mem_singleton.1 (one ▸ h)
        refine List.mem_append_left _ ?_
        simp [State.delivers, was, Reply.delivery]
      · rw [none] at h
        cases h
    | ends was ended last =>
      rw [last] at h
      cases h

theorem exists_of_mem_enrolment {e : SessionKey × S} (h : e ∈ s.enrolment home c) :
    ∃ i connected contended call, c = .step i connected contended ∧ s.calls[i]? = some call ∧
      call.home = home ∧ call.task = .acquire (.enrol e.2) := by
  unfold State.enrolment at h
  split at h
  · next i connected contended =>
    split at h
    · next at_ byWorker session p was built =>
      split at h
      · next same =>
        obtain rfl := List.mem_singleton.1 h
        exact ⟨i, connected, contended, _, rfl, was, same, rfl⟩
      · cases h
    · cases h
  · cases h

theorem Run.enrolled_delivered (run : Run past s) {e : SessionKey × S}
    (h : e ∈ enrolled home past) : e.2 ∈ deliveredTo home past := by
  induction run with
  | start => cases h
  | next run fresh act ih =>
    rw [enrolled_cons] at h
    rw [deliveredTo_cons]
    refine List.mem_append_right _ ?_
    rcases List.mem_append.1 h with h | h
    · obtain ⟨i, connected, contended, call, -, was, rfl, task⟩ := exists_of_mem_enrolment h
      refine run.newcomer_delivered was ?_
      rw [task]
      exact List.mem_singleton.2 rfl
    · exact ih h

/-- A pool that keys were drawn of is there. -/
theorem Run.exists_pool (run : Run past s) {e : SessionKey × S} (h : e ∈ enrolled home past) :
    ∃ p, s.pool? home = some p := by
  induction run with
  | start => cases h
  | @next past s s' c run fresh act ih =>
    have before : ∃ p, s.pool? home = some p := by
      rw [enrolled_cons] at h
      rcases List.mem_append.1 h with h | h
      · obtain ⟨i, connected, contended, call, -, was, rfl, -⟩ := exists_of_mem_enrolment h
        exact run.grounded.exists_pool was
      · exact ih h
    obtain ⟨p, built⟩ := before
    obtain ⟨p', built', -⟩ := alters_of_act act built
    exact ⟨p', built'⟩

/-- No session gets a key of two pools. -/
theorem Run.apart (run : Run past s) {home' : PoolId} {e e' : SessionKey × S}
    (h : e ∈ enrolled home past) (h' : e' ∈ enrolled home' past) (same : e.2 = e'.2) :
    home = home' :=
  run.home_eq_of_delivered (run.enrolled_delivered h) (same ▸ run.enrolled_delivered h')

/-! ## Opened sessions -/

/-- The session that is open from a choice on, and is to get a key of the pool. -/
def State.opens (s : State S) (home : PoolId) : Choice S → List S
  | .answer i (.opened (.value _)) =>
    match s.calls[i]? with
    | some ⟨at_, _, .acquire (.openNew session)⟩ => if at_ = home then [session] else []
    | _ => []
  | .step i connected _ =>
    match s.calls[i]? with
    | some ⟨at_, _, .acquire (.inspect session)⟩ =>
      if at_ = home ∧ connected session = true then [session] else []
    | _ => []
  | _ => []

/-- The sessions that were opened for the pool, or were found open, the latest first. -/
def opened (home : PoolId) (past : List (State S × Choice S)) : List S :=
  past.flatMap fun e => e.1.opens home e.2

/-- Whatever opens a session leaves it with its acquirer, who is to draw the key. -/
theorem exists_of_mem_opens {session : S} (act : s.act c = some s') (h : session ∈ s.opens home c) :
    ∃ (i : Nat) (call : Call S), s'.calls[i]? = some call ∧ call.home = home ∧
      call.task = .acquire (.enrol session) := by
  have set {i : Nat} {call call' : Call S} (was : s.calls[i]? = some call) :
      (s.calls.set i call')[i]? = some call' :=
    List.getElem?_set_self (List.getElem?_eq_some_iff.1 was).1
  unfold State.opens at h
  split at h
  · next i outcome =>
    split at h
    · next at_ byWorker session' was =>
      split at h
      · next same =>
        obtain rfl := List.mem_singleton.1 h
        cases happens_of_act act with
        | answer atWork found did =>
        cases was.symm.trans atWork
        cases did
        exact ⟨i, _, set was, same, rfl⟩
      · cases h
    · cases h
  · next i connected contended =>
    split at h
    · next at_ byWorker session' was =>
      split at h
      · next same =>
        obtain rfl := List.mem_singleton.1 h
        cases happens_of_act act with
        | step atWork found did =>
        cases was.symm.trans atWork
        simp only [Task.step, Acquire.step, State.view, same.2, if_true] at did
        cases did
        exact ⟨i, _, set was, same.1, rfl⟩
      · cases h
    · cases h
  · cases h

/-- A session that was opened has its key, or its acquirer is about to draw it. -/
theorem Run.opened (run : Run past s) {session : S} (h : session ∈ opened home past) :
    (∃ key, (key, session) ∈ enrolled home past) ∨
      ∃ (i : Nat) (call : Call S), s.calls[i]? = some call ∧ call.home = home ∧
        call.task = .acquire (.enrol session) := by
  induction run with
  | start => cases h
  | @next past s s' c run fresh act ih =>
    rw [Interleaving.opened, List.flatMap_cons] at h
    rcases List.mem_append.1 h with h | h
    · exact .inr (exists_of_mem_opens act h)
    · rcases ih h with ⟨key, known⟩ | ⟨i, call, was, rfl, task⟩
      · exact .inl ⟨key, enrolled_subset _ known⟩
      · obtain ⟨call', was'⟩ := exists_call_of_act act was
        cases came_of_act act was' with
        | stays same =>
          cases was.symm.trans same
          exact .inr ⟨i, call, was', rfl, task⟩
        | begins new => cases was.symm.trans new
        | @steps connected contended old site q same at_ found did =>
          -- the key is drawn
          cases was.symm.trans same
          left
          refine ⟨site.pool.nextKey, ?_⟩
          rw [enrolled_cons]
          refine List.mem_append_left _ ?_
          obtain ⟨at', byWorker, task'⟩ := call
          cases task
          simp [State.enrolment, was, State.pool?_of_site found]
        | hears same at_ did =>
          cases was.symm.trans same
          rw [task] at did
          cases did
        | ends same ended =>
          cases was.symm.trans same
          rw [task] at ended
          cases ended

end Interleaving

end ConnectionPool
