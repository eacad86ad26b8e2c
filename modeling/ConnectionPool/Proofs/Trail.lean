import ConnectionPool.Proofs.Interleaving

set_option autoImplicit false

/-! # What one call has done

A run mixes the steps of all calls. The trail of one call is what remains of the run when only its
own steps are kept, each with the state in which it was taken and with everything that had happened
before.

A call comes into being in the first phase of its operation, and from then on it goes from phase to
phase by its own steps, by the answers that it waits for, and at last by being finished. What the
other calls do passes it by (`came_of_act`). -/

namespace ConnectionPool

namespace Interleaving

variable {S : Type}

/-! ## Trails -/

/-- A step that a call has taken. -/
structure Stride (S : Type) where
  /-- What had happened before. -/
  past : List (State S × Choice S)
  state : State S
  /-- What the call was about. -/
  task : Task S

/-- The step that a call takes by a choice, if the choice is about this call. -/
def stride? (i : Nat) (past : List (State S × Choice S))
    (s : State S) : Choice S → Option (Stride S)
  | .step j _ _ => if j = i then (s.calls[i]?).map fun call => ⟨past, s, call.task⟩ else none
  | _ => none

/-- The steps that a call has taken, the latest first. -/
def trail (i : Nat) : List (State S × Choice S) → List (Stride S)
  | [] => []
  | (s, c) :: past => (stride? i past s c).toList ++ trail i past

variable {past : List (State S × Choice S)} {s s' : State S} {c : Choice S} {i : Nat}

theorem trail_of_step {connected : S → Bool} {contended : Bool} {call : Call S}
    (atWork : s.calls[i]? = some call) : trail i ((s, .step i connected contended) :: past) =
      ⟨past, s, call.task⟩ :: trail i past := by
  simp [trail, stride?, atWork]

theorem trail_of_none (h : stride? i past s c = none) :
    trail i ((s, c) :: past) = trail i past := by
  simp [trail, h]

theorem eq_of_stride? {w : Stride S} (h : stride? i past s c = some w) :
    w.past = past ∧ w.state = s := by
  cases c with
  | step j connected contended =>
    simp only [stride?] at h
    split at h
    · obtain ⟨call, -, rfl⟩ := Option.map_eq_some_iff.1 h
      exact ⟨rfl, rfl⟩
    · cases h
  | _ => cases h

/-- What comes before a step in a trail is the trail at the time of that step. -/
theorem trail_of_trail_eq_cons {w : Stride S} {before : List (Stride S)}
    (h : trail i past = w :: before) : trail i w.past = before := by
  induction past with
  | nil => cases h
  | cons e past ih =>
    simp only [trail] at h
    cases hstride : stride? i past e.1 e.2 with
    | none =>
      rw [hstride] at h
      exact ih h
    | some w' =>
      rw [hstride] at h
      cases h
      rw [(eq_of_stride? hstride).1]
      rfl

/-- Every step of a trail was taken in a state that the run had reached by then. -/
theorem Run.of_mem_trail (run : Run past s) {w : Stride S} (h : w ∈ trail i past) :
    Run w.past w.state ∧ w.past <:+ past := by
  induction run with
  | start => cases h
  | next run fresh act ih =>
    rcases List.mem_append.1 h with h | h
    · obtain ⟨hpast, hstate⟩ := eq_of_stride? (Option.mem_toList.1 h)
      rw [hpast, hstate]
      exact ⟨run, List.suffix_cons _ _⟩
    · obtain ⟨run₀, suffix⟩ := ih h
      exact ⟨run₀, suffix.trans (List.suffix_cons _ _)⟩

/-! ## From phase to phase -/

/-- How a call has come to be as it is after a choice. -/
inductive Came (s : State S) (i : Nat) (call' : Call S) : Choice S → Prop
  /-- It was like that before. -/
  | stays {c : Choice S} (was : s.calls[i]? = some call')
    (idle : ∀ past, stride? i past s c = none) : Came s i call' c
  /-- It has just begun. -/
  | begins {c : Choice S} (new : s.calls[i]? = none) (idle : ∀ past, stride? i past s c = none)
      (first : ∀ a, call'.task = .acquire a → a = .readTimeout ∨ ∃ limit, a = .start limit) :
      Came s i call' c
  | steps {connected : S → Bool} {contended : Bool} {call : Call S} {site : Site S} {p' : Pool S}
      (was : s.calls[i]? = some call) (home : call'.home = call.home)
      (found : s.sites[call.home]? = some site)
      (did : call.task.step (s.view call connected contended) site.pool = some (p', call'.task)) :
      Came s i call' (.step i connected contended)
  | hears {reply : Reply S} {call : Call S} (was : s.calls[i]? = some call)
      (home : call'.home = call.home) (did : call.task.answer reply = some call'.task) :
      Came s i call' (.answer i reply)
  | ends {call : Call S} (was : s.calls[i]? = some call) (ended : call.task.isEnded = true)
      (last : call'.task = .returned) : Came s i call' (.finish i)

theorem first_of_enter {request : Request} {leases : List (Lease S)} {call : Call S}
    (h : s.enter request = some (leases, call)) (a : Acquire S) (ha : call.task = .acquire a) :
    a = .readTimeout ∨ ∃ limit, a = .start limit := by
  cases request with
  | acquire =>
    simp only [State.enter] at h
    split at h <;> cases h
    cases ha
    exact .inl rfl
  | acquireWithin | tryAcquire =>
    simp only [State.enter] at h
    split at h <;> cases h
    cases ha
    exact .inr ⟨_, rfl⟩
  | resize | shutDown | cycle =>
    simp only [State.enter] at h
    split at h <;> cases h
    cases ha
  | release | dropLease | surrender =>
    obtain ⟨l, -, h⟩ := Option.bind_eq_some_iff.1 h
    cases h
    cases ha
  | transfer =>
    obtain ⟨l, -, h⟩ := Option.bind_eq_some_iff.1 h
    obtain ⟨l', -, h⟩ := Option.bind_eq_some_iff.1 h
    cases h
    cases ha

theorem came_of_act (act : s.act c = some s') {call' : Call S} (h : s'.calls[i]? = some call') :
    Came s i call' c := by
  -- a call that begins is added at the end, so those in progress keep their numbers
  have added {call : Call S} (idle : ∀ past, stride? i past s c = none)
      (h : (s.calls ++ [call])[i]? = some call')
      (first : ∀ a, call.task = .acquire a → a = .readTimeout ∨ ∃ limit, a = .start limit) :
      Came s i call' c := by
    rw [List.getElem?_append] at h
    split at h
    · exact .stays h idle
    · next hge =>
      obtain rfl := List.mem_singleton.1 (List.mem_of_getElem? h)
      exact .begins (List.getElem?_eq_none (Nat.le_of_not_lt hge)) idle first
  cases happens_of_act act with
  | pass | adjust => exact .stays h fun _ => rfl
  | build => exact added (fun _ => rfl) h (by simp)
  | begin admitted => exact added (fun _ => rfl) h (first_of_enter admitted)
  | drop => exact added (fun _ => rfl) h (by simp)
  | @step j connected contended call site p' t' atWork found did =>
    simp only [State.put, List.getElem?_set] at h
    split at h
    · next heq =>
      subst heq
      split at h
      · cases h
        exact .steps atWork rfl found did
      · cases h
    · next hne => exact .stays h fun _ => if_neg hne
  | @answer j reply call site t' atWork found did =>
    simp only [State.put, List.getElem?_set] at h
    split at h
    · next heq =>
      subst heq
      split at h
      · cases h
        exact .hears atWork rfl did
      · cases h
    · exact .stays h fun _ => rfl
  | @finish j call atWork ended =>
    simp only [List.getElem?_set] at h
    split at h
    · next heq =>
      subst heq
      split at h
      · cases h
        exact .ends atWork ended rfl
      · cases h
    · exact .stays h fun _ => rfl

end Interleaving

end ConnectionPool
