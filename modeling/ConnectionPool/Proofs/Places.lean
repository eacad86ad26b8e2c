import Mathlib.Data.List.Flatten
import ConnectionPool.Proofs.Origins

set_option autoImplicit false

/-! # Where sessions are

A session that has its key is in one of three places: somebody has it in hand, or it is idle, or it
has left its pool (`Whereabouts`). Whatever calls close, and whatever they hand to a caller for
good, has left, and nothing leaves twice. So no call closes a session twice, or one that was handed
to a caller, or one that a pool or a lease still has. -/

namespace ConnectionPool

namespace Interleaving

variable {S : Type} {home : PoolId} {past : List (State S × Choice S)}
  {s s' : State S} {c : Choice S} {p : Pool S}

/-! ## Closings -/

/-- The session that a call is closing, with the pool that the call is on. -/
def Call.closing (c : Call S) : List (PoolId × S) := c.task.closing?.toList.map (c.home, ·)

/-- The closing that has ended with a choice. -/
def State.closing (s : State S) : Choice S → List (PoolId × S)
  | .answer i (.closed _) =>
    match s.calls[i]? with
    | some call => call.closing
    | none => []
  | _ => []

/-- All closings that calls have begun, those last that have not ended. -/
def closings (past : List (State S × Choice S)) (s : State S) : List (PoolId × S) :=
  past.flatMap (fun e => e.1.closing e.2) ++ s.calls.flatMap Call.closing

/-- The sessions of one pool in a list of sessions with their pools. -/
def sessionsOf (home : PoolId) (l : List (PoolId × S)) : List S := (l.filter (·.1 = home)).map (·.2)

theorem mem_sessionsOf {l : List (PoolId × S)} {session : S} :
    session ∈ sessionsOf home l ↔ (home, session) ∈ l := by
  simp [sessionsOf]

theorem sessionsOf_append (l l' : List (PoolId × S)) :
    sessionsOf home (l ++ l') = sessionsOf home l ++ sessionsOf home l' := by
  simp [sessionsOf]

theorem sessionsOf_flatMap {α : Type} (l : List α) (f : α → List (PoolId × S)) :
    sessionsOf home (l.flatMap f) = l.flatMap fun a => sessionsOf home (f a) := by
  induction l with
  | nil => rfl
  | cons a rest ih => rw [List.flatMap_cons, List.flatMap_cons, sessionsOf_append, ih]

theorem sessionsOf_closing (call : Call S) :
    sessionsOf home call.closing = if call.home = home then call.task.closing?.toList else [] := by
  unfold Call.closing
  cases call.task.closing? with
  | none => exact (ite_self _).symm
  | some session =>
    by_cases here : call.home = home
    · simp [sessionsOf, here]
    · simp [sessionsOf, here]

/-- The closings of the sessions of one pool are those that calls on the pool have begun. -/
theorem sessionsOf_closings : sessionsOf home (closings past s) =
    closedIn home past ++ s.calls.flatMap fun call => sessionsOf home call.closing := by
  have one (s : State S) (c : Choice S) : sessionsOf home (s.closing c) = s.closes home c := by
    fun_cases State.closing s c with
    | case1 i outcome call was =>
      rw [sessionsOf_closing, State.closes, was]
    | case2 i outcome none => rw [State.closes, none]; rfl
    | case3 c other =>
      rw [State.closes]
      · rfl
      · exact other
  rw [closings, sessionsOf_append, sessionsOf_flatMap, sessionsOf_flatMap, closedIn]
  simp only [one]

/-- Sessions with their pools are all different if those of one pool are, and no session is of
two. -/
theorem nodup_of_sessionsOf {l : List (PoolId × S)} (each : ∀ home, (sessionsOf home l).Nodup)
    (apart : ∀ e ∈ l, ∀ e' ∈ l, e.2 = e'.2 → e.1 = e'.1) : (l.map (·.2)).Nodup := by
  induction l with
  | nil => exact .nil
  | cons e rest ih =>
    refine List.nodup_cons.2 ⟨fun h => ?_, ih (fun home => ?_) fun a ha b hb =>
      apart a (List.mem_cons_of_mem _ ha) b (List.mem_cons_of_mem _ hb)⟩
    · obtain ⟨e', he', same⟩ := List.mem_map.1 h
      have pool := apart e List.mem_cons_self e' (List.mem_cons_of_mem _ he') same.symm
      -- both are of one pool, where the session would come twice
      have twice := each e.1
      rw [sessionsOf, List.filter_cons_of_pos (by simp), List.map_cons, List.nodup_cons] at twice
      refine twice.1 (mem_sessionsOf.2 ?_)
      simpa [pool, ← same] using he'
    · have one := each home
      rw [← List.singleton_append, sessionsOf_append] at one
      exact (List.nodup_append.1 one).2.1

/-! ## Where a session is -/

/-- The place of a session that has its key: somebody has it in hand, or it is idle, or it has
left. -/
inductive Whereabouts (home : PoolId) (past : List (State S × Choice S)) (s : State S) (p : Pool S)
    (e : SessionKey × S) : Prop
  | inHand (here : e.1 ∈ s.inHand home) (idle : e.1 ∉ p.idle.keys)
      (stays : e.2 ∉ departed home past s)
  | idle (inHand : e.1 ∉ s.inHand home) (here : e.1 ∈ p.idle.keys)
      (stays : e.2 ∉ departed home past s)
  | left (inHand : e.1 ∉ s.inHand home) (idle : e.1 ∉ p.idle.keys)
      (leaves : e.2 ∈ departed home past s)

/-- No two sessions have one key, and no session has two. -/
theorem Run.enrolled_nodup (run : Run past s) (few : (enrolled home past).length < UInt64.size) :
    ((enrolled home past).map (·.1)).Nodup ∧ ((enrolled home past).map (·.2)).Nodup := by
  cases built : s.pool? home with
  | some p =>
    obtain ⟨enrolled, -, -⟩ := run.custody built few
    exact ⟨enrolled.keys, (List.nodup_append.1 enrolled.sessions).1⟩
  | none =>
    have none : enrolled home past = [] := by
      refine List.eq_nil_iff_forall_not_mem.2 fun e he => ?_
      obtain ⟨p, built'⟩ := run.exists_pool he
      cases built.symm.trans built'
    rw [none]
    exact ⟨.nil, .nil⟩

section

variable (run : Run past s) (few : (enrolled home past).length < UInt64.size)
  {e e' : SessionKey × S} (h : e ∈ enrolled home past) (h' : e' ∈ enrolled home past)
include run few h h'

/-- A session has one key. -/
theorem Run.key_eq (same : e.2 = e'.2) : e.1 = e'.1 :=
  congrArg Prod.fst (List.inj_on_of_nodup_map (run.enrolled_nodup few).2 h h' same)

/-- A key has one session. -/
theorem Run.session_eq (same : e.1 = e'.1) : e.2 = e'.2 :=
  congrArg Prod.snd (List.inj_on_of_nodup_map (run.enrolled_nodup few).1 h h' same)

end

/-- Whatever has left a pool has had a key of the pool. -/
theorem Run.known_of_departed (run : Run past s) (few : (enrolled home past).length < UInt64.size)
    (calm : Calm past) {session : S} (h : session ∈ departed home past s) :
    ∃ key, (key, session) ∈ enrolled home past := by
  cases built : s.pool? home with
  | none =>
    rw [run.departed_unbuilt built] at h
    cases h
  | some p =>
    obtain ⟨shed, conserved⟩ := run.conserved built few calm
    obtain ⟨e, he, rfl⟩ := List.mem_map.1 (conserved.departed.mem_iff.2 h)
    exact ⟨e.1, conserved.known e he⟩

/-- No session leaves twice. -/
theorem Run.departed_nodup (run : Run past s) (few : (enrolled home past).length < UInt64.size)
    (calm : Calm past) : (departed home past s).Nodup := by
  cases built : s.pool? home with
  | none => rw [run.departed_unbuilt built]; exact .nil
  | some p =>
    obtain ⟨shed, conserved⟩ := run.conserved built few calm
    have keys := (run.enrolled_nodup few).1
    have once : (shed.map (·.1)).Nodup := by
      refine List.nodup_iff_count_le_one.2 fun key => ?_
      have := conserved.keys key
      have := List.nodup_iff_count_le_one.1 keys key
      omega
    refine conserved.departed.nodup_iff.1 (List.Nodup.map_on ?_ once.of_map)
    intro e he e' he' same
    exact Prod.ext (run.key_eq few (conserved.known e he) (conserved.known e' he') same) same

theorem Run.whereabouts (run : Run past s) (built : s.pool? home = some p)
    (few : (enrolled home past).length < UInt64.size) (calm : Calm past) {e : SessionKey × S}
    (known : e ∈ enrolled home past) : Whereabouts home past s p e := by
  obtain ⟨shed, conserved⟩ := run.conserved built few calm
  have keys := (run.enrolled_nodup few).1
  have left : e.2 ∈ departed home past s ↔ e.1 ∈ shed.map (·.1) := by
    rw [← conserved.departed.mem_iff]
    constructor
    · intro h
      obtain ⟨e', he', same⟩ := List.mem_map.1 h
      exact List.mem_map.2 ⟨e', he', run.key_eq few (conserved.known e' he') known same⟩
    · intro h
      obtain ⟨e', he', same⟩ := List.mem_map.1 h
      exact List.mem_map.2 ⟨e', he', run.session_eq few (conserved.known e' he') known same⟩
  -- the key is in one of the three places once, and in the other two not at all
  have one := List.count_eq_one_of_mem keys (List.mem_map_of_mem (f := (·.1)) known)
  rw [← conserved.keys e.1] at one
  by_cases hand : e.1 ∈ s.inHand home
  · have := List.count_pos_iff.2 hand
    refine .inHand hand ?_ ?_
    · exact List.count_eq_zero.1 (by omega)
    · rw [left]
      exact List.count_eq_zero.1 (by omega)
  · by_cases idle : e.1 ∈ p.idle.keys
    · have := List.count_pos_iff.2 idle
      refine .idle hand idle ?_
      rw [left]
      exact List.count_eq_zero.1 (by omega)
    · refine .left hand idle (left.2 (List.count_pos_iff.1 ?_))
      rw [List.count_eq_zero.2 hand, List.count_eq_zero.2 idle] at one
      omega

/-- What calls on a pool close, and what they hand over for good, has left the pool. -/
theorem exists_departed_perm (home : PoolId) (past : List (State S × Choice S)) (s : State S) :
    ∃ rest, (departed home past s).Perm
      (sessionsOf home (closings past s) ++ detachedIn home past ++ rest) := by
  -- a call that is closing a session has it among those that it has settled
  have sub : (s.calls.flatMap fun call => sessionsOf home call.closing).Sublist
      (s.calls.flatMap (Call.settledAt home)) := by
    refine List.Sublist.flatMap_right _ fun call _ => ?_
    rw [sessionsOf_closing, Call.settledAt]
    split
    · cases closes : call.task.closing? with
      | none => exact List.nil_sublist _
      | some session =>
        obtain ⟨rest, settled⟩ := Task.settled_of_closing? closes
        rw [settled]
        exact (List.nil_sublist rest).cons_cons session
    · exact .slnil
  obtain ⟨rest, perm⟩ := sub.exists_perm_append
  refine ⟨rest, ?_⟩
  rw [departed, sessionsOf_closings, List.append_assoc, List.append_assoc, List.append_assoc]
  refine List.Perm.append_left _ ((perm.append_left _).trans ?_)
  exact List.perm_append_comm_assoc _ _ _

theorem mem_departed_of_closing {session : S} (h : (home, session) ∈ closings past s) :
    session ∈ departed home past s := by
  obtain ⟨rest, perm⟩ := exists_departed_perm home past s
  exact perm.mem_iff.2 (List.mem_append_left _ (List.mem_append_left _ (mem_sessionsOf.2 h)))

theorem mem_departed_of_detached {session : S} (h : session ∈ detachedIn home past) :
    session ∈ departed home past s :=
  List.mem_append_left _ (List.mem_append_right _ h)

end Interleaving

/-- The sessions that a pool has, lent or idle. -/
def Pool.sessions {S : Type} (p : Pool S) : List S :=
  (p.active.holdings ++ p.idle.holdings).map (·.2)

namespace Interleaving

variable {S : Type} {home : PoolId} {past : List (State S × Choice S)} {s : State S} {p : Pool S}
  {e : SessionKey × S}

/-- Whatever a lease holds is in hand, under the key that the lease shows, and has not left. -/
theorem Run.leased (run : Run past s) (few : (enrolled home past).length < UInt64.size)
    (calm : Calm past) {l : Lease S} (hl : l ∈ s.allLeases) (at_ : l.home = home) {session : S}
    (holds : l.session = some session) :
    (l.info.key, session) ∈ enrolled home past ∧ l.info.key ∈ s.inHand home ∧
      session ∉ departed home past s := by
  have known := run.known_of_lease few hl at_ holds
  have here : l.info.key ∈ s.inHand home :=
    List.mem_append_left _
      (List.mem_map_of_mem (f := (·.info.key)) (mem_held_of_lease hl at_ holds))
  obtain ⟨p, built⟩ := run.exists_pool known
  refine ⟨known, here, ?_⟩
  cases run.whereabouts built few calm known with
  | inHand here idle stays => exact stays
  | idle inHand => exact (inHand here).elim
  | left inHand => exact (inHand here).elim

/-- Whatever is idle has not left. -/
theorem Run.idle (run : Run past s) (built : s.pool? home = some p)
    (few : (enrolled home past).length < UInt64.size) (calm : Calm past)
    (he : e ∈ p.idle.holdings) :
    e ∈ enrolled home past ∧ e.1 ∉ s.inHand home ∧ e.2 ∉ departed home past s := by
  obtain ⟨-, placed, -⟩ := run.custody built few
  have known := placed.filed.known_idle he
  have here : e.1 ∈ p.idle.keys := by
    rw [← Roster.map_fst_holdings]
    exact List.mem_map_of_mem he
  refine ⟨known, ?_⟩
  cases run.whereabouts built few calm known with
  | inHand _ idle => exact (idle here).elim
  | idle inHand _ stays => exact ⟨inHand, stays⟩
  | left _ idle => exact (idle here).elim

theorem Run.mem_idle (run : Run past s) (built : s.pool? home = some p)
    (few : (enrolled home past).length < UInt64.size) (known : e ∈ enrolled home past)
    (here : e.1 ∈ p.idle.keys) : e ∈ p.idle.holdings := by
  obtain ⟨-, placed, -⟩ := run.custody built few
  obtain ⟨record, found⟩ := Option.isSome_iff_exists.1 (Roster.mem_keys_iff.1 here)
  have listed := Roster.mem_holdings found
  have same : record.session = e.2 :=
    run.session_eq few (placed.filed.idle e.1 record found).known known rfl
  rwa [same] at listed

/-- Whatever a pool that exists has, lent or idle, has not left. -/
theorem Run.pooled (run : Run past s) (built : s.pool? home = some p)
    (few : (enrolled home past).length < UInt64.size) (calm : Calm past)
    (alive : s.alive home = true)
    {session : S} (h : session ∈ p.sessions) :
    (∃ key, (key, session) ∈ enrolled home past) ∧ session ∉ departed home past s := by
  obtain ⟨e, he, rfl⟩ := List.mem_map.1 h
  rcases List.mem_append.1 he with he | he
  · obtain ⟨-, placed, owned⟩ := run.custody built few
    obtain ⟨record, found, same⟩ := Roster.exists_of_mem_holdings he
    have known := (placed.filed.active e.1 record found).known
    rw [same] at known
    refine ⟨⟨e.1, known⟩, ?_⟩
    -- while the pool exists, somebody owns every lent session
    have all : p.active.keys.count e.1 ≤ (s.owners home).count e.1 := owned.all alive e.1
    rw [Roster.count_keys_of_some found] at all
    have here : e.1 ∈ s.inHand home := by
      refine List.count_pos_iff.1 ?_
      rw [State.count_inHand]
      omega
    cases run.whereabouts built few calm known with
    | inHand _ _ stays => exact stays
    | idle inHand => exact (inHand here).elim
    | left inHand => exact (inHand here).elim
  · obtain ⟨known, -, stays⟩ := run.idle built few calm he
    exact ⟨⟨e.1, known⟩, stays⟩

/-! ## No closing too many -/

section

variable (run : Run past s) (few : ∀ home, (enrolled home past).length < UInt64.size)
  (calm : Calm past)
include run few calm

/-- No session of one pool is closed by a call on another. -/
theorem Run.home_eq_of_closing {home' : PoolId} {session : S}
    (closing : (home', session) ∈ closings past s)
    (h : session ∈ departed home past s ∨ ∃ key, (key, session) ∈ enrolled home past) :
    home' = home := by
  obtain ⟨key', known'⟩ := run.known_of_departed (few home') calm (mem_departed_of_closing closing)
  obtain ⟨key, known⟩ := h.elim (run.known_of_departed (few home) calm) id
  exact run.apart known' known rfl

theorem Run.closings_nodup : ((closings past s).map (·.2)).Nodup := by
  refine nodup_of_sessionsOf (fun home => ?_) ?_
  · obtain ⟨rest, perm⟩ := exists_departed_perm home past s
    have once := perm.nodup_iff.1 (run.departed_nodup (few home) calm)
    exact (List.nodup_append.1 (List.nodup_append.1 once).1).1
  · rintro ⟨home, session⟩ h ⟨home', _⟩ h' rfl
    exact run.home_eq_of_closing few calm h (.inl (mem_departed_of_closing h'))

/-- Whatever has a key and has not left is not closed by any call. -/
theorem Run.not_closed_of_stays {session : S} (known : ∃ key, (key, session) ∈ enrolled home past)
    (stays : session ∉ departed home past s) : session ∉ (closings past s).map (·.2) := by
  intro h
  obtain ⟨⟨home', _⟩, closing, rfl⟩ := List.mem_map.1 h
  obtain rfl := run.home_eq_of_closing few calm closing (.inr known)
  exact stays (mem_departed_of_closing closing)

theorem Run.not_closed_of_detached {session : S} (h : session ∈ detachedIn home past) :
    session ∉ (closings past s).map (·.2) := by
  intro hc
  obtain ⟨⟨home', _⟩, closing, rfl⟩ := List.mem_map.1 hc
  obtain rfl := run.home_eq_of_closing few calm closing (.inl (mem_departed_of_detached h))
  obtain ⟨rest, perm⟩ := exists_departed_perm home' past s
  have once := perm.nodup_iff.1 (run.departed_nodup (few home') calm)
  exact (List.nodup_append.1 (List.nodup_append.1 once).1).2.2 _ (mem_sessionsOf.2 closing) _ h rfl

end

end Interleaving

end ConnectionPool
