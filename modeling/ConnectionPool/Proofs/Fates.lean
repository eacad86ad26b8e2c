import ConnectionPool.Proofs.Gone
import ConnectionPool.Proofs.Places

set_option autoImplicit false

/-! # What becomes of sessions

When no call is in progress, every session that was opened has come to one of a few ends, and to no
other (`fates`): its pool has it, or a lease that has outlived the pool, or the caller who took it
out, or it was closed.

There is one more end. A pool that is given up on its own heartbeat worker leaves its idle sessions
behind: nobody has them, and nobody will close them (`exists_left_behind`). -/

namespace ConnectionPool

namespace Interleaving

variable {S : Type} {home : PoolId} {past : List (State S × Choice S)} {s : State S} {p : Pool S}
  {e : SessionKey × S}

/-! ## Ends -/

/-- What may have become of a session of a pool. -/
inductive Fate where
  /-- The pool exists and has it, lent or idle. -/
  | pooled
  /-- A lease has it, and the pool is gone. -/
  | outlived
  /-- A caller has taken it out of the pool. -/
  | detached
  | closed
  /-- The pool was given up on its own worker, and is gone with the session still idle. -/
  | leftBehind

namespace Fate

def Befalls (home : PoolId) (past : List (State S × Choice S)) (s : State S)
    (session : S) : Fate → Prop
  | pooled => s.alive home = true ∧ ∃ p, s.pool? home = some p ∧ session ∈ p.sessions
  | outlived => s.alive home = false ∧ ∃ l ∈ s.leases, l.home = home ∧ l.session = some session
  | detached => session ∈ detachedIn home past
  | closed => (home, session) ∈ closings past s
  | leftBehind => s.alive home = false ∧ GivenUpByWorker home past ∧
      ∃ p, s.pool? home = some p ∧ session ∈ p.idle.holdings.map (·.2)

/-- What an end says: whether the pool exists, whether the session is in hand, whether it has left,
and whether it was taken out for a caller. -/
def Tells (alive inHand left taken : Prop) : Fate → Prop
  | pooled => alive ∧ ¬left
  | outlived => ¬alive ∧ inHand ∧ ¬left
  | detached => left ∧ taken
  | closed => left ∧ ¬taken
  | leftBehind => ¬alive ∧ ¬inHand ∧ ¬left

/-- The ends tell all cases apart. -/
theorem existsUnique_tells (alive inHand left taken : Prop) :
    ∃! fate : Fate, fate.Tells alive inHand left taken := by
  have unique (fate : Fate) (h : fate.Tells alive inHand left taken) :
      ∃! fate : Fate, fate.Tells alive inHand left taken := by
    refine ⟨fate, h, fun fate' h' => ?_⟩
    cases fate <;> cases fate' <;> simp_all [Tells]
  by_cases hleft : left
  · by_cases htaken : taken
    · exact unique detached ⟨hleft, htaken⟩
    · exact unique closed ⟨hleft, htaken⟩
  · by_cases halive : alive
    · exact unique pooled ⟨halive, hleft⟩
    · by_cases hhand : inHand
      · exact unique outlived ⟨halive, hhand, hleft⟩
      · exact unique leftBehind ⟨halive, hhand, hleft⟩

end Fate

/-! ## When no call is in progress -/

/-- Whether a call has returned, or is that of a worker between two cycles. -/
def Task.rests : Task S → Bool
  | returned => true
  | work (.cycle _ _ _) => false
  | work _ => true
  | _ => false

/-- No call is in progress. -/
def AtRest (s : State S) : Prop := ∀ call ∈ s.calls, call.task.rests = true

instance : Decidable (AtRest s) :=
  inferInstanceAs (Decidable (∀ call ∈ s.calls, call.task.rests = true))

theorem Task.empty_of_rests {t : Task S} (h : t.rests = true) :
    t.role = .none ∧ t.leases = [] ∧ t.settled = [] := by
  cases t with
  | work w =>
    cases w with
    | cycle => cases h
    | _ => exact ⟨rfl, rfl, rfl⟩
  | returned => exact ⟨rfl, rfl, rfl⟩
  | _ => cases h

namespace AtRest

variable (rest : AtRest s)
include rest

/-- What is in hand is with the leases. -/
theorem exists_lease {key : SessionKey} (h : key ∈ s.inHand home) :
    ∃ l ∈ s.leases, l.home = home ∧ ∃ session, l.session = some session ∧ l.info.key = key := by
  rcases List.mem_append.1 h with h | h
  · obtain ⟨record, hr, rfl⟩ := List.mem_map.1 h
    rcases List.mem_append.1 hr with hr | hr
    · obtain ⟨l, hl, same⟩ := List.mem_filterMap.1 hr
      unfold record? at same
      split at same
      · next at_ =>
        obtain ⟨session, holds, rfl⟩ := Option.map_eq_some_iff.1 same
        exact ⟨l, hl, at_, session, holds, rfl⟩
      · cases same
    · obtain ⟨call, hcall, hr⟩ := List.mem_flatMap.1 hr
      rw [Call.held, (Task.empty_of_rests (rest call hcall)).2.1] at hr
      cases hr
  · obtain ⟨r, hr, h⟩ := List.mem_flatMap.1 h
    obtain ⟨call, hcall, hr⟩ := List.mem_flatMap.1 hr
    rw [Call.roleAt, (Task.empty_of_rests (rest call hcall)).1] at hr
    simp [Role.toList] at hr

/-- What has left was closed, or taken out. -/
theorem departed_eq : departed home past s = closedIn home past ++ detachedIn home past := by
  have none : s.calls.flatMap (Call.settledAt home) = [] := by
    refine List.flatMap_eq_nil_iff.2 fun call hcall => ?_
    rw [Call.settledAt, (Task.empty_of_rests (rest call hcall)).2.2, ite_self]
  rw [departed, none, List.append_nil]

end AtRest

/-! ## The ends, one by one -/

/-- An idle session of a pool that is gone was left behind. -/
theorem Run.givenUpByWorker (run : Run past s) (calm : Calm past) (built : s.pool? home = some p)
    (gone : s.alive home = false) (idle : p.idle.keys ≠ []) : GivenUpByWorker home past := by
  rcases run.swept_of_gone calm built gone with swept | given
  · rw [swept.idle] at idle
    exact (idle rfl).elim
  · exact given

section

variable (run : Run past s) (few : (enrolled home past).length < UInt64.size)
  (built : s.pool? home = some p) (known : e ∈ enrolled home past)
include run few built known

theorem Run.leftBehind_iff (calm : Calm past) : Fate.leftBehind.Befalls home past s e.2 ↔
    ¬s.alive home = true ∧ e.1 ∉ s.inHand home ∧ e.2 ∉ departed home past s := by
  constructor
  · rintro ⟨gone, -, q, hq, h⟩
    cases built.symm.trans hq
    obtain ⟨e', he', same⟩ := List.mem_map.1 h
    obtain ⟨known', away, stays⟩ := run.idle built few calm he'
    rw [same] at stays
    have key : e'.1 = e.1 := run.key_eq few known' known same
    exact ⟨by simp [gone], key ▸ away, stays⟩
  · rintro ⟨gone, away, stays⟩
    rw [Bool.not_eq_true] at gone
    cases run.whereabouts built few calm known with
    | inHand here => exact (away here).elim
    | idle _ here =>
      have given := run.givenUpByWorker calm built gone (List.ne_nil_of_mem here)
      exact ⟨gone, given, p, built, List.mem_map_of_mem (run.mem_idle built few known here)⟩
    | left _ _ leaves => exact (stays leaves).elim

namespace AtRest

omit built in
/-- Whoever has the key of a session in hand is a lease with the session. -/
theorem exists_lease_of_inHand (rest : AtRest s) (here : e.1 ∈ s.inHand home) :
    ∃ l ∈ s.allLeases, l ∈ s.leases ∧ l.home = home ∧ l.session = some e.2 ∧ l.info.key = e.1 := by
  obtain ⟨l, hl, at_, session, holds, key⟩ := rest.exists_lease here
  have all : l ∈ s.allLeases := List.mem_append_left _ hl
  have same : session = e.2 := run.session_eq few (run.known_of_lease few all at_ holds) known key
  subst same
  exact ⟨l, all, hl, at_, holds, key⟩

variable (calm : Calm past) (rest : AtRest s)
include calm rest

theorem pooled_iff : Fate.pooled.Befalls home past s e.2 ↔
    s.alive home = true ∧ e.2 ∉ departed home past s := by
  constructor
  · rintro ⟨alive, q, hq, h⟩
    cases built.symm.trans hq
    exact ⟨alive, (run.pooled built few calm alive h).2⟩
  · rintro ⟨alive, stays⟩
    refine ⟨alive, p, built, List.mem_map.2 ⟨e, List.mem_append.2 ?_, rfl⟩⟩
    cases run.whereabouts built few calm known with
    | inHand here =>
      obtain ⟨l, hl, -, at_, holds, key⟩ := rest.exists_lease_of_inHand run few known here
      obtain ⟨-, -, owned⟩ := run.custody built few
      have found := owned.held _ (mem_held_of_lease hl at_ holds)
      rw [key] at found
      exact .inl (Roster.mem_holdings found)
    | idle _ here => exact .inr (run.mem_idle built few known here)
    | left _ _ leaves => exact (stays leaves).elim

omit built in
theorem outlived_iff : Fate.outlived.Befalls home past s e.2 ↔
    ¬s.alive home = true ∧ e.1 ∈ s.inHand home ∧ e.2 ∉ departed home past s := by
  constructor
  · rintro ⟨gone, l, hl, at_, holds⟩
    obtain ⟨same, here, stays⟩ := run.leased few calm (List.mem_append_left _ hl) at_ holds
    have key : l.info.key = e.1 := run.key_eq few same known rfl
    exact ⟨by simp [gone], key ▸ here, stays⟩
  · rintro ⟨gone, here, -⟩
    obtain ⟨l, -, hl, at_, holds, -⟩ := rest.exists_lease_of_inHand run few known here
    exact ⟨by simpa using gone, l, hl, at_, holds⟩

end AtRest

end

theorem AtRest.closed_iff (run : Run past s)
    (few : ∀ home, (enrolled home past).length < UInt64.size) (calm : Calm past) (rest : AtRest s)
    {session : S} : Fate.closed.Befalls home past s session ↔ session ∈ departed home past s ∧
    session ∉ detachedIn home past := by
  constructor
  · intro h
    refine ⟨mem_departed_of_closing h, fun taken => ?_⟩
    exact run.not_closed_of_detached few calm taken (List.mem_map_of_mem h)
  · rintro ⟨leaves, kept⟩
    rw [rest.departed_eq] at leaves
    have ended := (List.mem_append.1 leaves).resolve_right kept
    rw [Fate.Befalls, ← mem_sessionsOf, sessionsOf_closings]
    exact List.mem_append_left _ ended

/-- When no call is in progress, each end of a session comes down to the place where the session
is. -/
theorem AtRest.befalls_iff (run : Run past s)
    (few : ∀ home, (enrolled home past).length < UInt64.size) (calm : Calm past) (rest : AtRest s)
    (known : e ∈ enrolled home past) (fate : Fate) :
    fate.Befalls home past s e.2 ↔ fate.Tells (s.alive home = true) (e.1 ∈ s.inHand home)
      (e.2 ∈ departed home past s) (e.2 ∈ detachedIn home past) := by
  obtain ⟨p, built⟩ := run.exists_pool known
  cases fate with
  | pooled => exact rest.pooled_iff run (few home) built known calm
  | outlived => exact rest.outlived_iff run (few home) known calm
  | detached => exact ⟨fun h => ⟨mem_departed_of_detached h, h⟩, And.right⟩
  | closed => exact rest.closed_iff run few calm
  | leftBehind => exact run.leftBehind_iff (few home) built known calm

/-! ## In every run -/

/-- What becomes of the sessions of all pools. -/
structure Fates (past : List (State S × Choice S)) (s : State S) : Prop where
  /-- No session is closed twice. -/
  once : ((closings past s).map (·.2)).Nodup
  /-- No session is closed that was taken out for a caller. -/
  detached : ∀ home, ∀ session ∈ detachedIn home past, session ∉ (closings past s).map (·.2)
  /-- No session is closed that a pool has. -/
  pooled : ∀ home p, s.alive home = true → s.pool? home = some p → ∀ session ∈ p.sessions,
    session ∉ (closings past s).map (·.2)
  /-- No session is closed that a lease has. -/
  leased : ∀ l ∈ s.allLeases, ∀ session, l.session = some session →
    session ∉ (closings past s).map (·.2)
  /-- Every session that was opened has come to one end, unless a call is in progress. -/
  settled : AtRest s → ∀ home, ∀ session ∈ opened home past, ∃! fate : Fate,
    fate.Befalls home past s session

/-- Every session is closed once at most, and none is lost other than with a pool that is given up
on its own worker, if no session breaks off while it is closed and fewer than `2 ^ 64` keys of each
pool were drawn. -/
theorem fates (run : Run past s) (calm : Calm past)
    (few : ∀ home, (enrolled home past).length < UInt64.size) : Fates past s where
  once := run.closings_nodup few calm
  detached home session h := run.not_closed_of_detached few calm h
  pooled home p alive built session h := by
    obtain ⟨known, stays⟩ := run.pooled built (few home) calm alive h
    exact run.not_closed_of_stays few calm known stays
  leased l hl session holds := by
    obtain ⟨known, -, stays⟩ := run.leased (few l.home) calm hl rfl holds
    exact run.not_closed_of_stays few calm ⟨_, known⟩ stays
  settled rest home session h := by
    rcases run.opened h with ⟨key, known⟩ | ⟨i, call, was, -, task⟩
    · simp only [rest.befalls_iff run few calm known]
      exact Fate.existsUnique_tells _ _ _ _
    · -- its acquirer would be in progress
      have resting := rest call (List.mem_of_getElem? was)
      rw [task] at resting
      cases resting

/-- Of three sessions the first is taken out, the second is given back, and the third is still lent
when the pool is given up, which does not wait for it. -/
def scattering : List (Choice Nat) :=
  List.flatten [
    [.build
      { settings := { maxConnections := 3, shutdownTimeout := some .zero }
        source := some .server }],
    lending 1 10, lending 2 20, lending 3 30, [.begin (.surrender 0)], steps 4 4,
    [.finish 4, .begin (.dropLease 0)], steps 5 4, [.finish 5, .drop 0 false], steps 6 2,
    steps 0 3, steps 6 3,
    [.answer 6 (.closed (.value ()))], steps 6 5, [.finish 6]]

theorem fates_of_scattering :
    ∃ past s, Run (S := Nat) past s ∧ Calm past ∧
      (∀ home, (enrolled home past).length < UInt64.size) ∧ AtRest s ∧
      opened 0 past = [30, 20, 10] ∧ Fate.detached.Befalls 0 past s 10 ∧
      Fate.closed.Befalls 0 past s 20 ∧ Fate.outlived.Befalls 0 past s 30 ∧ Fates past s := by
  have h : ((play scattering).any fun r => decide (r.1.length = 68 ∧ Calm r.1 ∧ AtRest r.2 ∧
      opened 0 r.1 = [30, 20, 10] ∧ 10 ∈ detachedIn 0 r.1 ∧ (0, 20) ∈ closings r.1 r.2 ∧
      r.2.alive 0 = false ∧ ∃ l ∈ r.2.leases, l.home = 0 ∧ l.session = some 30)) = true := by
    decide +kernel
  obtain ⟨⟨past, s⟩, played, h⟩ := (Option.any_eq_true _ _).1 h
  obtain ⟨length, calm, rest, opened, detached, closed, outlived⟩ := of_decide_eq_true h
  have run := run_of_play played
  have few (home : PoolId) : (enrolled home past).length < UInt64.size :=
    Nat.lt_of_le_of_lt (length_enrolled_le home past) (by rw [length]; decide)
  exact ⟨past, s, run, calm, few, rest, opened, detached, closed, outlived, fates run calm few⟩

/-- A session is idle and is being probed when the pool is given up on the worker that probes it. -/
def abandonment : List (Choice Nat) :=
  List.flatten [
    [.build { settings := { heartbeatInterval := .moment }, source := some .server }], lending 1 10,
    [.begin (.dropLease 0)], steps 2 4, [.finish 2], steps 0 2, [.pass (.ofSeconds 1)], steps 0 5,
    [.drop 0 true], steps 3 3, [.finish 3, .answer 0 (.queried (.value ()))], steps 0 10]

/-- No session breaks off, and no call is in progress; but a session that was opened is in no pool
that exists, no lease has it, no caller has taken it out, and no call has closed it. -/
theorem exists_left_behind :
    ∃ past s, Run (S := Nat) past s ∧ Calm past ∧ AtRest s ∧ opened 0 past = [10] ∧
      s.alive 0 = false ∧ s.allLeases = [] ∧ detachedIn 0 past = [] ∧ closings past s = [] := by
  have h : ((play abandonment).any fun r => decide (Calm r.1 ∧ AtRest r.2 ∧ opened 0 r.1 = [10] ∧
      r.2.alive 0 = false ∧ r.2.allLeases = [] ∧ detachedIn 0 r.1 = [] ∧
      closings r.1 r.2 = [])) = true := by
    decide +kernel
  obtain ⟨⟨past, s⟩, played, h⟩ := (Option.any_eq_true _ _).1 h
  exact ⟨past, s, run_of_play played, of_decide_eq_true h⟩

end Interleaving

end ConnectionPool
