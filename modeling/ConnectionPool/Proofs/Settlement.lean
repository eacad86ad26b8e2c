import ConnectionPool.Proofs.Departures

set_option autoImplicit false

/-! # Every loan is settled once

A loan begins when an acquirer hands a lease over, and it is settled when the pool that made it
takes the session back or lets it go. If that pool is gone by then, the loan is settled all the
same: the session is closed, or stays with the caller who took it out. These are the deeds of a key
(`deeds`), and in every run they take turns: after a loan comes its settlement, in one of the four
ways, before the next loan (`Accountable.turns`).

Until then one lease holds the session, or a call that was handed it by a lease has still to settle
it; the keys of these loans are unsettled (`State.unsettled`). Every other lease with that key is
empty, and to give an empty lease back does nothing. -/

namespace ConnectionPool

/-- How a loan is settled. -/
inductive Way where
  /-- The pool takes the session back. -/
  | takenBack
  /-- The pool lets the session go. -/
  | letGo
  /-- The pool is gone, and the session is closed. -/
  | closed
  /-- The pool is gone, and the session stays with the caller who took it out. -/
  | kept
  deriving DecidableEq, Repr

/-- What may happen to the key of a session. -/
inductive Deed where
  | lent
  | settled (way : Way)
  deriving DecidableEq, Repr

variable {S : Type}

/-- The loan that the next step settles, and how. -/
def Return.settles? (alive : Bool) : Return S → Option (SessionKey × Way)
  | reach _ key => if alive then none else some (key, .closed)
  | release (.takeBack key) => some (key, .takenBack)
  | _ => none

def Transfer.settles? (alive : Bool) : Transfer S → Option (SessionKey × Way)
  | replace _ _ giving | refuse _ giving | abandon _ _ giving => giving.settles? alive
  | done _ _ => none

def Surrender.settles? (alive : Bool) : Surrender S → Option (SessionKey × Way)
  | reach _ key => if alive then none else some (key, .kept)
  | detach _ (.letGo key) => some (key, .letGo)
  | _ => none

namespace Interleaving

/-- The keys of loans that a call is to settle. -/
def Role.claims : Role S → List SessionKey
  | claim key => [key]
  | _ => []

namespace Task

def settles? (alive : Bool) : Task S → Option (SessionKey × Way)
  | giveBack _ r => r.settles? alive
  | transfer t => t.settles? alive
  | surrender d => d.settles? alive
  | _ => none

/-- Whether the call is about a lease that a caller has already. -/
def onLease : Task S → Bool
  | giveBack _ _ | transfer _ | surrender _ => true
  | _ => false

end Task

namespace State

/-- What a choice does to a key of the pool. -/
def deed? (s : State S) (home : PoolId) : Choice S → Option (SessionKey × Deed)
  | .step i _ _ => do
    let call ← s.calls[i]?
    if call.home = home then (call.task.settles? (s.alive home)).map fun e =>
      (e.1, .settled e.2) else none
  | .finish i => do
    let call ← s.calls[i]?
    if call.home = home then call.task.loan?.map fun loan => (loan.info.key, .lent) else none
  | _ => none

/-- The keys of the loans of a pool that are not settled: leases hold the sessions, or calls are to
settle them. -/
def unsettled (s : State S) (home : PoolId) : List SessionKey := s.keysBy Role.claims home

end State

/-- What has happened to a key of the pool, the latest first. -/
def deeds (home : PoolId) (key : SessionKey) (past : List (State S × Choice S)) : List Deed :=
  past.filterMap fun e => (e.1.deed? home e.2).bind fun d => if d.1 = key then some d.2 else none

/-- The lease in this place has the session of a key of the pool. -/
def Holds (s : State S) (home : PoolId) (key : SessionKey) (n : Nat) : Prop :=
  ∃ l session, s.leases[n]? = some l ∧ l.home = home ∧ l.info.key = key ∧ l.get = .ok session

variable {v : View S} {home : PoolId} {past : List (State S × Choice S)}
  {s s' : State S} {c : Choice S} {p p' : Pool S} {key : SessionKey} {way : Way} {reply : Reply S}

/-! ## Claims -/

theorem Role.claims_of_keys {r : Role S} (h : Role.keys r = []) : r.claims = [] := by
  cases r with
  | claim => cases h
  | _ => rfl

theorem Task.claims_of_not_onLease {t : Task S} (h : t.onLease = false) : t.role.claims = [] := by
  cases t with
  | acquire a =>
    cases a with
    | countFailure reason slot => cases slot <;> rfl
    | done outcome =>
      cases outcome with
      | value loan? => cases loan? <;> rfl
      | _ => rfl
    | _ => rfl
  | cycle b => cases b <;> rfl
  | work w =>
    cases w with
    | cycle nominal busy b => cases b <;> rfl
    | _ => rfl
  | resize u => cases u <;> rfl
  | shutDown d | drop d => cases d <;> rfl
  | returned => rfl
  | _ => cases h

/-- An answer settles no loan. -/
theorem Task.claims_of_answer {t t' : Task S} (h : t.answer reply = some t') :
    t.role.claims = [] ∧ t'.role.claims = [] := by
  cases t with
  | giveBack kept r =>
    obtain ⟨u, hu, rfl⟩ := Option.map_eq_some_iff.1 h
    obtain ⟨none, none', -⟩ := Return.spoils_of_answer hu
    exact ⟨Role.claims_of_keys none, Role.claims_of_keys none'⟩
  | transfer t =>
    obtain ⟨u, hu, rfl⟩ := Option.map_eq_some_iff.1 h
    obtain ⟨none, none', -⟩ := Transfer.spoils_of_answer hu
    exact ⟨Role.claims_of_keys none, Role.claims_of_keys none'⟩
  | surrender d =>
    obtain ⟨u, hu, rfl⟩ := Option.map_eq_some_iff.1 h
    exact (Surrender.not_answer hu).elim
  | resize | returned => cases h
  | _ =>
    obtain ⟨u, -, rfl⟩ := Option.map_eq_some_iff.1 h
    exact ⟨claims_of_not_onLease rfl, claims_of_not_onLease rfl⟩

end Interleaving

open Interleaving (Task)

variable {v : View S} {p p' : Pool S}

/-- A step that settles a loan gives up a claim, and no other step does. -/
theorem Return.claims_of_step {r r' : Return S} (h : r.step v p = some (p', r')) :
    r.role.claims = ((r.settles? v.alive).map (·.1)).toList ++ r'.role.claims := by
  cases r with
  | reach session key =>
    cases h
    cases alive : v.alive <;> simp [settles?, role, Release.role, Interleaving.Role.claims]
  | release r =>
    rcases release_of_step h with ⟨outcome, rfl, rfl, rfl⟩ | ⟨u, hu, rfl⟩
    · rfl
    · cases r with
      | takeBack key =>
        have none : u.role.claims = [] := by
          simp only [Release.step] at hu
          split at hu <;> cases hu <;> rfl
        simp only [role, none]
        rfl
      | close | done => cases hu
      | _ =>
        cases hu
        rfl
  | close | done => cases h

theorem Surrender.claims_of_step {d d' : Surrender S} (h : d.step v p = some (p', d')) :
    d.role.claims = ((d.settles? v.alive).map (·.1)).toList ++ d'.role.claims := by
  cases d with
  | reach session key =>
    cases h
    cases alive : v.alive <;> simp [settles?, role, Detach.role, Interleaving.Role.claims]
  | detach session d =>
    rcases detach_of_step h with ⟨outcome, rfl, rfl, rfl⟩ | ⟨u, hu, rfl⟩
    · rfl
    · cases d with
      | letGo key =>
        have none : (u.role : Interleaving.Role S).claims = [] := by
          simp only [Detach.step] at hu
          split at hu <;> cases hu <;> rfl
        simp only [role, none]
        rfl
      | announce =>
        cases hu
        rfl
      | done => cases hu
  | done => cases h

/-- A session that is given back is taken back by its pool, or closed if the pool is gone. -/
theorem Return.settles_of_step {r r' : Return S} {key : SessionKey} {way : Way}
    (h : r.step v p = some (p', r')) (settled : r.settles? v.alive = some (key, way))
    (mine : ∀ key, r.role = .claim key → ∃ record, p.active.find? key = some record) :
    (way = .takenBack ∧ r.holdsPool = true ∧
      ∃ rejected, p.takeBack key v.connected v.now = some (p', rejected)) ∨
    (way = .closed ∧ v.alive = false ∧ p' = p ∧ ∃ session, r.vouched? = some (key, session) ∧
      r' = close session) := by
  cases r with
  | reach session k =>
    cases h
    simp only [settles?] at settled
    split at settled
    · cases settled
    · next gone =>
      cases settled
      refine .inr ⟨rfl, by simpa using gone, rfl, session, rfl, by simp [gone]⟩
  | release r =>
    cases r with
    | takeBack k =>
      cases settled
      obtain ⟨record, found⟩ := mine key rfl
      obtain ⟨u, hu, rfl⟩ := exists_of_map_step h
      simp only [Release.step] at hu
      split at hu
      · next refused =>
        rw [Pool.find?_of_takeBack_eq_none refused] at found
        cases found
      · next taken =>
        cases hu
        exact .inl ⟨rfl, rfl, _, taken⟩
      · next taken =>
        cases hu
        exact .inl ⟨rfl, rfl, _, taken⟩
    | _ => cases settled
  | close | done => cases settled

/-- A session that is taken out is let go by its pool, or kept if the pool is gone. -/
theorem Surrender.settles_of_step {d d' : Surrender S} {key : SessionKey} {way : Way}
    (h : d.step v p = some (p', d')) (settled : d.settles? v.alive = some (key, way))
    (mine : ∀ key, d.role = .claim key → ∃ record, p.active.find? key = some record) :
    (way = .letGo ∧ d.holdsPool = true ∧ p.letGo key = some p') ∨
    (way = .kept ∧ v.alive = false ∧ p' = p ∧
      ∃ session, d.vouched? = some (key, session) ∧ d' = done (.value session)) := by
  cases d with
  | reach session k =>
    cases h
    simp only [settles?] at settled
    split at settled
    · cases settled
    · next gone =>
      cases settled
      exact .inr ⟨rfl, by simpa using gone, rfl, session, rfl, by simp [gone]⟩
  | detach session d =>
    cases d with
    | letGo k =>
      cases settled
      obtain ⟨record, found⟩ := mine key rfl
      obtain ⟨u, hu, rfl⟩ := exists_of_map_step h
      simp only [Detach.step] at hu
      split at hu
      · next refused =>
        rw [Pool.find?_of_letGo_eq_none refused] at found
        cases found
      · next gone =>
        cases hu
        exact .inl ⟨rfl, rfl, gone⟩
    | _ => cases settled
  | done => cases settled

namespace Interleaving

variable {home : PoolId} {past : List (State S × Choice S)} {s s' : State S} {c : Choice S}
  {key : SessionKey} {way : Way}

/-- What a step of a call does that settles a loan. -/
inductive Task.Settles (v : View S) (p : Pool S) (t : Task S) (p' : Pool S) (t' : Task S)
    (key : SessionKey) : Way → Prop
  | takenBack {rejected : Option S} (keeps : t.keeps = true)
      (taken : p.takeBack key v.connected v.now = some (p', rejected)) :
      Settles v p t p' t' key .takenBack
  | letGo (keeps : t.keeps = true) (gone : p.letGo key = some p') : Settles v p t p' t' key .letGo
  | closed {session : S} (gone : v.alive = false) (same : p' = p)
      (own : t.vouched? = some (key, session)) (closes : t'.closing? = some session) :
      Settles v p t p' t' key .closed
  | kept {session : S} (gone : v.alive = false) (same : p' = p)
      (own : t.vouched? = some (key, session)) (keeps : t' = .surrender (.done (.value session))) :
      Settles v p t p' t' key .kept

theorem Task.settles_of_deed {t t' : Task S} (h : t.step v p = some (p', t'))
    (settled : t.settles? v.alive = some (key, way))
    (mine : ∀ key, t.role = .claim key → ∃ record, p.active.find? key = some record) :
    t.Settles v p p' t' key way := by
  cases t with
  | giveBack kept r =>
    obtain ⟨u, hu, rfl⟩ := exists_of_map_step h
    rcases Return.settles_of_step hu settled mine with ⟨rfl, keeps, rejected, taken⟩ |
      ⟨rfl, gone, same, session, own, rfl⟩
    · exact .takenBack keeps taken
    · exact .closed gone same own rfl
  | transfer t =>
    obtain ⟨u, hu, rfl⟩ := exists_of_map_step h
    cases Transfer.steps_of_step hu with
    | giving around did =>
      -- all phases of a transfer give a session back in the same way
      cases around <;>
        rcases Return.settles_of_step did settled mine with ⟨rfl, keeps, rejected, taken⟩ |
          ⟨rfl, gone, same, session, own, rfl⟩
      all_goals first
        | exact .takenBack keeps taken
        | exact .closed gone same own rfl
    | _ => cases settled
  | surrender d =>
    obtain ⟨u, hu, rfl⟩ := exists_of_map_step h
    rcases Surrender.settles_of_step hu settled mine with
      ⟨rfl, keeps, gone⟩ | ⟨rfl, gone, same, session, own, rfl⟩
    · exact .letGo keeps gone
    · exact .kept gone same own rfl
  | _ => cases settled

/-- A call that passes the source of a transfer on settles nothing. -/
theorem HandsOver.settles? {t t' : Task S} (h : HandsOver t t') (alive : Bool) :
    t.settles? alive = none := by
  cases h <;> rfl

theorem Task.claims_of_step {t t' : Task S} (h : t.step v p = some (p', t')) :
    (t'.leases = t.leases ∧
      t.role.claims = ((t.settles? v.alive).map (·.1)).toList ++ t'.role.claims) ∨
      HandsOver t t' := by
  cases t with
  | giveBack kept r =>
    obtain ⟨u, hu, rfl⟩ := exists_of_map_step h
    exact .inl ⟨rfl, Return.claims_of_step hu⟩
  | transfer t =>
    obtain ⟨u, hu, rfl⟩ := exists_of_map_step h
    cases Transfer.steps_of_step hu with
    | giving around did => cases around <;> exact .inl ⟨rfl, Return.claims_of_step did⟩
    | @replaced old source given =>
      refine .inr ?_
      cases given with
      | panic text => exact .abandoned
      | _ => exact .settled
    | @refused target given => cases given <;> exact .inl ⟨rfl, rfl⟩
    | abandoned => exact .inl ⟨rfl, rfl⟩
  | surrender d =>
    obtain ⟨u, hu, rfl⟩ := exists_of_map_step h
    exact .inl ⟨rfl, Surrender.claims_of_step hu⟩
  | returned => cases h
  | _ =>
    obtain ⟨u, -, rfl⟩ := exists_of_map_step h
    refine .inl ⟨rfl, ?_⟩
    rw [claims_of_not_onLease rfl, claims_of_not_onLease rfl]
    rfl

/-! ## What a choice does to the unsettled loans -/

/-- How the unsettled loans of a pool change, given what was done to a key. -/
inductive Bearing (home : PoolId) (s s' : State S) : Option (SessionKey × Deed) → Prop
  | still (same : ∀ key, (s'.unsettled home).count key = (s.unsettled home).count key) :
      Bearing home s s' none
  | lends {k : SessionKey}
      (more : ∀ key, (s'.unsettled home).count key = (s.unsettled home).count key + [k].count key) :
      Bearing home s s' (some (k, .lent))
  | settles {k : SessionKey} {way : Way}
      (less : ∀ key, (s.unsettled home).count key = (s'.unsettled home).count key + [k].count key) :
      Bearing home s s' (some (k, .settled way))

theorem Bearing.of_step {i : Nat} {connected : S → Bool} {contended : Bool}
    {call : Call S} {site : Site S} {t' : Task S} (g : Grounded s)
    (atWork : s.calls[i]? = some call)
    (did : call.task.step (s.view call connected contended) p = some (p', t')) (home : PoolId) :
    Bearing home s (s.put i call site p' t') (s.deed? home (.step i connected contended)) := by
  have deed : s.deed? home (.step i connected contended) =
      if call.home = home then
        (call.task.settles? (s.alive home)).map fun e => (e.1, .settled e.2)
      else none := by
    simp [State.deed?, atWork]
  rw [deed]
  rcases Task.claims_of_step did with ⟨leases, claims⟩ | hands
  · have moved (key : SessionKey) :=
      State.count_keysBy_set (f := Role.claims)
        (s.put i call site p' t') rfl atWork leases rfl rfl home key
    by_cases at_ : call.home = home
    · subst at_
      rw [if_pos rfl]
      simp only [if_true, claims, List.count_append] at moved
      cases settled : call.task.settles? (s.alive call.home) with
      | none =>
        refine .still fun key => ?_
        have := moved key
        simp only [State.view, settled, Option.map_none, Option.toList_none, List.count_nil] at this
        rw [State.unsettled, State.unsettled]
        omega
      | some e =>
        refine .settles fun key => ?_
        have := moved key
        simp only [State.view, settled, Option.map_some, Option.toList_some] at this
        rw [State.unsettled, State.unsettled]
        omega
    · rw [if_neg at_]
      simp only [if_neg at_] at moved
      exact .still moved
  · rw [hands.settles?]
    simp only [Option.map_none, ite_self]
    exact .still fun key =>
      State.count_keysBy_handsOver (f := Role.claims)
        (fun _ => rfl) rfl g atWork hands home key rfl rfl

theorem Bearing.of_finish {i : Nat} {call : Call S} (atWork : s.calls[i]? = some call)
    (ended : call.task.isEnded = true) (home : PoolId) : Bearing home s
      { s with
        leases := s.leases ++ call.yields
        calls := s.calls.set i { call with task := .returned } }
      (s.deed? home (.finish i)) := by
  have deed : s.deed? home (.finish i) =
      if call.home = home then call.task.loan?.map fun loan => (loan.info.key, .lent)
      else none := by
    simp [State.deed?, atWork]
  have shown (loans : List (Record S)) : (loans.map Role.loan).flatMap Role.claims = [] := by
    induction loans with
    | nil => rfl
    | cons r rest ih => rw [List.map_cons, List.flatMap_cons, ih]; rfl
  have moved (key : SessionKey) := State.count_keysBy_finish (f := Role.claims) rfl atWork home key
  simp only [roleAt_of_isEnded ended, shown, List.count_nil, Nat.add_zero] at moved
  rw [deed]
  by_cases at_ : call.home = home
  · simp only [if_pos at_] at moved ⊢
    cases lent : call.task.loan? with
    | none => exact .still fun key => by simpa [lent, State.unsettled] using moved key
    | some loan => exact .lends fun key => by simpa [lent, State.unsettled] using moved key
  · simp only [if_neg at_] at moved ⊢
    exact .still moved

theorem bearing_of_act (g : Grounded s) (act : s.act c = some s') (home : PoolId) :
    Bearing home s s' (s.deed? home c) := by
  cases happens_of_act act with
  | pass | adjust => exact .still fun _ => rfl
  | build =>
    refine .still fun key => ?_
    simp [State.unsettled, State.keysBy, State.held, State.roles, Call.held, Call.roleAt,
      Task.leases, Task.role, Worker.role, Role.toList]
  | begin admitted =>
    exact .still fun key =>
      State.count_keysBy_begin (f := Role.claims) (fun _ => rfl) admitted home key
  | drop =>
    refine .still fun key => ?_
    simp [State.unsettled, State.keysBy, State.held, State.roles, Call.held, Call.roleAt,
      Task.leases, Task.role, Shutdown.role, Role.toList]
  | step atWork found did => exact .of_step g atWork did home
  | @answer i reply call site t' atWork found did =>
    obtain ⟨none, none'⟩ := Task.claims_of_answer did
    have leases : t'.leases = call.task.leases :=
      (@Task.moves_of_answer _ (s.view call (fun _ => false) false) site.pool _ _ _ did).1
    refine .still fun key => ?_
    have moved := State.count_keysBy_set (f := Role.claims) { s.put i call site site.pool t' with
      delivered := reply.delivery.toList ++ s.delivered } rfl atWork leases rfl rfl home key
    rw [none, none'] at moved
    exact Nat.add_right_cancel moved
  | finish atWork ended => exact .of_finish atWork ended home

/-! ## Loans and settlements take turns -/

theorem Role.count_claims_le (roles : List (Role S)) (key : SessionKey) :
    (roles.flatMap Role.claims).count key ≤ (roles.flatMap Role.stakes).count key := by
  induction roles with
  | nil => exact Nat.le_refl _
  | cons r rest ih =>
    rw [List.flatMap_cons, List.flatMap_cons, List.count_append, List.count_append]
    refine Nat.add_le_add ?_ ih
    cases r with
    | claim => exact Nat.le_refl _
    | _ => exact Nat.zero_le _

/-- A key has one unsettled loan at most. -/
theorem Run.unsettled_nodup (run : Run past s) (few : (enrolled home past).length < UInt64.size) :
    (s.unsettled home).Nodup := by
  refine List.nodup_iff_count_le_one.2 fun key => ?_
  cases built : s.pool? home with
  | none =>
    obtain ⟨held, roles⟩ := run.grounded.vacant built
    rw [State.unsettled, State.keysBy, held, roles]
    exact Nat.zero_le _
  | some p =>
    -- whoever is to settle a loan owns the session
    obtain ⟨-, -, owned⟩ := run.custody built few
    have one :
        ((s.held home).map (·.info.key) ++ (s.roles home).flatMap Role.stakes).count key ≤ 1 :=
      owned.most_one key
    have less := Role.count_claims_le (s.roles home) key
    rw [List.count_append] at one
    rw [State.unsettled, State.keysBy, List.count_append]
    omega

theorem deeds_cons : deeds home key ((s, c) :: past) =
    ((s.deed? home c).bind fun d => if d.1 = key then some d.2 else none).toList ++
      deeds home key past :=
  filterMap_cons_toList _ _ _

/-- After a loan comes its settlement, and then the next loan. -/
theorem Run.turns (run : Run past s) (few : (enrolled home past).length < UInt64.size)
    (key : SessionKey) : ∃ ways : List Way, deeds home key past =
      (if key ∈ s.unsettled home then [.lent] else []) ++
        ways.flatMap fun way => [.settled way, .lent] := by
  induction run with
  | start now => exact ⟨[], rfl⟩
  | @next past s s' c run fresh act ih =>
    obtain ⟨ways, turns⟩ := ih (few_of_cons few)
    have once := List.nodup_iff_count_le_one.1 (run.unsettled_nodup (few_of_cons few)) key
    have once' := List.nodup_iff_count_le_one.1 ((run.next fresh act).unsettled_nodup few) key
    have bearing := bearing_of_act run.grounded act home
    rw [deeds_cons, turns]
    generalize s.deed? home c = deed at bearing
    simp only [← List.count_pos_iff]
    cases bearing with
    | still same => exact ⟨ways, by rw [same]; rfl⟩
    | @lends k more =>
      refine ⟨ways, ?_⟩
      by_cases same : k = key
      · subst same
        -- the loan before is settled, or there would be two
        have new := more k
        rw [List.count_singleton_self] at new
        rw [if_neg (by omega), if_pos (by omega)]
        simp
      · have other : [k].count key = 0 := List.count_eq_zero.2 (by simpa using Ne.symm same)
        rw [more, other, Nat.add_zero, Option.bind_some, if_neg same]
        rfl
    | @settles k way less =>
      by_cases same : k = key
      · subst same
        have old := less k
        rw [List.count_singleton_self] at old
        refine ⟨way :: ways, ?_⟩
        rw [if_pos (by omega), if_neg (by omega)]
        simp
      · have other : [k].count key = 0 := List.count_eq_zero.2 (by simpa using Ne.symm same)
        refine ⟨ways, ?_⟩
        rw [less, other, Nat.add_zero, Option.bind_some, if_neg same]
        rfl

/-! ## What settling does -/

/-- How the loan of a key is settled from one state to the next. -/
inductive SettledBy (home : PoolId) (past : List (State S × Choice S)) (s s' : State S)
    (key : SessionKey) : Way → Prop
  | takenBack {p p' : Pool S} {connected : S → Bool} {rejected : Option S}
      (alive : s.alive home = true) (built : s.pool? home = some p)
      (built' : s'.pool? home = some p')
      (taken : p.takeBack key connected s.now = some (p', rejected)) :
      SettledBy home past s s' key .takenBack
  | letGo {p p' : Pool S} (alive : s.alive home = true) (built : s.pool? home = some p)
      (built' : s'.pool? home = some p') (gone : p.letGo key = some p') :
      SettledBy home past s s' key .letGo
  | closed {session : S} (gone : s.alive home = false) (same : ∀ at_, s'.pool? at_ = s.pool? at_)
      (known : (key, session) ∈ enrolled home past)
      (closes : ∃ call ∈ s'.calls, call.home = home ∧ call.task.closing? = some session) :
      SettledBy home past s s' key .closed
  | kept {session : S} (gone : s.alive home = false) (same : ∀ at_, s'.pool? at_ = s.pool? at_)
      (known : (key, session) ∈ enrolled home past)
      (keeps : ∃ call ∈ s'.calls, call.home = home ∧
      call.task = .surrender (.done (.value session))) :
      SettledBy home past s s' key .kept

theorem Run.settledBy (run : Run past s) (few : (enrolled home past).length < UInt64.size)
    (act : s.act c = some s') (deed : s.deed? home c = some (key, .settled way)) :
    SettledBy home past s s' key way := by
  cases happens_of_act act with
  | @step i connected contended call site p' t' atWork found did =>
    simp only [State.deed?, atWork, Option.bind_eq_bind, Option.bind_some] at deed
    split at deed
    · next at_ =>
      subst at_
      obtain ⟨⟨k, w⟩, settled, same⟩ := Option.map_eq_some_iff.1 deed
      cases same
      have sound := run.sound atWork found few
      have after : (s.put i call site p' t').pool? call.home = some p' :=
        (State.pool?_put found _).trans (if_pos rfl)
      have mem : ({ call with task := t' } : Call S) ∈ (s.put i call site p' t').calls :=
        List.mem_set (List.getElem?_eq_some_iff.1 atWork).1 _
      have alive (keeps : call.task.keeps = true) : s.alive call.home = true :=
        State.alive_iff.2 (.inr ⟨call, List.mem_of_getElem? atWork, rfl, keeps⟩)
      have unchanged (same : p' = site.pool) (at_ : PoolId) :
          (s.put i call site p' t').pool? at_ = s.pool? at_ :=
        State.pool?_of_set_same found same
      cases Task.settles_of_deed did settled sound.mine with
      | takenBack keeps taken =>
        exact .takenBack (alive keeps) (State.pool?_of_site found) after taken
      | letGo keeps gone => exact .letGo (alive keeps) (State.pool?_of_site found) after gone
      | closed gone same own closes =>
        exact .closed gone (unchanged same) (sound.vouched _ own) ⟨_, mem, rfl, closes⟩
      | kept gone same own keeps =>
        exact .kept gone (unchanged same) (sound.vouched _ own) ⟨_, mem, rfl, keeps⟩
    · cases deed
  | @finish i call atWork ended =>
    simp only [State.deed?, atWork, Option.bind_eq_bind, Option.bind_some] at deed
    split at deed
    · obtain ⟨loan, -, same⟩ := Option.map_eq_some_iff.1 deed
      cases same
    · cases deed
  | _ => cases deed

/-! ## Who holds a session until then -/

/-- No call about a lease is in progress: every lease is with its holder. -/
def AtHand (s : State S) : Prop := ∀ call ∈ s.calls, call.task.onLease = false

instance : Decidable (AtHand s) :=
  inferInstanceAs (Decidable (∀ call ∈ s.calls, call.task.onLease = false))

theorem Task.leases_of_not_onLease {t : Task S} (h : t.onLease = false) : t.leases = [] := by
  cases t with
  | giveBack | transfer | surrender => cases h
  | _ => rfl

/-- The key of the session that a lease of the pool has. -/
def key? (home : PoolId) (l : Lease S) : Option SessionKey := (record? home l).map (·.info.key)

theorem key?_eq_some_iff {l : Lease S} :
    key? home l = some key ↔ l.home = home ∧ l.info.key = key ∧ ∃ session, l.get = .ok session := by
  obtain ⟨at_, session, info⟩ := l
  cases session <;> simp [key?, record?, Lease.get]

theorem holds_iff {n : Nat} :
    Holds s home key n ↔ ∃ l, s.leases[n]? = some l ∧ key? home l = some key := by
  simp only [key?_eq_some_iff]
  exact ⟨fun ⟨l, session, found, at_, own, got⟩ => ⟨l, found, at_, own, session, got⟩,
    fun ⟨l, found, at_, own, session, got⟩ => ⟨l, session, found, at_, own, got⟩⟩

/-- The leases that callers hold come first among the unsettled loans. -/
theorem State.unsettled_eq (s : State S) (home : PoolId) :
    s.unsettled home = s.leases.filterMap (key? home) ++
      ((s.calls.flatMap (Call.held home)).map (·.info.key) ++
        (s.roles home).flatMap Role.claims) := by
  rw [unsettled, keysBy, held, List.map_append, List.map_filterMap, List.append_assoc]
  rfl

theorem AtHand.unsettled (hand : AtHand s) (home : PoolId) :
    s.unsettled home = s.leases.filterMap (key? home) := by
  have held : s.calls.flatMap (Call.held home) = [] := by
    refine List.flatMap_eq_nil_iff.2 fun call hc => ?_
    rw [Call.held, Task.leases_of_not_onLease (hand call hc)]
    rfl
  have claims : (s.roles home).flatMap Role.claims = [] := by
    rw [State.roles, List.flatMap_assoc]
    refine List.flatMap_eq_nil_iff.2 fun call hc => ?_
    rw [Call.flatMap_roleAt rfl, Task.claims_of_not_onLease (hand call hc), ite_self]
  rw [s.unsettled_eq, held, claims, List.map_nil, List.append_nil, List.append_nil]

/-- Whatever two entries are mapped to is twice among the images. -/
theorem eq_of_nodup_filterMap {α β : Type} {f : α → Option β} {l : List α}
    (once : (l.filterMap f).Nodup) {m n : Nat} {a b : α} {x : β} (at_m : l[m]? = some a)
    (at_n : l[n]? = some b) (ha : f a = some x)
    (hb : f b = some x) : m = n := by
  obtain ⟨hm, rfl⟩ := List.getElem?_eq_some_iff.1 at_m
  obtain ⟨hn, rfl⟩ := List.getElem?_eq_some_iff.1 at_n
  have apart := List.pairwise_iff_getElem.1 (List.pairwise_filterMap.1 once)
  rcases Nat.lt_trichotomy m n with less | same | more
  · exact (apart m n hm hn less x ha x hb rfl).elim
  · exact same
  · exact (apart n m hn hm more x hb x ha rfl).elim

section

variable (run : Run past s) (few : (enrolled home past).length < UInt64.size)
include run few

/-- No two leases hold one session. -/
theorem Run.holds_unique {m n : Nat} (hm : Holds s home key m) (hn : Holds s home key n) :
    m = n := by
  obtain ⟨l, at_m, same⟩ := holds_iff.1 hm
  obtain ⟨l', at_n, same'⟩ := holds_iff.1 hn
  have once := run.unsettled_nodup few
  rw [s.unsettled_eq, List.nodup_append] at once
  exact eq_of_nodup_filterMap once.1 at_m at_n same same'

/-- Between calls one lease holds the session of an unsettled loan. -/
theorem Run.existsUnique_holds (hand : AtHand s) (owed : key ∈ s.unsettled home) :
    ∃! n, Holds s home key n := by
  rw [hand.unsettled] at owed
  obtain ⟨l, hl, same⟩ := List.mem_filterMap.1 owed
  obtain ⟨n, found⟩ := List.mem_iff_getElem?.1 hl
  have holds : Holds s home key n := holds_iff.2 ⟨l, found, same⟩
  exact ⟨n, holds, fun m hm => run.holds_unique few hm holds⟩

/-- All other leases with the key are empty. -/
theorem Run.get_of_elsewhere {n : Nat} {l : Lease S} (found : s.leases[n]? = some l)
    (at_ : l.home = home)
    (elsewhere : l.info.key ∉ s.unsettled home ∨ ∃ m, Holds s home l.info.key m ∧ m ≠ n) :
    l.get = .error .spentLease := by
  cases got : l.get with
  | ok session =>
    have holds : Holds s home l.info.key n := ⟨l, session, found, at_, rfl, got⟩
    rcases elsewhere with settled | ⟨m, hm, ne⟩
    · refine (settled ?_).elim
      rw [s.unsettled_eq]
      refine List.mem_append_left _ (List.mem_filterMap.2 ⟨l, List.mem_of_getElem? found, ?_⟩)
      exact key?_eq_some_iff.2 ⟨at_, rfl, session, got⟩
    · exact (ne (run.holds_unique few hm holds)).elim
  | error e =>
    unfold Lease.get at got
    split at got
    · cases got
    · cases got
      rfl

end

/-- Between calls all loans are settled once no lease holds a session. -/
theorem AtHand.unsettled_eq_nil (hand : AtHand s)
    (spent : ∀ l ∈ s.leases, l.home = home → l.get = .error .spentLease) :
    s.unsettled home = [] := by
  rw [hand.unsettled]
  refine List.filterMap_eq_nil_iff.2 fun l hl =>
    Option.eq_none_iff_forall_ne_some.2 fun key same => ?_
  obtain ⟨at_, -, session, got⟩ := key?_eq_some_iff.1 same
  rw [spent l hl at_] at got
  cases got

/-! ## Empty leases -/

theorem Task.giveBack_of_step {t : Task S} {kept : Option (Lease S)} {r : Return S}
    (h : t.step v p = some (p', .giveBack kept r)) : ∃ r₀, t = .giveBack kept r₀ := by
  cases t with
  | giveBack kept r₀ =>
    obtain ⟨u, -, same⟩ := exists_of_map_step h
    cases same
    exact ⟨r₀, rfl⟩
  | returned => cases h
  | _ =>
    obtain ⟨u, -, same⟩ := exists_of_map_step h
    cases same

theorem Task.giveBack_of_answer {t : Task S} {reply : Reply S}
    {kept : Option (Lease S)} {r : Return S} (h : t.answer reply = some (.giveBack kept r)) :
    ∃ r₀, t = .giveBack kept r₀ := by
  cases t with
  | giveBack kept r₀ =>
    obtain ⟨u, -, same⟩ := Option.map_eq_some_iff.1 h
    cases same
    exact ⟨r₀, rfl⟩
  | resize | returned => cases h
  | _ =>
    obtain ⟨u, -, same⟩ := Option.map_eq_some_iff.1 h
    cases same

/-- A lease that gives its session back is kept as an empty one. -/
theorem Run.get_of_giveBack (run : Run past s) {i : Nat} {call : Call S}
    {kept : Lease S} {r : Return S} (was : s.calls[i]? = some call)
    (task : call.task = .giveBack (some kept) r) : kept.get = .error .spentLease := by
  induction run generalizing call r with
  | start => simp at was
  | @next past s s' c run fresh act ih =>
    cases came_of_act act was with
    | stays was => exact ih was task
    | begins new =>
      rcases began_of_act act new ‹_› with ⟨builder, rfl, rfl⟩ | ⟨request, leases, rfl, admitted⟩ |
        ⟨at_, byWorker, rfl, rfl⟩
      · cases task
      · cases request with
        | acquire | acquireWithin | tryAcquire | resize | shutDown | cycle =>
          simp only [State.enter] at admitted
          split at admitted <;> cases admitted
          cases task
        | release =>
          obtain ⟨l, -, h⟩ := Option.bind_eq_some_iff.1 admitted
          cases h
          cases task
          rfl
        | dropLease | surrender =>
          obtain ⟨l, -, h⟩ := Option.bind_eq_some_iff.1 admitted
          cases h
          cases task
        | transfer =>
          obtain ⟨source, -, h⟩ := Option.bind_eq_some_iff.1 admitted
          obtain ⟨target, -, h⟩ := Option.bind_eq_some_iff.1 h
          cases h
          cases task
      · cases task
    | steps was _ _ did =>
      rw [task] at did
      obtain ⟨r₀, before⟩ := Task.giveBack_of_step did
      exact ih was before
    | hears was _ did =>
      rw [task] at did
      obtain ⟨r₀, before⟩ := Task.giveBack_of_answer did
      exact ih was before
    | ends _ _ last =>
      rw [last] at task
      cases task

/-- To give an empty lease back, or to drop it, is over at once, and no pool has taken part in
it. -/
theorem State.act_of_spent {n : Nat} {l : Lease S} (found : s.leases[n]? = some l)
    (spent : l.get = .error .spentLease) {request : Request} {kept : Option (Lease S)}
    (gives : request = .release n ∧ kept = some l ∨ request = .dropLease n ∧ kept = none) :
    s.act (.begin request) = some { s with
      leases := s.leases.eraseIdx n
      calls := s.calls ++ [⟨l.home, false, .giveBack kept (.done (.value ()))⟩] } := by
  have released : l.isReleased = true := by
    obtain ⟨at_, session, info⟩ := l
    cases session with
    | none => rfl
    | some => cases spent
  rcases gives with ⟨rfl, rfl⟩ | ⟨rfl, rfl⟩ <;>
    simp [State.act, State.enter, found, Lease.giveBack_of_isReleased released]

/-- A call that has ended does nothing more than to hand over what it works on. -/
theorem State.act_of_ended {i : Nat} {call : Call S} (was : s.calls[i]? = some call)
    (ended : call.task.isEnded = true) (connected : S → Bool) (contended : Bool) (reply : Reply S) :
    s.act (.step i connected contended) = none ∧ s.act (.answer i reply) = none := by
  have step (v : View S) (p : Pool S) : call.task.step v p = none := by
    generalize call.task = t at ended ⊢
    cases Task.ended_of_isEnded ended <;> rfl
  have answer : call.task.answer reply = none := by
    generalize call.task = t at ended ⊢
    cases Task.ended_of_isEnded ended <;> cases reply <;> rfl
  cases found : s.sites[call.home]? with
  | none => simp [State.act, State.advance, was, found]
  | some site => simp [State.act, State.advance, was, found, step, answer]

/-! ## In every run -/

/-- How the loans of a pool are settled, at some moment of a run. -/
structure Accountable (home : PoolId) (past : List (State S × Choice S)) (s : State S) : Prop where
  /-- After a loan comes its settlement, and then the next loan; so every loan is settled once at
  most, and those that are unsettled are the last ones of their keys. -/
  turns : ∀ key, ∃ ways : List Way, deeds home key past =
    (if key ∈ s.unsettled home then [.lent] else []) ++
      ways.flatMap fun way => [.settled way, .lent]
  /-- It is the pool that made the loan that settles it. When the pool is gone no pool takes part,
  and the session is closed or stays with the caller. -/
  settles : ∀ (c : Choice S) (s' : State S) key way, s.act c = some s' →
    s.deed? home c = some (key, .settled way) → SettledBy home past s s' key way
  /-- No key has two unsettled loans. -/
  once : (s.unsettled home).Nodup
  /-- Between calls one lease holds the session of an unsettled loan, -/
  held : AtHand s → ∀ key ∈ s.unsettled home, ∃! n, Holds s home key n
  /-- and what it holds is the session with that key. -/
  own : ∀ (n : Nat) (l : Lease S) (session : S), s.leases[n]? = some l → l.home = home →
    l.get = .ok session → (l.info.key, session) ∈ enrolled home past
  /-- Any other lease with the key is empty, and so is every lease whose loan is settled. -/
  spent : ∀ (n : Nat) (l : Lease S), s.leases[n]? = some l → l.home = home →
    (l.info.key ∉ s.unsettled home ∨ ∃ m, Holds s home l.info.key m ∧ m ≠ n) →
    l.get = .error .spentLease
  /-- When no lease has a session any more, all loans are settled. -/
  all : AtHand s → (∀ l ∈ s.leases, l.home = home → l.get = .error .spentLease) →
    s.unsettled home = []
  /-- A lease that gives its session back is empty from then on. -/
  emptied : ∀ (i : Nat) (call : Call S) kept r, s.calls[i]? = some call →
    call.task = .giveBack (some kept) r → kept.get = .error .spentLease
  /-- To give an empty lease back, or to drop it, changes no pool: the call has ended when it
  begins, -/
  inert : ∀ (n : Nat) (l : Lease S), s.leases[n]? = some l → l.get = .error .spentLease →
    ∀ request kept, (request = .release n ∧ kept = some l ∨ request = .dropLease n ∧ kept = none) →
      s.act (.begin request) = some { s with
        leases := s.leases.eraseIdx n
        calls := s.calls ++ [⟨l.home, false, .giveBack kept (.done (.value ()))⟩] }
  /-- and a call that has ended does nothing more than to hand over what it works on. -/
  ended : ∀ (i : Nat) (call : Call S), s.calls[i]? = some call → call.task.isEnded = true →
    ∀ connected contended reply,
      s.act (.step i connected contended) = none ∧ s.act (.answer i reply) = none

/-- Every loan of a pool is settled once, by the pool that made it or for want of that pool, in
every run in which fewer than `2 ^ 64` keys of the pool were drawn. -/
theorem settled_once (run : Run past s) (few : (enrolled home past).length < UInt64.size) :
    Accountable home past s where
  turns key := run.turns few key
  settles c s' key way act deed := run.settledBy few act deed
  once := run.unsettled_nodup few
  held hand key owed := run.existsUnique_holds few hand owed
  own n l session found at_ got := by
    subst at_
    refine run.known_of_lease few (List.mem_append_left _ (List.mem_of_getElem? found)) rfl ?_
    obtain ⟨at_, session?, info⟩ := l
    cases session? <;> cases got
    rfl
  spent n l found at_ elsewhere := run.get_of_elsewhere few found at_ elsewhere
  all hand spent := hand.unsettled_eq_nil spent
  emptied i call kept r was task := run.get_of_giveBack was task
  inert n l found spent request kept gives := State.act_of_spent found spent gives
  ended i call was ended connected contended reply :=
    State.act_of_ended was ended connected contended reply

/-- Of four sessions the second one moves into the lease of the first, which sends the first home,
and is then taken out. The others outlive the pool: one is closed, and the other stays with the
caller. -/
def settling : List (Choice Nat) :=
  List.flatten [
    [.build
      { settings := { maxConnections := 4, shutdownTimeout := some .zero }
        source := some .server }],
    lending 1 10, lending 2 20, lending 3 30, lending 4 40,
    [.begin (.transfer 0 1)], steps 5 5, [.finish 5, .begin (.surrender 2)], steps 6 4,
    [.finish 6, .drop 0 false],
    steps 7 2, steps 0 3, steps 7 3, [.answer 7 (.closed (.value ()))], steps 7 5,
    [.finish 7, .begin (.dropLease 0)], steps 8 1, [.answer 8 (.closed (.value ())), .finish 8],
    [.begin (.surrender 0)], steps 9 1, [.finish 9]]

theorem settled_once_of_settling :
    ∃ past s, Run (S := Nat) past s ∧ (enrolled 0 past).length < UInt64.size ∧ AtHand s ∧
      s.unsettled 0 = [] ∧ deeds 0 ⟨1⟩ past = [.settled .takenBack, .lent] ∧
      deeds 0 ⟨2⟩ past = [.settled .letGo, .lent] ∧
      deeds 0 ⟨3⟩ past = [.settled .closed, .lent] ∧ deeds 0 ⟨4⟩ past = [.settled .kept, .lent] ∧
      Accountable 0 past s := by
  have h : ((play settling).any fun r => decide
      (r.1.length = 89 ∧ AtHand r.2 ∧ r.2.unsettled 0 = [] ∧
        deeds 0 ⟨1⟩ r.1 = [.settled .takenBack, .lent] ∧
        deeds 0 ⟨2⟩ r.1 = [.settled .letGo, .lent] ∧
        deeds 0 ⟨3⟩ r.1 = [.settled .closed, .lent] ∧
        deeds 0 ⟨4⟩ r.1 = [.settled .kept, .lent])) = true := by
    decide +kernel
  obtain ⟨⟨past, s⟩, played, h⟩ := (Option.any_eq_true _ _).1 h
  obtain ⟨length, hand, none, first, second, third, fourth⟩ := of_decide_eq_true h
  have run := run_of_play played
  have few : (enrolled 0 past).length < UInt64.size :=
    Nat.lt_of_le_of_lt (length_enrolled_le 0 past) (by rw [length]; decide)
  exact ⟨past, s, run, few, hand, none, first, second, third, fourth, settled_once run few⟩

end Interleaving

end ConnectionPool
