import ConnectionPool.Proofs.Vouching

set_option autoImplicit false

/-! # No session is lost, and none is in two places

A session that has its key is in somebody's hands, or idle, or it has left: it was closed, or handed
to a caller, or some call has still to do so. Exactly one of this is true at any time (`Conserved`),
as long as no session breaks off while it is closed; a call that closes several sessions would
forget about the others. -/

namespace ConnectionPool

namespace Interleaving

variable {S : Type} {v : View S} {home : PoolId} {past : List (State S × Choice S)} {s s' : State S}
  {c : Choice S} {p p' : Pool S}

/-! ## Where the sessions of a pool are -/

/-- The session that a choice reports as closed, if a call on the pool was closing it. -/
def State.closes (s : State S) (home : PoolId) : Choice S → List S
  | .answer i (.closed _) =>
    match s.calls[i]? with
    | some call => if call.home = home then call.task.closing?.toList else []
    | none => []
  | _ => []

/-- The session that a choice hands to the caller who took it out of the pool. -/
def State.detaches (s : State S) (home : PoolId) : Choice S → List S
  | .finish i =>
    match s.calls[i]? with
    | some call => if call.home = home then call.task.freed else []
    | none => []
  | _ => []

/-- The sessions whose closing has ended, by calls on the pool, the latest first. -/
def closedIn (home : PoolId) (past : List (State S × Choice S)) : List S :=
  past.flatMap fun e => e.1.closes home e.2

/-- The sessions that were taken out of the pool for good, the latest first. -/
def detachedIn (home : PoolId) (past : List (State S × Choice S)) : List S :=
  past.flatMap fun e => e.1.detaches home e.2

/-- The sessions that a call on the pool has taken out, or found no place for. -/
def Call.settledAt (home : PoolId) (c : Call S) : List S :=
  if c.home = home then c.task.settled else []

/-- The sessions of the pool that have left it, or were never in it although they have their key. -/
def departed (home : PoolId) (past : List (State S × Choice S)) (s : State S) : List S :=
  closedIn home past ++ detachedIn home past ++ s.calls.flatMap (Call.settledAt home)

/-- The keys of the sessions that are in somebody's hands: those that leases hold, and those that
calls have been lent, are about to install, or are to take back or let go. -/
def State.inHand (s : State S) (home : PoolId) : List SessionKey :=
  (s.held home).map (·.info.key) ++ (s.roles home).flatMap Role.keys

theorem closedIn_cons {e : State S × Choice S} :
    closedIn home (e :: past) = e.1.closes home e.2 ++ closedIn home past :=
  List.flatMap_cons

theorem detachedIn_cons {e : State S × Choice S} :
    detachedIn home (e :: past) = e.1.detaches home e.2 ++ detachedIn home past :=
  List.flatMap_cons

/-- Everybody who owns a session has its key in hand; besides there are the sessions about to be
installed. -/
theorem State.count_inHand (s : State S) (home : PoolId) (key : SessionKey) :
    (s.inHand home).count key =
      (s.owners home).count key + ((s.roles home).flatMap Role.recruits).count key := by
  have split (roles : List (Role S)) : (roles.flatMap Role.keys).count key =
      (roles.flatMap Role.stakes).count key + (roles.flatMap Role.recruits).count key := by
    induction roles with
    | nil => rfl
    | cons r rest ih =>
      rw [List.flatMap_cons, List.flatMap_cons, List.flatMap_cons, List.count_append,
        List.count_append, List.count_append, Role.keys, List.count_append, ih]
      omega
  rw [inHand, owners, List.count_append, List.count_append, split]
  omega

/-- Where the sessions of a pool are that have got their key: `shed` are those that have left. -/
structure Conserved (home : PoolId) (past : List (State S × Choice S)) (s : State S) (p : Pool S)
    (shed : List (SessionKey × S)) : Prop where
  known : ∀ e ∈ shed, e ∈ enrolled home past
  departed : (shed.map (·.2)).Perm (departed home past s)
  keys : ∀ key, (s.inHand home).count key + p.idle.keys.count key + (shed.map (·.1)).count key =
    ((enrolled home past).map (·.1)).count key

variable {shed : List (SessionKey × S)}

/-- What a choice adds to the sessions that have left. -/
theorem perm_departed_cons (new : List S) (h : (s.closes home c ++ s.detaches home c ++
      s'.calls.flatMap (Call.settledAt home)).Perm (new ++ s.calls.flatMap (Call.settledAt home))) :
    (departed home ((s, c) :: past) s').Perm (new ++ departed home past s) := by
  rw [departed, departed, closedIn_cons, detachedIn_cons]
  generalize s.closes home c = closes, s.detaches home c = detaches, closedIn home past = closed,
    detachedIn home past = detached at h ⊢
  have front : (closes ++ closed ++ (detaches ++ detached)).Perm
      (closed ++ detached ++ (closes ++ detaches)) := by
    refine (List.perm_append_comm.append List.perm_append_comm).trans ?_
    rw [List.append_assoc, List.append_assoc]
    exact (List.perm_append_comm_assoc closes detached detaches).append_left closed
  refine (front.append_right _).trans ?_
  rw [List.append_assoc]
  refine (h.append_left _).trans ?_
  exact List.perm_append_comm_assoc _ _ _

/-- No session of the pool goes anywhere. -/
theorem Conserved.still (h : Conserved home past s p shed) (none : s.enrolment home c = [])
    (idle : p'.idle = p.idle)
    (inHand : ∀ key, (s'.inHand home).count key = (s.inHand home).count key)
    (same : (s.closes home c ++ s.detaches home c ++ s'.calls.flatMap (Call.settledAt home)).Perm
      (s.calls.flatMap (Call.settledAt home))) :
    Conserved home ((s, c) :: past) s' p' shed := by
  have enrolled : enrolled home ((s, c) :: past) = enrolled home past := by
    rw [enrolled_cons, none]; rfl
  refine ⟨fun e he => enrolled ▸ h.known e he, h.departed.trans ?_, fun key => ?_⟩
  · exact (perm_departed_cons [] same).symm
  · rw [enrolled, idle, inHand]
    exact h.keys key

/-- A call that begins has settled nothing yet. -/
theorem Begins.settledAt {call : Call S} (h : Begins s c call) (home : PoolId) :
    call.settledAt home = [] := by
  have giving (l : Lease S) : l.giveBack.2.spoils = [] := by
    obtain ⟨at_, session, info⟩ := l
    cases session <;> rfl
  have none : call.task.settled = [] := by
    cases h with
    | acquire first => rcases first with rfl | ⟨limit, rfl⟩ <;> rfl
    | giveBack => rw [Task.settled, Task.spoils, giving]; rfl
    | transfer =>
      rw [Transfer.start]
      split <;> rw [Task.settled, Task.spoils, Transfer.spoils, giving] <;> rfl
    | @surrender _ l =>
      obtain ⟨at_, session, info⟩ := l
      cases session <;> rfl
    | _ => rfl
  rw [Call.settledAt, none, ite_self]

/-- Whoever has ended has nothing more to close. -/
theorem Task.settled_of_isEnded {t : Task S} (h : t.isEnded = true) : t.settled = t.freed := by
  cases ended_of_isEnded h <;> rfl

/-! ## What is in hand

Which keys a role shows is left open here: the same is true of all that is in hand, and of a part of
it. -/

section

variable (f : Role S → List SessionKey)

/-- The keys that leases hold, and those that the roles of calls show. -/
def State.keysBy (s : State S) (home : PoolId) : List SessionKey :=
  (s.held home).map (·.info.key) ++ (s.roles home).flatMap f

variable {f}

theorem Call.flatMap_roleAt (none : f .none = []) (call : Call S) (home : PoolId) :
    (call.roleAt home).flatMap f = if call.home = home then f call.task.role else [] := by
  unfold Call.roleAt
  split
  · cases call.task.role with
    | none => exact none.symm
    | _ => exact List.append_nil _
  · rfl

/-- The keys in hand are counted apart: those of leases, those of one call, and those of the
others. -/
theorem State.exists_count_keysBy {i : Nat} {call : Call S}
    (atWork : s.calls[i]? = some call) (home : PoolId) (key : SessionKey) : ∃ others : Nat,
      (s.keysBy f home).count key =
        ((s.leases.filterMap (record? home)).map (·.info.key)).count key +
        ((call.held home).map (·.info.key)).count key +
        ((call.roleAt home).flatMap f).count key + others ∧
      ∀ (s' : State S) (call' : Call S), s'.calls = s.calls.set i call' →
        (s'.keysBy f home).count key =
          ((s'.leases.filterMap (record? home)).map (·.info.key)).count key +
          ((call'.held home).map (·.info.key)).count key +
          ((call'.roleAt home).flatMap f).count key + others := by
  obtain ⟨restRoles, before, after⟩ := exists_perm_flatMap_set (Call.roleAt home) atWork
  obtain ⟨restHeld, beforeHeld, afterHeld⟩ := exists_perm_flatMap_set (Call.held home) atWork
  refine ⟨(restHeld.map (·.info.key)).count key + (restRoles.flatMap f).count key, ?_, ?_⟩
  · have roles := (before.flatMap_right f).count_eq key
    have held := (beforeHeld.map (·.info.key)).count_eq key
    rw [List.flatMap_append, List.count_append] at roles
    rw [List.map_append, List.count_append] at held
    rw [keysBy, State.held, State.roles, List.count_append, List.map_append,
      List.count_append, roles, held]
    omega
  · intro s' call' calls
    have roles := ((after call').flatMap_right f).count_eq key
    have held := ((afterHeld call').map (·.info.key)).count_eq key
    rw [List.flatMap_append, List.count_append] at roles
    rw [List.map_append, List.count_append] at held
    rw [keysBy, State.held, State.roles, calls, List.count_append, List.map_append,
      List.count_append, roles, held]
    omega

/-- A call that goes on with the same leases changes only the keys that its own role shows. -/
theorem State.count_keysBy_set (s' : State S) (none : f .none = []) {i : Nat}
    {call : Call S} {t' : Task S} (atWork : s.calls[i]? = some call)
    (same : t'.leases = call.task.leases)
    (calls : s'.calls = s.calls.set i { call with task := t' })
    (leases : s'.leases = s.leases) (home : PoolId)
    (key : SessionKey) :
    (s'.keysBy f home).count key + (if call.home = home then f call.task.role else []).count key =
      (s.keysBy f home).count key + (if call.home = home then f t'.role else []).count key := by
  obtain ⟨others, before, after⟩ := State.exists_count_keysBy (f := f) atWork home key
  have held : ({ call with task := t' } : Call S).held home = call.held home := by
    simp only [Call.held, same]
  have new := after s' { call with task := t' } calls
  rw [held, leases, Call.flatMap_roleAt none] at new
  rw [Call.flatMap_roleAt none] at before
  simp only at new
  omega

variable (claim : ∀ key, f (.claim key) = [key])
include claim

theorem Role.flatMap_claims (taken : Option (Record S)) :
    (taken.toList.map fun r => Role.claim r.info.key).flatMap f =
      taken.toList.map (·.info.key) := by
  cases taken with
  | none => rfl
  | some r => simp [claim]

/-- Whoever begins a call has what it was handed by a lease, if it was handed anything. -/
theorem State.count_keysBy_begin {request : Request} {leases : List (Lease S)} {call : Call S}
    (admitted : s.enter request = some (leases, call)) (home : PoolId) (key : SessionKey) :
    (({ s with leases, calls := s.calls ++ [call] } : State S).keysBy f home).count key =
      (s.keysBy f home).count key := by
  obtain ⟨taken, held, role⟩ := (admission_of_enter admitted).held home
  have claimed : (call.roleAt home).flatMap f = taken.toList.map (·.info.key) := by
    rw [role, Role.flatMap_claims claim]
  have held := (held.map (·.info.key)).count_eq key
  simp only [List.map_append, List.count_append] at held
  simp only [keysBy, State.held, State.roles, List.flatMap_append,
    List.flatMap_cons, List.flatMap_nil, List.append_nil, List.map_append,
    List.count_append, claimed]
  omega

/-- A call that passes the source of a transfer on has in hand what it had. -/
theorem State.count_keysBy_handsOver (none : f .none = []) {i : Nat} {call : Call S}
    {t' : Task S} (g : Grounded s) (atWork : s.calls[i]? = some call)
    (hands : HandsOver call.task t') (home : PoolId) (key : SessionKey)
    (calls : s'.calls = s.calls.set i { call with task := t' }) (leases : s'.leases = s.leases) :
    (s'.keysBy f home).count key = (s.keysBy f home).count key := by
  obtain ⟨others, before, after⟩ := State.exists_count_keysBy (f := f) atWork home key
  obtain ⟨taken, held, role⟩ := hands.held home (g.sources call (List.mem_of_getElem? atWork))
  have nothing : (call.roleAt home).flatMap f = [] := by
    rw [Call.flatMap_roleAt none, hands.role, none, ite_self]
  have claimed : (({ call with task := t' } : Call S).roleAt home).flatMap f =
      taken.toList.map (·.info.key) := by
    rw [role, Role.flatMap_claims claim]
  have held := (held.map (·.info.key)).count_eq key
  rw [List.map_append, List.count_append] at held
  rw [before, after s' _ calls, leases, nothing, claimed, List.count_nil]
  omega

end

/-- What a call has been lent passes into a lease when it ends; the role of the call may have shown
it before. -/
theorem State.count_keysBy_finish {f : Role S → List SessionKey} (none : f .none = [])
    {i : Nat} {call : Call S} (atWork : s.calls[i]? = some call) (home : PoolId)
    (key : SessionKey) :
    (({ s with
        leases := s.leases ++ call.yields
        calls := s.calls.set i { call with task := .returned } } :
          State S).keysBy f home).count key +
      ((call.roleAt home).flatMap f).count key = (s.keysBy f home).count key +
        ((if call.home = home then call.task.loan?.toList else []).map (·.info.key)).count key := by
  obtain ⟨others, before, after⟩ := State.exists_count_keysBy (f := f) atWork home key
  have gone : (({ call with task := .returned } : Call S).roleAt home).flatMap f = [] := by
    rw [Call.flatMap_roleAt none, ite_eq_right_iff]
    exact fun _ => none
  have given : ({ call with task := .returned } : Call S).held home = [] := rfl
  rw [before, after _ { call with task := .returned } rfl, gone, given,
    List.filterMap_append, filterMap_yields]
  simp only [List.map_append, List.count_append, List.map_nil, List.count_nil]
  omega

/-- What a call has been lent was in its hands before it passes into a lease. -/
theorem State.count_inHand_finish {i : Nat} {call : Call S} (atWork : s.calls[i]? = some call)
    (ended : call.task.isEnded = true) (home : PoolId) (key : SessionKey) :
    (({ s with
        leases := s.leases ++ call.yields
        calls := s.calls.set i { call with task := .returned } } : State S).inHand home).count key =
      (s.inHand home).count key := by
  have lent (loans : List (Record S)) :
      (loans.map Role.loan).flatMap Role.keys = loans.map (·.info.key) := by
    induction loans with
    | nil => rfl
    | cons r rest ih => rw [List.map_cons, List.flatMap_cons, ih]; rfl
  have shown := State.count_keysBy_finish (f := Role.keys) rfl atWork home key
  rw [roleAt_of_isEnded ended, lent] at shown
  exact Nat.add_right_cancel shown

/-! ## What every choice conserves -/

theorem Run.sound (run : Run past s) {i : Nat} {call : Call S} {site : Site S}
    (atWork : s.calls[i]? = some call) (found : s.sites[call.home]? = some site)
    (few : (enrolled call.home past).length < UInt64.size) :
    Sound (enrolled call.home past) site.pool call.task := by
  obtain ⟨-, placed, owned⟩ := run.custody (State.pool?_of_site found) few
  have mem {r : Role S} (h : call.task.role = r) (some : r ≠ .none) : r ∈ s.roles call.home :=
    (State.mem_roles_iff some).2 ⟨i, call, atWork, rfl, h⟩
  refine ⟨placed.filed, fun key => ?_, fun r hr => ?_, fun key hr => ?_,
    fun e he => run.vouched atWork few he⟩
  · exact Nat.le_trans (Nat.le_add_left _ _) (placed.apart key)
  · exact (placed.ready r (mem hr (by simp))).known
  · -- a claim counts as an owner, and the roster has as many keys as there are owners
    have staked : key ∈ (s.roles call.home).flatMap Role.stakes :=
      List.mem_flatMap.2 ⟨_, mem hr (by simp), List.mem_singleton.2 rfl⟩
    have most := owned.most key
    rw [Ledger.stakes, List.count_append] at most
    have := List.count_pos_iff.2 staked
    exact Roster.find?_isSome_of_count
      (Nat.lt_of_lt_of_le this (Nat.le_trans (Nat.le_add_left _ _) most))

theorem State.closes_of_answer {i : Nat} {reply : Reply S} {call : Call S} {t' : Task S}
    (atWork : s.calls[i]? = some call) (did : call.task.answer reply = some t') (home : PoolId) :
    s.closes home (.answer i reply) =
      if call.home = home then call.task.closing?.toList else [] := by
  cases reply with
  | closed outcome => rw [closes, atWork]
  | _ =>
    -- a call that hears of something else was closing nothing
    rcases Task.closing?_of_answer did with ⟨outcome, h⟩ | none
    · cases h
    · rw [closes, none, Option.toList_none, ite_self]
      exact fun _ _ h => nomatch h

theorem State.detaches_of_finish {i : Nat} {call : Call S}
    (atWork : s.calls[i]? = some call) (home : PoolId) :
    s.detaches home (.finish i) = if call.home = home then call.task.freed else [] := by
  rw [detaches, atWork]

/-- A call that goes on leaves the others alone. -/
theorem exists_settledAt_set {i : Nat} {call : Call S}
    (atWork : s.calls[i]? = some call) (home : PoolId) :
    ∃ others, (s.calls.flatMap (Call.settledAt home)).Perm (call.settledAt home ++ others) ∧
      ∀ call', ((s.calls.set i call').flatMap (Call.settledAt home)).Perm
        (call'.settledAt home ++ others) :=
  exists_perm_flatMap_set (Call.settledAt home) atWork

theorem Conserved.answer {i : Nat} {reply : Reply S} {call : Call S} {site : Site S} {t' : Task S}
    (h : Conserved home past s p shed) (atWork : s.calls[i]? = some call)
    (did : call.task.answer reply = some t') (calm : Calm ((s, .answer i reply) :: past)) :
    Conserved home ((s, .answer i reply) :: past)
      { s.put i call site site.pool t' with
        delivered := reply.delivery.toList ++ s.delivered } p shed := by
  have quiet (text : String) : reply ≠ .closed (.panic text) := by
    rintro rfl
    exact absurd (calm _ List.mem_cons_self) (by simp [Choice.breaksOff])
  obtain ⟨none, none', settled⟩ := Task.settled_of_answer did quiet
  have leases : t'.leases = call.task.leases :=
    (@Task.moves_of_answer _ (s.view call (fun _ => false) false) site.pool _ _ _ did).1
  refine h.still rfl rfl (fun key => ?_) ?_
  · have moved := State.count_keysBy_set (f := Role.keys) { s.put i call site site.pool t' with
        delivered := reply.delivery.toList ++ s.delivered } rfl atWork leases rfl rfl home key
    rw [none, none'] at moved
    exact Nat.add_right_cancel moved
  · obtain ⟨others, before, after⟩ := exists_settledAt_set atWork home
    rw [State.closes_of_answer atWork did]
    refine ((after { call with task := t' }).append_left _).trans (List.Perm.trans ?_ before.symm)
    simp only [State.detaches, List.append_nil, Call.settledAt]
    split
    · rw [settled, List.append_assoc]
    · exact .refl _

theorem Conserved.finish {i : Nat} {call : Call S} (h : Conserved home past s p shed)
    (atWork : s.calls[i]? = some call) (ended : call.task.isEnded = true) :
    Conserved home ((s, .finish i) :: past)
      { s with
        leases := s.leases ++ call.yields
        calls := s.calls.set i { call with task := .returned } } p shed := by
  refine h.still rfl rfl (State.count_inHand_finish atWork ended home) ?_
  obtain ⟨others, before, after⟩ := exists_settledAt_set atWork home
  rw [State.detaches_of_finish atWork]
  refine ((after { call with task := .returned }).append_left _).trans
    (List.Perm.trans ?_ before.symm)
  simp only [State.closes, List.nil_append, Call.settledAt, Task.settled_of_isEnded ended]
  split
  · exact .refl _
  · exact .refl _

/-- A step of a call on another pool. -/
theorem Conserved.step_elsewhere {i : Nat} {connected : S → Bool} {contended : Bool}
    {call : Call S} {site : Site S} {q : Pool S} {t' : Task S}
    (h : Conserved home past s p shed) (g : Grounded s)
    (atWork : s.calls[i]? = some call) (elsewhere : call.home ≠ home)
    (did : call.task.step (s.view call connected contended) site.pool = some (q, t')) :
    Conserved home ((s, .step i connected contended) :: past) (s.put i call site q t') p shed := by
  refine h.still (enrolment_of_step_ne atWork elsewhere) rfl (fun key => ?_) ?_
  · rcases Task.moves_of_step did with ⟨leases, -⟩ | ⟨-, hands⟩
    · have moved := State.count_keysBy_set (f := Role.keys)
        (s.put i call site q t') rfl atWork leases rfl rfl home key
      rw [if_neg elsewhere, if_neg elsewhere] at moved
      exact moved
    · exact State.count_keysBy_handsOver (f := Role.keys)
        (fun _ => rfl) rfl g atWork hands home key rfl rfl
  · obtain ⟨others, before, after⟩ := exists_settledAt_set atWork home
    refine (after { call with task := t' }).trans (List.Perm.trans ?_ before.symm)
    simp only [Call.settledAt, if_neg elsewhere]
    exact .refl _

/-- A step of a call on this pool is an exchange. -/
theorem Conserved.step {i : Nat} {connected : S → Bool} {contended : Bool}
    {call : Call S} {site : Site S} {q : Pool S} {t' : Task S}
    (h : Conserved call.home past s site.pool shed) (run : Run past s)
    (atWork : s.calls[i]? = some call) (found : s.sites[call.home]? = some site)
    (few : (enrolled call.home past).length < UInt64.size)
    (did : call.task.step (s.view call connected contended) site.pool = some (q, t')) :
    ∃ shed', Conserved call.home ((s, .step i connected contended) :: past)
      (s.put i call site q t') q shed' := by
  have sound := run.sound atWork found few
  obtain ⟨others, before, after⟩ := exists_settledAt_set atWork call.home
  have drawn := enrolment_of_step atWork found did
  rcases Task.trade_of_step sound did with ⟨rfl, hands, none, none'⟩ | ⟨leases, out, trade, settled⟩
  · refine ⟨shed, h.still ?_ rfl (fun key => ?_) ?_⟩
    · rw [drawn, hands.role]
      rfl
    · exact State.count_keysBy_handsOver (f := Role.keys)
        (fun _ => rfl) rfl run.grounded atWork hands call.home key rfl rfl
    · refine (after { call with task := t' }).trans (List.Perm.trans ?_ before.symm)
      simp only [Call.settledAt, none, none']
      exact .refl _
  · have more : enrolled call.home ((s, .step i connected contended) :: past) =
        call.task.role.enrolment t'.role ++ enrolled call.home past := by
      rw [enrolled_cons, drawn]
    refine ⟨out ++ shed, fun e he => ?_, ?_, fun key => ?_⟩
    · rw [more]
      refine List.mem_append_right _ ?_
      exact (List.mem_append.1 he).elim (trade.known e) (h.known e)
    · rw [List.map_append]
      refine (h.departed.append_left _).trans (perm_departed_cons _ ?_).symm
      refine (after { call with task := t' }).trans
        ((List.Perm.trans ?_ (before.symm.append_left _)))
      simp only [Call.settledAt, if_true, settled, List.append_assoc]
      exact .refl _
    · have count := h.keys key
      have exchange := trade.keys key
      have moved :
          ((s.put i call site q t').inHand call.home).count key + call.task.role.keys.count key =
            (s.inHand call.home).count key + t'.role.keys.count key := by
        have moved := State.count_keysBy_set (f := Role.keys)
          (s.put i call site q t') rfl atWork leases rfl rfl call.home key
        rw [if_pos rfl, if_pos rfl] at moved
        exact moved
      rw [more]
      simp only [List.map_append, List.count_append]
      omega

/-- Whatever happens, the sessions of a pool are conserved. -/
theorem Conserved.next (h : Conserved home past s p shed) (run : Run past s)
    (act : s.act c = some s') (built : s.pool? home = some p) (built' : s'.pool? home = some p')
    (few : (enrolled home past).length < UInt64.size) (calm : Calm ((s, c) :: past)) :
    ∃ shed', Conserved home ((s, c) :: past) s' p' shed' := by
  obtain ⟨q, hq, alters⟩ := alters_of_act act built
  cases hq.symm.trans built'
  cases happens_of_act act with
  | pass d =>
    cases alters
    exact ⟨shed, h.still rfl rfl (fun _ => rfl) (.refl _)⟩
  | build made =>
    cases alters
    refine ⟨shed, h.still rfl rfl (fun key => ?_) ?_⟩
    · simp [State.inHand, State.held, State.roles, Call.held, Call.roleAt, Task.leases,
        Task.role, Worker.role, Role.toList]
    · simp [State.closes, State.detaches, Call.settledAt, Task.settled, Task.spoils,
        Task.freed, Worker.spoils]
  | adjust found =>
    have idle : p'.idle = p.idle := by
      cases alters with
      | rests => rfl
      | adjusts => exact (Adjustment.alike _).idle
    exact ⟨shed, h.still rfl idle (fun _ => rfl) (.refl _)⟩
  | @begin request _ _ admitted =>
    cases alters
    refine ⟨shed, h.still rfl rfl
      (State.count_keysBy_begin (f := Role.keys) (fun _ => rfl) admitted home) ?_⟩
    have none := (begins_of_enter (c := .begin request) admitted).settledAt home
    simp [State.closes, State.detaches, none]
  | drop found owned free =>
    cases alters
    refine ⟨shed, h.still rfl rfl (fun key => ?_) ?_⟩
    · simp [State.inHand, State.held, State.roles, Call.held, Call.roleAt, Task.leases,
        Task.role, Shutdown.role, Role.toList]
    · simp [State.closes, State.detaches, Call.settledAt, Task.settled, Task.spoils,
        Task.freed, Shutdown.spoils]
  | @step i connected contended call site q t' atWork found did =>
    by_cases hh : call.home = home
    · subst hh
      cases built.symm.trans (State.pool?_of_site found)
      rw [State.pool?_put found, if_pos rfl] at built'
      cases built'
      exact h.step run atWork found few did
    · rw [State.pool?_put found, if_neg (Ne.symm hh), built] at built'
      cases built'
      exact ⟨shed, h.step_elsewhere run.grounded atWork hh did⟩
  | answer atWork found did =>
    cases alters
    exact ⟨shed, h.answer atWork did calm⟩
  | finish atWork ended =>
    cases alters
    exact ⟨shed, h.finish atWork ended⟩

/-- No session has left a pool that is not built yet. -/
theorem Run.departed_unbuilt (run : Run past s) (h : s.pool? home = none) :
    departed home past s = [] := by
  induction run with
  | start => rfl
  | @next past s s' c run fresh act ih =>
    have old := run.pool?_eq_none_of_act fresh act h
    have settled {s : State S} (g : Grounded s) (h : s.pool? home = none) :
        s.calls.flatMap (Call.settledAt home) = [] :=
      List.flatMap_eq_nil_iff.2 fun call hc => if_neg (g.elsewhere h hc)
    have closes : s.closes home c = [] := by
      unfold State.closes
      split
      · split
        · next was => exact if_neg (run.grounded.elsewhere old (List.mem_of_getElem? was))
        · rfl
      · rfl
    have detaches : s.detaches home c = [] := by
      unfold State.detaches
      split
      · split
        · next was => exact if_neg (run.grounded.elsewhere old (List.mem_of_getElem? was))
        · rfl
      · rfl
    refine List.Perm.eq_nil ?_
    rw [← ih old]
    refine perm_departed_cons [] ?_
    rw [closes, detaches, settled (run.grounded.act act) h, settled run.grounded old]
    exact .refl _

/-- Every session that has its key is in one place, or has left. -/
theorem Run.conserved (run : Run past s) (built : s.pool? home = some p)
    (few : (enrolled home past).length < UInt64.size) (calm : Calm past) :
    ∃ shed, Conserved home past s p shed := by
  induction run generalizing p with
  | start now => simp [State.pool?] at built
  | @next past s s' c run fresh act ih =>
    cases old : s.pool? home with
    | some q =>
      obtain ⟨shed, h⟩ := ih old (few_of_cons few) calm.of_cons
      exact h.next run act old built (few_of_cons few) calm
    | none =>
      have new := run.new_ledger act old built
      have gone : departed home ((s, c) :: past) s' = [] := by
        obtain ⟨builder, made, rfl, -⟩ := exists_build act old built
        cases happens_of_act act with
        | build =>
        refine List.Perm.eq_nil ?_
        rw [← run.departed_unbuilt old]
        refine perm_departed_cons [] ?_
        simp [State.closes, State.detaches, Call.settledAt, Task.settled, Task.spoils,
          Task.freed, Worker.spoils]
      refine ⟨[], by simp, by rw [gone]; exact .refl _, fun key => ?_⟩
      have held : s'.held home = [] := new.held
      have roles : s'.roles home = [] := new.roles
      have none : enrolled home ((s, c) :: past) = [] := new.enrolled
      rw [State.inHand, held, roles, none, show p.idle = .empty from new.idle]
      rfl

end Interleaving

end ConnectionPool
