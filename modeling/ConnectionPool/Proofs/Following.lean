import ConnectionPool.Proofs.Homes

set_option autoImplicit false

/-! # The ledger follows

Whatever is chosen next, the ledger of a pool changes in one of the ways that `Ledger.Change` lists
(`next_of_act`). So a property of ledgers that holds of new ones, and that survives `Ledger.Next`,
holds in every run (`Run.ledger_induction`): what is proved of pools from here on is proved that
way. -/

namespace ConnectionPool

namespace Interleaving

variable {S : Type} {s s' : State S} {c : Choice S} {home : PoolId} {p : Pool S}

/-! ## The ledger follows every choice -/

variable {past : List (State S × Choice S)}

theorem enrolled_cons : enrolled home ((s, c) :: past) = s.enrolment home c ++ enrolled home past :=
  List.flatMap_cons

theorem enrolled_append (later : List (State S × Choice S)) :
    enrolled home (later ++ past) = enrolled home later ++ enrolled home past :=
  List.flatMap_append

/-- A step draws a key exactly if it turns an open session into a recruit. -/
theorem enrolment_of_step {i : Nat} {connected : S → Bool} {contended : Bool} {call : Call S}
    {site : Site S} {p' : Pool S} {t' : Task S} (atWork : s.calls[i]? = some call)
    (found : s.sites[call.home]? = some site)
    (did : call.task.step (s.view call connected contended) site.pool = some (p', t')) :
    s.enrolment call.home (.step i connected contended) = call.task.role.enrolment t'.role := by
  obtain ⟨at_, byWorker, task⟩ := call
  simp only [State.enrolment, atWork, State.pool?_of_site found]
  split
  · next heq heq' =>
    cases heq
    cases heq'
    cases did
    simp [Task.role, Acquire.role, Role.enrolment, Record.lent, Metadata.new]
  · next hne =>
    cases hr : task.role with
    | opened session =>
      cases Task.eq_enrol_of_role hr
      exact absurd rfl (hne _ _ _ _ rfl)
    | _ => rfl

theorem enrolment_of_step_ne {i : Nat} {connected : S → Bool} {contended : Bool} {call : Call S}
    (atWork : s.calls[i]? = some call) (hne : call.home ≠ home) :
    s.enrolment home (.step i connected contended) = [] := by
  simp only [State.enrolment, atWork]
  split
  · next heq heq' =>
    cases heq
    exact if_neg hne
  · rfl

/-- Passing the source on changes nothing that is held, except that a call may take the source
over. -/
theorem HandsOver.held {call : Call S} {t' : Task S} (h : HandsOver call.task t') (home : PoolId)
    (grounded : ∀ l, call.task.source? = some l → l.home = call.home) :
    ∃ taken : Option (Record S),
      (call.held home).Perm (taken.toList ++ ({ call with task := t' } : Call S).held home) ∧
      ({ call with task := t' } : Call S).roleAt home =
        taken.toList.map fun r => .claim r.info.key := by
  obtain ⟨at_, byWorker, task⟩ := call
  cases h with
  | @settled old source given outcome =>
    refine ⟨none, ?_, by simp [Call.roleAt, Task.role, Transfer.role, Role.toList]⟩
    simp [Call.held, Task.leases]
  | @abandoned old source given text =>
    -- the call is on the pool of the source, which is why it may take over the session
    have hs : source.home = at_ := grounded source rfl
    subst hs
    refine ⟨record? home source, ?_, ?_⟩
    · cases hr : record? home source <;> simp [Call.held, Task.leases, hr]
    · exact @roleAt_claimOf _ source byWorker (.transfer (.abandon _ text source.giveBack.2))
        (role_giveBack source) home

theorem Admission.held {leases : List (Lease S)} {call : Call S} (h : Admission s leases call)
    (home : PoolId) : ∃ taken : Option (Record S),
      (s.leases.filterMap (record? home)).Perm
        (taken.toList ++ (leases.filterMap (record? home) ++ call.held home)) ∧
      call.roleAt home = taken.toList.map fun r => .claim r.info.key := by
  cases h with
  | plain alive role none source =>
    exact ⟨.none, by simp [Call.held, none], by simp [Call.roleAt, role, Role.toList]⟩
  | @settle n l task found role own source keeps =>
    refine ⟨record? home l, ?_, roleAt_claimOf role home⟩
    have hspent : task.leases.filterMap (record? home) = [] := by
      refine List.filterMap_eq_nil_iff.2 ?_
      intro k hk
      simp [record?, (own k hk).2]
    simpa [Call.held, hspent] using perm_filterMap_eraseIdx (record? home) found
  | @transfer m n target source found found' =>
    have hs := perm_filterMap_eraseIdx (record? home) found
    have ht := perm_filterMap_eraseIdx (record? home) found'
    -- within one pool the session of the target is given back, else that of the source is
    by_cases hh : target.home = source.home
    · refine ⟨record? home target, ?_, ?_⟩
      · simp only [Call.held, Task.leases, Transfer.start, if_pos hh, filterMap_cons_toList,
          record?_spent, List.filterMap_nil, Option.toList_none, List.nil_append, List.append_nil]
        refine (hs.trans (ht.append_left _)).trans ?_
        rw [← List.append_assoc ((record? home target).toList)]
        exact List.perm_append_comm
      · rw [← hh]
        refine roleAt_claimOf ?_ home
        simp only [Task.role, Transfer.start, if_pos hh, Transfer.role]
        exact role_giveBack target
    · refine ⟨record? home source, ?_, ?_⟩
      · simp only [Call.held, Task.leases, Transfer.start, if_neg hh, filterMap_cons_toList,
          List.filterMap_nil, List.append_nil]
        exact hs.trans ((ht.trans List.perm_append_comm).append_left _)
      · refine roleAt_claimOf ?_ home
        simp only [Task.role, Transfer.start, if_neg hh, Transfer.role]
        exact role_giveBack source

/-- What a call hands over at its end are its leases, and its loan as a lease. -/
theorem filterMap_yields (call : Call S) (home : PoolId) :
    call.yields.filterMap (record? home) =
      call.held home ++ if call.home = home then call.task.loan?.toList else [] := by
  simp only [Call.yields, List.filterMap_append, Call.held]
  congr 1
  cases call.task.loan? with
  | none => simp
  | some loan => by_cases hh : call.home = home <;> simp [record?, Lease.issue, hh]

theorem roleAt_of_isEnded {call : Call S} (h : call.task.isEnded = true) (home : PoolId) :
    call.roleAt home = (if call.home = home then call.task.loan?.toList else []).map .loan := by
  simp only [Call.roleAt, Task.role_of_isEnded h]
  split <;> rfl

namespace Ledger

/-- A call takes over what a lease held, if it held anything. -/
theorem Change.of_taken {d d' : Ledger S} (taken : Option (Record S)) (pool : d'.pool = d.pool)
    (held : d.held.Perm (taken.toList ++ d'.held))
    (roles : d'.roles.Perm ((taken.toList.map fun r => .claim r.info.key) ++ d.roles))
    (enrolled : d'.enrolled = d.enrolled) : Change d d' := by
  cases taken with
  | none => exact .quiet (pool ▸ .rfl) roles held.symm enrolled
  | some record => exact .claim pool held roles enrolled

/-- A call hands its loan over as a lease, if it has one. -/
theorem Change.of_issued {d d' : Ledger S} {issued : List (Record S)} (one : issued.length ≤ 1)
    (pool : d'.pool = d.pool) (roles : d.roles.Perm (issued.map .loan ++ d'.roles))
    (held : d'.held.Perm (issued ++ d.held)) (enrolled : d'.enrolled = d.enrolled) :
    Change d d' := by
  match issued with
  | [] => exact .quiet (pool ▸ .rfl) roles.symm held enrolled
  | [record] => exact .issue pool roles held enrolled

end Ledger

theorem Adjustment.alike (change : Adjustment) : Alike p (change.apply p) := by
  cases change with
  | heartbeatQuery text =>
    simp only [apply, Pool.setHeartbeatQuery]
    split
    · next heq =>
      split at heq
      · cases heq
      · cases heq
        exact ⟨rfl, rfl, rfl, rfl, rfl, rfl, rfl⟩
    · exact .rfl
  | _ => exact ⟨rfl, rfl, rfl, rfl, rfl, rfl, rfl⟩

/-- The change of the ledger when a call goes on, on this pool or another one. -/
theorem change_of_step {i : Nat} {connected : S → Bool} {contended : Bool} {call : Call S}
    {site : Site S} {p' : Pool S} {t' : Task S} (g : Grounded s) (built : s.pool? home = some p)
    (atWork : s.calls[i]? = some call) (found : s.sites[call.home]? = some site)
    (did : call.task.step (s.view call connected contended) site.pool = some (p', t'))
    {q : Pool S} (turned : (s.put i call site p' t').pool? home = some q) :
    Ledger.Change (ledger home past s p)
      (ledger home ((s, .step i connected contended) :: past) (s.put i call site p' t') q) := by
  have hcall := List.mem_of_getElem? atWork
  rw [State.pool?_put found] at turned
  obtain ⟨rest, before, after⟩ := State.exists_roles_set atWork home
  obtain ⟨restHeld, beforeHeld, afterHeld⟩ := exists_perm_flatMap_set (Call.held home) atWork
  rcases Task.moves_of_step did with ⟨same, moves⟩ | ⟨rfl, hands⟩
  · have held : ((s.put i call site p' t').held home).Perm (s.held home) :=
      (State.held_set_of_held_eq atWork (by simp only [Call.held, same])).append_left _
    by_cases hh : home = call.home
    · -- the call is on this pool, and the move is one of the pool
      subst hh
      rw [State.pool?_of_site found] at built
      rw [if_pos rfl] at turned
      cases built
      cases turned
      have old : (s.roles call.home).Perm (call.task.role.toList ++ rest) := by
        simpa [Call.roleAt] using before
      have new := after t'
      rw [Call.roleAt, if_pos rfl] at new
      refine .move moves old new held rfl ?_ (by simp) (by simp)
      rw [← enrolment_of_step atWork found did]
      exact enrolled_cons
    · -- it is on another pool, where this one does not see it
      rw [if_neg hh, built] at turned
      cases turned
      refine .quiet .rfl ?_ held (enrolled_cons.trans ?_)
      · have ha := after t'
        simp only [Call.roleAt, if_neg (Ne.symm hh)] at before ha
        exact ha.trans before.symm
      · rw [enrolment_of_step_ne atWork (Ne.symm hh)]
        rfl
  · -- the source of a transfer is passed on, and perhaps taken over by the call
    obtain ⟨taken, heldTaken, roleTaken⟩ := hands.held home (g.sources call hcall)
    have hrole := hands.role
    have hq : q = p := by
      split at turned
      · next hh =>
        subst hh
        rw [State.pool?_of_site found] at built
        exact Option.some.inj (turned.symm.trans built)
      · exact Option.some.inj (turned.symm.trans built)
    refine .of_taken taken hq ?_ ?_ (enrolled_cons.trans ?_)
    · refine (((beforeHeld.trans (heldTaken.append_right _)).append_left _).trans ?_).trans
        (((afterHeld _).symm.append_left _).append_left _)
      rw [List.append_assoc, ← List.append_assoc, ← List.append_assoc taken.toList]
      exact List.perm_append_comm.append_right _
    · have new := after t'
      rw [roleTaken] at new
      refine new.trans (List.Perm.append_left _ ?_)
      simp only [Call.roleAt, hrole, Role.toList, ite_self, List.nil_append] at before
      exact before.symm
    · by_cases hh : call.home = home
      · subst hh
        rw [enrolment_of_step atWork found did, hrole]
        rfl
      · rw [enrolment_of_step_ne atWork hh]
        rfl

/-- The change of the ledger when a call hears what it waits for. -/
theorem change_of_answer {i : Nat} {reply : Reply S} {call : Call S} {site : Site S} {t' : Task S}
    (built : s.pool? home = some p) (fresh : (Choice.answer i reply).Fresh s)
    (atWork : s.calls[i]? = some call) (found : s.sites[call.home]? = some site)
    (did : call.task.answer reply = some t') :
    Ledger.Change (ledger home past s p) (ledger home ((s, .answer i reply) :: past)
      { s.put i call site site.pool t' with
        delivered := reply.delivery.toList ++ s.delivered } p) := by
  obtain ⟨rest, before, after⟩ := State.exists_roles_set atWork home
  have moves := @Task.moves_of_answer _ (s.view call (fun _ => false) false) site.pool _ _ _ did
  have held : (s.leases.filterMap (record? home) ++
      (s.calls.set i { call with task := t' }).flatMap (Call.held home)).Perm (s.held home) :=
    (State.held_set_of_held_eq atWork (by simp only [Call.held, moves.1])).append_left _
  have new := after t'
  by_cases hh : home = call.home
  · subst hh
    rw [State.pool?_of_site found] at built
    cases built
    have old : (s.roles call.home).Perm (call.task.role.toList ++ rest) := by
      simpa [Call.roleAt] using before
    rw [Call.roleAt, if_pos rfl] at new
    refine .move moves.2 old new held rfl ?_ ?_ ?_
    · rw [Task.enrolment_of_answer did]
      rfl
    · intro session hs
      cases hs
      exact ⟨fresh session rfl, by simp [ledger, Reply.delivery]⟩
    · intro calm text hs
      cases hs
      exact absurd (calm _ List.mem_cons_self) (by simp [Choice.breaksOff])
  · refine .quiet .rfl ?_ held rfl
    simp only [Call.roleAt, if_neg (Ne.symm hh)] at before new
    exact new.trans before.symm

/-- The change of the ledger when a call hands its results over. -/
theorem change_of_finish {i : Nat} {call : Call S} (atWork : s.calls[i]? = some call)
    (ended : call.task.isEnded = true) :
    Ledger.Change (ledger home past s p) (ledger home ((s, .finish i) :: past)
      { s with
        leases := s.leases ++ call.yields
        calls := s.calls.set i { call with task := .returned } } p) := by
  obtain ⟨rest, before, after⟩ := State.exists_roles_set atWork home
  obtain ⟨restHeld, beforeHeld, afterHeld⟩ := exists_perm_flatMap_set (Call.held home) atWork
  have newRoles := after .returned
  have newHeld := afterHeld { call with task := .returned }
  have none : ({ call with task := .returned } : Call S).roleAt home = [] := by
    simp [Call.roleAt, Task.role, Role.toList]
  have spent : ({ call with task := .returned } : Call S).held home = [] := rfl
  rw [roleAt_of_isEnded ended] at before
  rw [none, List.nil_append] at newRoles
  rw [spent, List.nil_append] at newHeld
  have one : (if call.home = home then call.task.loan?.toList else []).length ≤ 1 := by
    split
    · cases call.task.loan? <;> simp
    · simp
  refine .of_issued one rfl (before.trans (newRoles.symm.append_left _)) ?_ rfl
  -- the leases of the call pass to its caller, and a loan becomes one of them
  refine (newHeld.append_left _).trans ?_
  rw [List.filterMap_append, filterMap_yields]
  refine List.Perm.trans ?_ (List.Perm.append_left _ (beforeHeld.symm.append_left _))
  simp only [List.append_assoc]
  refine (List.Perm.append_left _ ?_).trans (List.perm_append_comm_assoc _ _ _)
  exact List.perm_append_comm_assoc _ _ _

variable (past) in
theorem change_of_act (g : Grounded s) (fresh : c.Fresh s) (act : s.act c = some s')
    (built : s.pool? home = some p) : ∃ p', s'.pool? home = some p' ∧
      Ledger.Change (ledger home past s p) (ledger home ((s, c) :: past) s' p') := by
  cases happens_of_act act with
  | pass d => exact ⟨p, built, .quiet .rfl (.refl _) (.refl _) rfl⟩
  | build made =>
    have hlt := State.lt_of_pool? built
    refine ⟨p, ?_, .quiet .rfl ?_ ?_ rfl⟩
    · simpa [State.pool?, List.getElem?_append_left hlt] using built
    · simp [ledger, State.roles, Call.roleAt, Task.role, Worker.role, Role.toList]
    · simp [ledger, State.held, Call.held, Task.leases]
  | @adjust at_ change site found =>
    rw [State.pool?_of_set found]
    by_cases hh : home = at_
    · subst hh
      rw [State.pool?_of_site found] at built
      cases built
      exact ⟨_, if_pos rfl, .quiet change.alike (.refl _) (.refl _) rfl⟩
    · exact ⟨p, by rw [if_neg hh, built], .quiet .rfl (.refl _) (.refl _) rfl⟩
  | begin admitted =>
    obtain ⟨taken, held, role⟩ := (admission_of_enter admitted).held home
    refine ⟨p, built, .of_taken taken rfl ?_ ?_ rfl⟩
    · simp only [ledger, State.held, List.flatMap_append, List.flatMap_cons, List.flatMap_nil,
        List.append_nil]
      refine (held.append_right _).trans ?_
      simp only [List.append_assoc]
      exact (List.perm_append_comm.append_left _).append_left _
    · simp only [ledger, State.roles, List.flatMap_append, List.flatMap_cons,
        List.flatMap_nil, List.append_nil, role]
      exact List.perm_append_comm
  | @drop at_ byWorker site found owned free =>
    refine ⟨p, (State.pool?_of_set_same found ?_).trans built, .quiet .rfl ?_ ?_ rfl⟩
    · rfl
    · simp [ledger, State.roles, Call.roleAt, Task.role, Shutdown.role, Role.toList]
    · simp [ledger, State.held, Call.held, Task.leases]
  | @step i connected contended call site p' t' atWork found did =>
    have hsome : ∃ q, (s.put i call site p' t').pool? home = some q := by
      rw [State.pool?_put found]
      split
      · exact ⟨_, rfl⟩
      · exact ⟨p, built⟩
    obtain ⟨q, hq⟩ := hsome
    exact ⟨q, hq, change_of_step g built atWork found did hq⟩
  | answer atWork found did =>
    refine ⟨p, ?_, change_of_answer built fresh atWork found did⟩
    exact (State.pool?_of_set_same found rfl).trans built
  | finish atWork ended => exact ⟨p, built, change_of_finish atWork ended⟩

variable (past) in
/-- Whatever happens, the ledger of a pool follows. -/
theorem next_of_act (g : Grounded s) (fresh : c.Fresh s) (act : s.act c = some s')
    (built : s.pool? home = some p) : ∃ p', s'.pool? home = some p' ∧
      Ledger.Next (ledger home past s p) (ledger home ((s, c) :: past) s' p') := by
  obtain ⟨p', built', change⟩ := change_of_act past g fresh act built
  refine ⟨p', built', change, alive_of_act act built, delivered_subset act, ?_, ?_, ?_⟩
  · simp [ledger, caps, State.cap?, built']
  · simp only [ledger, notices, List.countP_cons, State.notifies, built, act,
      Option.bind_some, built']
    by_cases he : p'.epoch = p.epoch <;> simp [he]
  · exact fun calm e he => calm e (List.mem_cons_of_mem _ he)

/-! ## Along a run -/

/-- Nothing has happened to a pool that is not built yet. -/
structure Unbuilt (home : PoolId) (past : List (State S × Choice S)) (s : State S) : Prop where
  enrolled : enrolled home past = []
  caps : caps home past s = []
  notices : notices home past = 0

/-- Pools do not disappear. -/
theorem Run.pool?_eq_none_of_act (run : Run past s) (fresh : c.Fresh s) (act : s.act c = some s')
    (h : s'.pool? home = none) : s.pool? home = none := by
  cases built : s.pool? home with
  | none => rfl
  | some p =>
    obtain ⟨p', built', -⟩ := change_of_act past run.grounded fresh act built
    cases h.symm.trans built'

theorem Run.unbuilt (run : Run past s) (h : s.pool? home = none) : Unbuilt home past s := by
  induction run with
  | start now => exact ⟨rfl, rfl, rfl⟩
  | @next past s s' c run fresh act ih =>
    have old := run.pool?_eq_none_of_act fresh act h
    have hu := ih old
    refine ⟨?_, ?_, ?_⟩
    · rw [enrolled_cons, hu.enrolled, List.append_nil]
      cases c with
      | step i connected contended =>
        simp only [State.enrolment, old]
        split
        · next heq => cases heq
        · rfl
      | _ => rfl
    · have hc := hu.caps
      simp only [caps, State.cap?, List.filterMap_cons, List.map_cons, h, old, Option.map_none]
        at hc ⊢
      exact hc
    · simp only [notices, List.countP_cons, State.notifies, old]
      exact hu.notices

/-- A pool appears by being built. -/
theorem exists_build (act : s.act c = some s') (h : s.pool? home = none)
    (built : s'.pool? home = some p) : ∃ builder : Builder, builder.build s.now = .ok p ∧
      c = .build builder ∧ home = s.sites.length := by
  have absent {at_ : PoolId} {site site' : Site S} {leases : List (Lease S)} {calls : List (Call S)}
      {delivered : List S} (found : s.sites[at_]? = some site)
      (built :
        (State.mk s.now (s.sites.set at_ site') leases calls delivered).pool? home = some p) :
      False := by
    rw [State.pool?_of_set found] at built
    split at built
    · next hh =>
      subst hh
      rw [State.pool?_of_site found] at h
      cases h
    · rw [h] at built
      cases built
  cases happens_of_act act with
  | @build builder pool made =>
    have hge : s.sites.length ≤ home := by
      simpa [State.pool?] using h
    have hlt : home < s.sites.length + 1 := by
      simpa using State.lt_of_pool? built
    have hhome : home = s.sites.length := Nat.le_antisymm (Nat.lt_succ_iff.1 hlt) hge
    refine ⟨builder, ?_, rfl, hhome⟩
    subst hhome
    simp only [State.pool?, List.getElem?_concat_length, Option.map_some, Option.some.injEq]
      at built
    exact built ▸ made
  | adjust found | drop found owned free | step atWork found did | answer atWork found did =>
    exact (absent found built).elim
  | pass | begin | finish => cases built.symm.trans h

/-- The ledger of a pool that has just appeared is new. -/
theorem Run.new_ledger (run : Run past s) (act : s.act c = some s') (h : s.pool? home = none)
    (built : s'.pool? home = some p) : Ledger.New (ledger home ((s, c) :: past) s' p) := by
  obtain ⟨builder, made, rfl, rfl⟩ := exists_build act h built
  have hu := run.unbuilt h
  obtain ⟨held, roles⟩ := run.grounded.vacant h
  cases happens_of_act act with
  | build again =>
  cases again.symm.trans made
  simp only [Builder.build, Pool.new] at made
  split at made
  · next pool hnew =>
    split at hnew
    · cases hnew
    cases hnew
    cases made
    refine ⟨rfl, rfl, rfl, rfl, rfl, rfl, ?_, ?_, ?_, ?_, ?_⟩
    · simpa [ledger, State.roles, Call.roleAt, Task.role, Worker.role, Role.toList] using roles
    · simpa [ledger, State.held, Call.held, Task.leases] using held
    · simpa [ledger, enrolled_cons, State.enrolment] using hu.enrolled
    · have hcaps := hu.caps
      simp only [ledger, caps, List.filterMap_cons, List.map_cons] at hcaps ⊢
      rw [hcaps]
      simp [State.cap?, State.pool?]
    · simpa [ledger, notices, State.notifies, h] using hu.notices
  · cases made

/-- What holds of new ledgers and survives everything that happens holds in every run. -/
theorem Run.ledger_induction {motive : Ledger S → Prop} (new : ∀ d, d.New → motive d)
    (next : ∀ d d', d.Next d' → motive d → motive d') (run : Run past s)
    (built : s.pool? home = some p) :
    motive (ledger home past s p) := by
  induction run generalizing p with
  | start now => simp [State.pool?] at built
  | @next past s s' c run fresh act ih =>
    cases old : s.pool? home with
    | none => exact new _ (run.new_ledger act old built)
    | some q =>
      obtain ⟨p', built', step⟩ := next_of_act past run.grounded fresh act old
      cases built.symm.trans built'
      exact next _ _ step (ih old)

end Interleaving

end ConnectionPool
