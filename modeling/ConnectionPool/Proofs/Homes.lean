import Mathlib.Data.List.Perm.Basic
import ConnectionPool.Proofs.Ledger
import ConnectionPool.Proofs.Phases

set_option autoImplicit false

/-! # Where calls and leases belong

Calls and leases belong to pools that were built, and a transfer is a call on the home of the lease
that the session is to be taken from (`Grounded`). A call begins without any role, or it takes over
what a lease held (`Admission`). A pool that is gone does not come back (`alive_of_act`). -/

namespace ConnectionPool

namespace Interleaving

variable {S : Type}

/-! ## Lists with one entry changed -/

/-- A list with one entry replaced has the images of the other entries, and the new one's. -/
theorem exists_perm_flatMap_set {α β : Type} {l : List α} {i : Nat} {a : α} (f : α → List β)
    (h : l[i]? = some a) : ∃ rest, (l.flatMap f).Perm (f a ++ rest) ∧
      ∀ b, ((l.set i b).flatMap f).Perm (f b ++ rest) := by
  obtain ⟨hlt, rfl⟩ := List.getElem?_eq_some_iff.1 h
  refine ⟨(l.eraseIdx i).flatMap f, ?_, ?_⟩
  · simpa using ((List.getElem_cons_eraseIdx_perm hlt).symm.flatMap_right f)
  · intro b
    simpa using ((List.set_perm_cons_eraseIdx hlt b).flatMap_right f)

theorem filterMap_cons_toList {α β : Type} (f : α → Option β) (a : α) (l : List α) :
    (a :: l).filterMap f = (f a).toList ++ l.filterMap f := by
  cases h : f a <;> simp [h]

/-- A list with one entry taken out. -/
theorem perm_filterMap_eraseIdx {α β : Type} {l : List α} {i : Nat} {a : α} (f : α → Option β)
    (h : l[i]? = some a) : (l.filterMap f).Perm ((f a).toList ++ (l.eraseIdx i).filterMap f) := by
  obtain ⟨hlt, rfl⟩ := List.getElem?_eq_some_iff.1 h
  have hp := (List.getElem_cons_eraseIdx_perm hlt).symm.filterMap f
  cases hf : f l[i] <;> simpa [List.filterMap_cons, hf] using hp

/-! ## Pools in a state -/

namespace State

theorem pool?_of_site {s : State S} {home : PoolId} {site : Site S}
    (found : s.sites[home]? = some site) : s.pool? home = some site.pool := by
  simp [pool?, found]

theorem pool?_of_set {s : State S} {at_ home : PoolId} {site site' : Site S}
    {leases : List (Lease S)} {calls : List (Call S)} {delivered : List S}
    (found : s.sites[at_]? = some site) :
    (State.mk s.now (s.sites.set at_ site') leases calls delivered).pool? home =
      if home = at_ then some site'.pool else s.pool? home := by
  obtain ⟨hlt, -⟩ := List.getElem?_eq_some_iff.1 found
  by_cases hh : home = at_
  · subst hh
    simp [pool?, List.getElem?_set_self hlt]
  · simp [pool?, List.getElem?_set_ne (Ne.symm hh), hh]

/-- What is noted beside the shared state of a pool leaves it alone. -/
theorem pool?_of_set_same {s : State S} {at_ home : PoolId} {site site' : Site S}
    {leases : List (Lease S)} {calls : List (Call S)} {delivered : List S}
    (found : s.sites[at_]? = some site) (same : site'.pool = site.pool) :
    (State.mk s.now (s.sites.set at_ site') leases calls delivered).pool? home = s.pool? home := by
  rw [pool?_of_set found]
  split
  · next hh => rw [hh, pool?_of_site found, same]
  · rfl

theorem pool?_put {s : State S} {i : Nat} {call : Call S} {site : Site S}
    {p' : Pool S} {t' : Task S} (found : s.sites[call.home]? = some site) (home : PoolId) :
    (s.put i call site p' t').pool? home = if home = call.home then some p' else s.pool? home :=
  pool?_of_set found

theorem lt_of_owned {s : State S} {home : PoolId} (h : s.owned home = true) :
    home < s.sites.length := by
  simp only [owned, Option.any_eq_true] at h
  obtain ⟨site, found, -⟩ := h
  exact (List.getElem?_eq_some_iff.1 found).1

theorem alive_of_owned {s : State S} {home : PoolId} (h : s.owned home = true) :
    s.alive home = true := by
  simp [alive, h]

theorem lt_of_pool? {s : State S} {home : PoolId} {p : Pool S} (h : s.pool? home = some p) :
    home < s.sites.length := by
  simp only [pool?, Option.map_eq_some_iff] at h
  obtain ⟨site, found, -⟩ := h
  exact (List.getElem?_eq_some_iff.1 found).1

/-- A call that goes on changes one role. -/
theorem exists_roles_set {s : State S} {i : Nat} {call : Call S} (atWork : s.calls[i]? = some call)
    (home : PoolId) : ∃ rest, (s.roles home).Perm (call.roleAt home ++ rest) ∧
      ∀ task, ((s.calls.set i { call with task }).flatMap (Call.roleAt home)).Perm
        (({ call with task } : Call S).roleAt home ++ rest) := by
  obtain ⟨rest, before, after⟩ := exists_perm_flatMap_set (Call.roleAt home) atWork
  exact ⟨rest, before, fun task => after _⟩

/-- Nobody but the call that goes on takes a part up. -/
theorem mem_roles_set {s s' : State S} {i : Nat} {call : Call S}
    (atWork : s.calls[i]? = some call) {task : Task S}
    (calls : s'.calls = s.calls.set i { call with task }) {home : PoolId} {r : Role S}
    (mem : r ∈ s'.roles home) :
    r ∈ s.roles home ∨ call.home = home ∧ task.role = r := by
  obtain ⟨rest, before, after⟩ := exists_roles_set atWork home
  rw [roles, calls] at mem
  rcases List.mem_append.1 ((after task).mem_iff.1 mem) with mem | mem
  · unfold Call.roleAt at mem
    split at mem
    · next here => exact .inr ⟨here, (Role.eq_of_mem_toList mem).symm⟩
    · cases mem
  · exact .inl (before.mem_iff.2 (List.mem_append_right _ mem))

theorem mem_roles_iff {s : State S} {home : PoolId} {r : Role S} (h : r ≠ .none) :
    r ∈ s.roles home ↔ ∃ (i : Nat) (call : Call S), s.calls[i]? = some call ∧ call.home = home ∧
      call.task.role = r := by
  constructor
  · intro hr
    obtain ⟨call, hcall, hr⟩ := List.mem_flatMap.1 hr
    obtain ⟨i, atWork⟩ := List.mem_iff_getElem?.1 hcall
    simp only [Call.roleAt] at hr
    split at hr
    · next hh => exact ⟨i, call, atWork, hh, (Role.eq_of_mem_toList hr).symm⟩
    · cases hr
  · rintro ⟨i, call, atWork, hh, rfl⟩
    refine List.mem_flatMap.2 ⟨call, List.mem_of_getElem? atWork, ?_⟩
    rw [Call.roleAt, if_pos hh]
    exact Role.mem_toList h

/-- A call that goes on with the same leases leaves what is held as it is. -/
theorem held_set_of_held_eq {s : State S} {i : Nat} {call call' : Call S} {home : PoolId}
    (atWork : s.calls[i]? = some call) (same : call'.held home = call.held home) :
    ((s.calls.set i call').flatMap (Call.held home)).Perm (s.calls.flatMap (Call.held home)) := by
  obtain ⟨rest, before, after⟩ := exists_perm_flatMap_set (Call.held home) atWork
  rw [← same] at before
  exact (after call').trans before.symm

end State

/-! ## Grounded states -/

/-- The state makes sense as far as the homes of calls and leases are concerned. -/
structure Grounded (s : State S) : Prop where
  calls : ∀ c ∈ s.calls, c.home < s.sites.length
  leases : ∀ l ∈ s.leases, l.home < s.sites.length
  tasks : ∀ c ∈ s.calls, ∀ l ∈ c.task.leases, l.home < s.sites.length
  sources : ∀ c ∈ s.calls, ∀ l, c.task.source? = some l → l.home = c.home

namespace Grounded

theorem start (now : Instant) : Grounded ({ now } : State S) :=
  ⟨by simp, by simp, by simp, by simp⟩

variable {s : State S}

theorem lt_of_alive {home : PoolId} (g : Grounded s) (h : s.alive home = true) :
    home < s.sites.length := by
  simp only [State.alive, Bool.or_eq_true, List.any_eq_true, Bool.and_eq_true, beq_iff_eq] at h
  rcases h with h | ⟨c, hc, rfl, -⟩
  · exact State.lt_of_owned h
  · exact g.calls c hc

/-- A call more. -/
theorem append {leases : List (Lease S)} {sites : List (Site S)} {call : Call S} (g : Grounded s)
    (size : s.sites.length ≤ sites.length) (home : call.home < sites.length)
    (held : ∀ l ∈ leases, l.home < s.sites.length)
    (own : ∀ l ∈ call.task.leases, l.home < s.sites.length)
    (source : ∀ l, call.task.source? = some l → l.home = call.home) :
    Grounded { s with sites, leases, calls := s.calls ++ [call] } := by
  refine ⟨?_, fun l hl => Nat.lt_of_lt_of_le (held l hl) size, ?_, ?_⟩
  · intro c hc
    rcases List.mem_append.1 hc with hc | hc
    · exact Nat.lt_of_lt_of_le (g.calls c hc) size
    · rw [List.mem_singleton.1 hc]
      exact home
  · intro c hc l hl
    rcases List.mem_append.1 hc with hc | hc
    · exact Nat.lt_of_lt_of_le (g.tasks c hc l hl) size
    · rw [List.mem_singleton.1 hc] at hl
      exact Nat.lt_of_lt_of_le (own l hl) size
  · intro c hc
    rcases List.mem_append.1 hc with hc | hc
    · exact g.sources c hc
    · rw [List.mem_singleton.1 hc]
      exact source

/-- A call that goes on. -/
theorem set {leases : List (Lease S)} {sites : List (Site S)} {delivered : List S} {i : Nat}
    {call : Call S} {task : Task S} (g : Grounded s) (atWork : s.calls[i]? = some call)
    (size : sites.length = s.sites.length) (held : ∀ l ∈ leases, l.home < s.sites.length)
    (own : ∀ l ∈ task.leases, l.home < s.sites.length)
    (source : ∀ l, task.source? = some l → call.task.source? = some l) :
    Grounded { s with sites, leases, calls := s.calls.set i { call with task }, delivered } := by
  have hcall : call ∈ s.calls := List.mem_of_getElem? atWork
  refine ⟨?_, fun l hl => size ▸ held l hl, ?_, ?_⟩
  · intro c hc
    rcases List.mem_or_eq_of_mem_set hc with hc | rfl
    · exact size ▸ g.calls c hc
    · exact size ▸ g.calls call hcall
  · intro c hc l hl
    rcases List.mem_or_eq_of_mem_set hc with hc | rfl
    · exact size ▸ g.tasks c hc l hl
    · exact size ▸ own l hl
  · intro c hc l hl
    rcases List.mem_or_eq_of_mem_set hc with hc | rfl
    · exact g.sources c hc l hl
    · exact g.sources call hcall l (source l hl)

end Grounded

/-! ## Beginning a call -/

/-- The role of whoever is to give the session of a lease back. -/
def claimOf (l : Lease S) : Role S :=
  match l.session with
  | some _ => .claim l.info.key
  | none => .none

theorem role_giveBack (l : Lease S) : l.giveBack.2.role = claimOf l := by
  obtain ⟨home, session, info⟩ := l
  cases session <;> rfl

theorem role_surrender (l : Lease S) : (Surrender.start l).role = claimOf l := by
  obtain ⟨home, session, info⟩ := l
  cases session <;> rfl

theorem holdsPool_giveBack (l : Lease S) : l.giveBack.2.holdsPool = false := by
  obtain ⟨home, session, info⟩ := l
  cases session <;> rfl

theorem holdsPool_surrender (l : Lease S) : (Surrender.start l).holdsPool = false := by
  obtain ⟨home, session, info⟩ := l
  cases session <;> rfl

/-- Whoever is to give the session of a lease back has taken over what the lease held. -/
theorem roleAt_claimOf {l : Lease S} {byWorker : Bool} {task : Task S} (h : task.role = claimOf l)
    (home : PoolId) : (Call.mk l.home byWorker task).roleAt home =
      (record? home l).toList.map fun r => .claim r.info.key := by
  simp only [Call.roleAt, h, record?, claimOf]
  split
  · cases l.session <;> rfl
  · rfl

/-- What a request may begin with, and which leases remain. -/
inductive Admission (s : State S) : List (Lease S) → Call S → Prop
  /-- A call that concerns no lease. -/
  | plain {call : Call S} (alive : s.alive call.home = true) (role : call.task.role = .none)
      (leases : call.task.leases = []) (source : call.task.source? = none) :
      Admission s s.leases call
  /-- A lease gives its session back, or has it taken out; it may be kept. -/
  | settle {n : Nat} {l : Lease S} {task : Task S} (found : s.leases[n]? = some l)
      (role : task.role = claimOf l)
      (leases : ∀ k ∈ task.leases, k.home = l.home ∧ k.session = none)
      (source : task.source? = none) (keeps : task.keeps = false) :
      Admission s (s.leases.eraseIdx n) ⟨l.home, false, task⟩
  /-- A lease is to take over the session of another one. -/
  | transfer {m n : Nat} {target source : Lease S} (found : s.leases[n]? = some source)
      (found' : (s.leases.eraseIdx n)[m]? = some target) :
      Admission s ((s.leases.eraseIdx n).eraseIdx m)
        ⟨source.home, false, .transfer (.start target source)⟩

theorem admission_of_enter {s : State S} {request : Request}
    {leases : List (Lease S)} {call : Call S} (h : s.enter request = some (leases, call)) :
    Admission s leases call := by
  cases request with
  | acquire | acquireWithin | tryAcquire | resize | shutDown =>
    simp only [State.enter] at h
    split at h
    · next owned =>
      cases h
      exact .plain (State.alive_of_owned owned) rfl rfl rfl
    · cases h
  | cycle home interval statement =>
    simp only [State.enter] at h
    split at h
    · next alive =>
      cases h
      exact .plain alive rfl rfl rfl
    · cases h
  | release n =>
    obtain ⟨l, found, h⟩ := Option.bind_eq_some_iff.1 h
    cases h
    exact .settle found (role_giveBack l) (by simp [Task.leases, Lease.giveBack]) rfl
      (holdsPool_giveBack l)
  | dropLease n =>
    obtain ⟨l, found, h⟩ := Option.bind_eq_some_iff.1 h
    cases h
    exact .settle found (role_giveBack l) (by simp [Task.leases]) rfl (holdsPool_giveBack l)
  | surrender n =>
    obtain ⟨l, found, h⟩ := Option.bind_eq_some_iff.1 h
    cases h
    exact .settle found (role_surrender l) (by simp [Task.leases]) rfl (holdsPool_surrender l)
  | transfer m n =>
    obtain ⟨source, found, h⟩ := Option.bind_eq_some_iff.1 h
    obtain ⟨target, found', h⟩ := Option.bind_eq_some_iff.1 h
    cases h
    exact .transfer found found'

/-! ## What every choice keeps -/

variable {s s' : State S} {c : Choice S} {home : PoolId} {p : Pool S}

theorem HandsOver.role {t t' : Task S} (h : HandsOver t t') : t.role = .none := by
  cases h <;> rfl

theorem HandsOver.leases_subset {t t' : Task S} (h : HandsOver t t') : t'.leases ⊆ t.leases := by
  cases h with
  | settled => exact List.subset_cons_self _ _
  | abandoned => simp [Task.leases]

/-- The leases in the hands of a call do not get more by a step. -/
theorem leases_of_step {v : View S} {p' : Pool S} {t t' : Task S} (h : t.step v p = some (p', t')) :
    t'.leases ⊆ t.leases := by
  rcases Task.moves_of_step h with ⟨same, -⟩ | ⟨-, hands⟩
  · exact same ▸ List.Subset.refl _
  · exact hands.leases_subset

theorem Grounded.admission {leases : List (Lease S)} {call : Call S} (g : Grounded s)
    (h : Admission s leases call) : Grounded { s with leases, calls := s.calls ++ [call] } := by
  -- the leases that the caller keeps are some of those it had
  have erase {n : Nat} {l : Lease S} (hl : l ∈ s.leases.eraseIdx n) : l.home < s.sites.length :=
    g.leases l (List.mem_of_mem_eraseIdx hl)
  cases h with
  | plain alive role none source =>
    refine g.append (Nat.le_refl _) (g.lt_of_alive alive) g.leases ?_ ?_
    · simp [none]
    · simp [source]
  | settle found role own source keeps =>
    have hl := g.leases _ (List.mem_of_getElem? found)
    refine g.append (Nat.le_refl _) hl (fun l hl => erase hl) ?_ (by simp [source])
    intro l hl'
    rw [(own l hl').1]
    exact hl
  | transfer found found' =>
    next m n target source =>
    have hs := g.leases _ (List.mem_of_getElem? found)
    have ht := erase (List.mem_of_getElem? found')
    refine g.append (Nat.le_refl _) hs (fun l hl => erase (List.mem_of_mem_eraseIdx hl)) ?_ ?_
    · simp only [Transfer.start]
      split
      · simp only [Task.leases, List.mem_cons, List.not_mem_nil, or_false,
          forall_eq_or_imp, forall_eq]
        exact ⟨hs, hs⟩
      · simpa [Task.leases] using ht
    · simp only [Transfer.start]
      split
      · intro l hl
        cases hl
        rfl
      · simp [Task.source?]

theorem Grounded.act (g : Grounded s) (act : s.act c = some s') : Grounded s' := by
  cases happens_of_act act with
  | pass d => exact ⟨g.calls, g.leases, g.tasks, g.sources⟩
  | build built =>
    refine g.append (by simp) (by simp) g.leases ?_ ?_
    · simp [Task.leases]
    · simp [Task.source?]
  | adjust found =>
    exact ⟨by simpa using g.calls, by simpa using g.leases, by simpa using g.tasks, g.sources⟩
  | begin admitted => exact g.admission (admission_of_enter admitted)
  | drop found owned free =>
    refine g.append (by simp) ?_ g.leases ?_ ?_
    · simpa using (List.getElem?_eq_some_iff.1 found).1
    · simp [Task.leases]
    · simp [Task.source?]
  | step atWork found did =>
    have hcall := List.mem_of_getElem? atWork
    refine g.set atWork (by simp) g.leases
      (fun l hl => g.tasks _ hcall l (leases_of_step did hl)) ?_
    exact fun l hl => Task.source?_of_step did hl
  | @answer i reply call site t' atWork found did =>
    have hcall := List.mem_of_getElem? atWork
    have same : t'.leases = call.task.leases :=
      (@Task.moves_of_answer _ (s.view call (fun _ => false) false) site.pool _ _ _ did).1
    refine g.set atWork List.length_set g.leases (fun l hl => g.tasks _ hcall l ?_) ?_
    · rwa [← same]
    · intro l hl
      rwa [← Task.source?_of_answer did]
  | finish atWork ended =>
    have hcall := List.mem_of_getElem? atWork
    refine g.set atWork rfl ?_ (by simp [Task.leases]) (by simp [Task.source?])
    intro l hl
    rcases List.mem_append.1 hl with hl | hl
    · exact g.leases l hl
    · rcases List.mem_append.1 hl with hl | hl
      · exact g.tasks _ hcall l hl
      · obtain ⟨r, -, rfl⟩ := List.mem_map.1 hl
        exact g.calls _ hcall

theorem Run.grounded {past : List (State S × Choice S)} (run : Run past s) : Grounded s := by
  induction run with
  | start now => exact .start now
  | next run fresh act ih => exact ih.act act

theorem State.exists_pool {s : State S} {home : PoolId} (h : home < s.sites.length) :
    ∃ p, s.pool? home = some p :=
  ⟨_, State.pool?_of_site (List.getElem?_eq_getElem h)⟩

theorem Grounded.exists_pool {s : State S} (g : Grounded s) {i : Nat} {call : Call S}
    (atWork : s.calls[i]? = some call) : ∃ p, s.pool? call.home = some p :=
  State.exists_pool (g.calls call (List.mem_of_getElem? atWork))

/-- No call is on a pool that is not built yet. -/
theorem Grounded.elsewhere (g : Grounded s) (h : s.pool? home = none) {call : Call S}
    (hc : call ∈ s.calls) : call.home ≠ home := by
  rintro rfl
  obtain ⟨p, built⟩ := State.exists_pool (g.calls call hc)
  rw [h] at built
  cases built

/-- No lease and no call can be of a pool that is not built yet. -/
theorem Grounded.vacant (g : Grounded s) (h : s.pool? home = none) :
    s.held home = [] ∧ s.roles home = [] := by
  have elsewhere {l : Lease S} (hl : l.home < s.sites.length) : record? home l = none := by
    refine if_neg ?_
    rintro rfl
    obtain ⟨p, built⟩ := State.exists_pool hl
    rw [h] at built
    cases built
  refine ⟨List.append_eq_nil_iff.2 ⟨?_, ?_⟩, ?_⟩
  · exact List.filterMap_eq_nil_iff.2 fun l hl => elsewhere (g.leases l hl)
  · refine List.flatMap_eq_nil_iff.2 fun call hc => ?_
    exact List.filterMap_eq_nil_iff.2 fun l hl => elsewhere (g.tasks call hc l hl)
  · exact List.flatMap_eq_nil_iff.2 fun call hc => if_neg (g.elsewhere h hc)

/-! ## Pools persist, and never come back -/

theorem State.alive_iff : s.alive home = true ↔
    s.owned home = true ∨ ∃ c ∈ s.calls, c.home = home ∧ c.task.keeps = true := by
  simp [State.alive]

theorem State.owned_of_set {at_ : PoolId} {site site' : Site S} {leases : List (Lease S)}
    {calls : List (Call S)} {delivered : List S} (found : s.sites[at_]? = some site)
    (h : (State.mk s.now (s.sites.set at_ site') leases calls delivered).owned home = true)
    (less : site'.owned = true → site.owned = true) : s.owned home = true := by
  simp only [State.owned, List.getElem?_set] at h ⊢
  split at h
  · next heq =>
    subst heq
    split at h
    · simpa [found] using less (by simpa using h)
    · simp at h
  · exact h

/-- A pool that was gone stays gone. -/
theorem alive_of_act (act : s.act c = some s') (built : s.pool? home = some p)
    (alive : s'.alive home = true) : s.alive home = true := by
  have old {call : Call S} (hc : call ∈ s.calls) (hh : call.home = home)
      (hk : call.task.keeps = true) :
      s.alive home = true := State.alive_iff.2 (.inr ⟨call, hc, hh, hk⟩)
  have added {call call' : Call S} (hc : call' ∈ s.calls ++ [call]) (hh : call'.home = home)
      (hk : call'.task.keeps = true)
      (new : call.home = home → call.task.keeps = true → s.alive home = true) :
      s.alive home = true := by
    rcases List.mem_append.1 hc with hc | hc
    · exact old hc hh hk
    · rw [List.mem_singleton.1 hc] at hh hk
      exact new hh hk
  -- a pool is kept by its owner or by a call, and no choice adds either unless the pool exists
  cases happens_of_act act with
  | pass d => exact alive
  | build made =>
    have hlt := State.lt_of_pool? built
    rcases State.alive_iff.1 alive with h | ⟨call, hc, hh, hk⟩
    · refine State.alive_of_owned ?_
      simpa [State.owned, List.getElem?_append_left hlt] using h
    · refine added hc hh hk ?_
      intro _ held
      cases held
  | adjust found =>
    rcases State.alive_iff.1 alive with h | ⟨call, hc, hh, hk⟩
    · exact State.alive_of_owned (State.owned_of_set found h id)
    · exact old hc hh hk
  | begin admitted =>
    rcases State.alive_iff.1 alive with h | ⟨call, hc, hh, hk⟩
    · exact State.alive_of_owned h
    · refine added hc hh hk ?_
      intro hhome hkeeps
      cases admission_of_enter admitted with
      | plain alive => exact hhome ▸ alive
      | settle found role own source keeps => exact absurd hkeeps (by simp [keeps])
      | transfer found found' =>
        refine absurd hkeeps ?_
        simp only [Transfer.start, Task.keeps]
        split <;> simp [Transfer.holdsPool, holdsPool_giveBack]
  | drop found owned free =>
    rcases State.alive_iff.1 alive with h | ⟨call, hc, hh, hk⟩
    · exact State.alive_of_owned (State.owned_of_set found h (by simp))
    · refine added hc hh hk ?_
      intro hhome _
      subst hhome
      exact State.alive_of_owned (by simp [State.owned, found, owned])
  | step atWork found did =>
    have hcall := List.mem_of_getElem? atWork
    rcases State.alive_iff.1 alive with h | ⟨call, hc, hh, hk⟩
    · exact State.alive_of_owned (State.owned_of_set found h id)
    · rcases List.mem_or_eq_of_mem_set hc with hc | rfl
      · exact old hc hh hk
      · rcases Task.keeps_of_step did hk with hk | ha
        · exact old hcall hh hk
        · exact hh ▸ ha
  | answer atWork found did =>
    have hcall := List.mem_of_getElem? atWork
    rcases State.alive_iff.1 alive with h | ⟨call, hc, hh, hk⟩
    · exact State.alive_of_owned (State.owned_of_set found h id)
    · rcases List.mem_or_eq_of_mem_set hc with hc | rfl
      · exact old hc hh hk
      · exact old hcall hh (Task.keeps_of_answer did hk)
  | finish atWork ended =>
    rcases State.alive_iff.1 alive with h | ⟨call, hc, hh, hk⟩
    · exact State.alive_of_owned h
    · rcases List.mem_or_eq_of_mem_set hc with hc | rfl
      · exact old hc hh hk
      · cases hk

theorem delivered_subset (act : s.act c = some s') : s.delivered ⊆ s'.delivered := by
  cases happens_of_act act with
  | answer => exact List.subset_append_right _ _
  | _ => exact List.Subset.refl _

end Interleaving

end ConnectionPool
