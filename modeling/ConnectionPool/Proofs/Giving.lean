import ConnectionPool.Proofs.Returns
import ConnectionPool.Proofs.Timeless
import Mathlib.Data.Multiset.Basic

set_option autoImplicit false

/-! # Giving back in one go

What giving a session back does to a pool can be said in one go (`Pool.settle`), if nobody else does
anything meanwhile and it is known what the session is like: whether it is connected, and how it
ends to close it (`Health`). The stamps of the sessions apart, that is all that comes of the single
steps (`GivenBack.eq_give`).

Said like that it is plain that two sessions can be given back in either order (`Health.give_comm`):
what becomes of one depends on its own record alone, and leaves that of the other as it is. -/

namespace ConnectionPool

namespace Roster

variable {α : Type} (r : Roster α)

theorem erase_comm (k k' : SessionKey) : (r.erase k).erase k' = (r.erase k').erase k := by
  refine ext_find? fun key => ?_
  simp only [find?_erase]
  split <;> split <;> rfl

theorem insert_comm {k k' : SessionKey} (ne : k ≠ k') (a a' : α) :
    (r.insert k a).insert k' a' = (r.insert k' a').insert k a := by
  refine ext_find? fun key => ?_
  simp only [find?_insert]
  by_cases hk : key = k
  · subst hk
    simp [ne]
  · simp [hk]

end Roster

/-! ## Giving back in one go -/

/-- How sessions are: whether each is connected, and how it ends to close it. -/
structure Health (S : Type) where
  connected : S → Bool
  closing : S → Outcome Empty Unit

namespace Health

variable {S : Type}

/-- Whether a session becomes idle again. -/
def shelves (h : Health S) (closed : Bool) (session : S) : Bool := !closed && h.connected session

/-- Whether a session is closed, and that comes to an end. -/
def discards (h : Health S) (closed : Bool) (session : S) : Bool :=
  !h.shelves closed session && !(h.closing session).isPanic

end Health

variable {S : Type} {h : Health S} {p : Pool S} {now : Instant}

namespace Pool

/-- The pool after a session was given back whose record it has. Whoever gives it back does not come
to count it and to tell the others if closing it breaks off. -/
def settle (p : Pool S) (h : Health S) (now : Instant) (key : SessionKey) (r : Record S) : Pool S :=
  { p with
    active := p.active.erase key
    idle := if h.shelves p.closed r.session then p.idle.insert key (r.checkIn now) else p.idle
    epoch := if h.shelves p.closed r.session || h.discards p.closed r.session then p.epoch + 1
      else p.epoch
    tally := if h.discards p.closed r.session then { p.tally with
        closed := p.tally.closed + 1
        evictions := if p.closed then p.tally.evictions else p.tally.evictions + 1 }
      else p.tally }

/-- Two sessions can be given back in either order. -/
theorem settle_comm {k k' : SessionKey} (ne : k ≠ k') (r r' : Record S) :
    (p.settle h now k r).settle h now k' r' = (p.settle h now k' r').settle h now k r := by
  have idle := p.idle.insert_comm ne (r.checkIn now) (r'.checkIn now)
  have active := p.active.erase_comm k k'
  simp only [settle, active]
  cases h.shelves p.closed r.session <;> cases h.shelves p.closed r'.session <;>
    cases h.discards p.closed r.session <;> cases h.discards p.closed r'.session <;>
    cases p.closed <;> simp [idle]

theorem timeless_settle (key : SessionKey) (r : Record S) :
    (p.settle h now key r).timeless = p.timeless.settle h .start key r.timeless := by
  have idle :
      (if h.shelves p.closed r.session then p.idle.insert key (r.checkIn now) else p.idle).map
        (fun _ r => r.timeless) =
      if h.shelves p.closed r.session then
        (p.idle.map fun _ r => r.timeless).insert key (r.timeless.checkIn .start)
      else p.idle.map fun _ r => r.timeless := by
    split
    · exact Roster.map_insert p.idle Record.timeless key (r.checkIn now)
    · rfl
  simp only [settle, timeless, Roster.map_erase, Record.session_timeless, idle]
  rfl

@[simp] theorem closed_settle (key : SessionKey) (r : Record S) :
    (p.settle h now key r).closed = p.closed := rfl

@[simp] theorem find?_active_settle (k k' : SessionKey) (r : Record S) :
    (p.settle h now k r).active.find? k' = if k' = k then none else p.active.find? k' :=
  Roster.find?_erase _ _ _

/-- Taking back a session whose record is there. -/
theorem takeBack_of_found {key : SessionKey} {r : Record S} {connected : S → Bool}
    (found : p.active.find? key = some r) (same : connected r.session = h.connected r.session) :
    p.takeBack key connected now =
      if h.shelves p.closed r.session then
        some ({ p with active := p.active.erase key, idle := p.idle.insert key (r.checkIn now) },
          none)
      else some ({ p with active := p.active.erase key }, some r.session) := by
  rw [takeBack, found, Health.shelves, ← same]

end Pool

namespace Health

/-- Give the session of a lease back to a pool that exists or not: the pool afterwards, and the
sessions that were closed. -/
def give (h : Health S) (alive : Bool) (x : Pool S × Multiset S)
    (l : Lease S) : Pool S × Multiset S :=
  if alive then
    match x.1.active.find? l.info.key with
    | none => x
    | some r => (x.1.settle h .start l.info.key r,
        if h.shelves x.1.closed r.session then x.2 else r.session ::ₘ x.2)
  else (x.1, ↑l.session.toList + x.2)

theorem give_of_found {x : Pool S × Multiset S} {l : Lease S} {r : Record S}
    (found : x.1.active.find? l.info.key = some r) :
    h.give true x l = (x.1.settle h .start l.info.key r,
      if h.shelves x.1.closed r.session then x.2 else r.session ::ₘ x.2) := by
  simp [give, found]

theorem give_of_absent {x : Pool S × Multiset S} {l : Lease S}
    (absent : x.1.active.find? l.info.key = none) : h.give true x l = x := by
  simp [give, absent]

/-- Two leases can be given back in either order. -/
theorem give_comm (h : Health S) (alive : Bool) (x : Pool S × Multiset S) (l l' : Lease S) :
    h.give alive (h.give alive x l) l' = h.give alive (h.give alive x l') l := by
  obtain ⟨p, m⟩ := x
  cases alive with
  | false => simp [give, add_left_comm]
  | true =>
    by_cases same : l'.info.key = l.info.key
    · have alike (x : Pool S × Multiset S) : h.give true x l' = h.give true x l := by
        simp [give, same]
      rw [alike, alike]
    · have other : ¬ l.info.key = l'.info.key := fun eq => same eq.symm
      cases found : p.active.find? l.info.key with
      | none =>
        cases found' : p.active.find? l'.info.key <;> simp [give, found, found', other]
      | some r =>
        cases found' : p.active.find? l'.info.key with
        | none => simp [give, found, found', same]
        | some r' =>
          -- the records of two sessions have nothing to do with each other
          have pools : (p.settle h .start l.info.key r).settle h .start l'.info.key r' =
              (p.settle h .start l'.info.key r').settle h .start l.info.key r :=
            Pool.settle_comm other r r'
          simp only [give, found, found', Pool.find?_active_settle, Pool.closed_settle, if_neg same,
            if_neg other, pools, if_true]
          split <;> split <;> simp [Multiset.cons_swap]

instance (h : Health S) (alive : Bool) : RightCommutative (h.give alive) := ⟨h.give_comm alive⟩

/-- No session becomes active. -/
theorem find?_active_give {alive : Bool} {x : Pool S × Multiset S} {l : Lease S}
    {k : SessionKey} {r : Record S} (found : (h.give alive x l).1.active.find? k = some r) :
    x.1.active.find? k = some r := by
  cases alive with
  | false => exact found
  | true =>
    cases known : x.1.active.find? l.info.key with
    | none => rwa [give_of_absent known] at found
    | some r' =>
      rw [give_of_found known, Pool.find?_active_settle] at found
      split at found
      · cases found
      · exact found

end Health

/-- A session is taken back in any case, and then it is unknown, idle or not wanted. -/
theorem Release.exists_step_takeBack (v : View S) (p : Pool S) (key : SessionKey) :
    ∃ p' r', (takeBack key).step v p = some (p', r') ∧
      ((∃ outcome, r' = done outcome) ∨ r' = announce ∨ ∃ session, r' = readClosed session) := by
  simp only [step]
  split
  · exact ⟨_, _, rfl, .inl ⟨_, rfl⟩⟩
  · exact ⟨_, _, rfl, .inr (.inl rfl)⟩
  · exact ⟨_, _, rfl, .inr (.inr ⟨_, rfl⟩)⟩

namespace Interleaving

variable {l : Lease S} {ms : List (Move S)} {p' : Pool S}

/-! ## Giving back step by step -/

/-- The sessions that were closed, whether that came to an end or not. -/
def closedSessions (cs : List (Contact S)) : List S :=
  cs.filterMap fun
    | .closed session _ => some session
    | _ => none

/-- What a call sees of a session is how the session is. -/
structure Shown (h : Health S) (session : S) (ms : List (Move S)) : Prop where
  connected : ∀ v p p' learned, .step v p p' learned ∈ ms →
    v.connected session = h.connected session
  closing : ∀ outcome, .closed session outcome ∈ contacts ms → outcome = h.closing session

/-- A call that nobody disturbs gives the session of a lease back to a pool that exists or not, and
has led it from one state to another so far. -/
structure Giver (h : Health S) (l : Lease S) (session : S) (alive : Bool) (p : Pool S)
    (ms : List (Move S)) (p' : Pool S) : Prop where
  has : l.session = some session
  own : ∀ r, p.active.find? l.info.key = some r → r.session = session
  shown : Shown h session ms
  chained : Chained p (effects ms) p'
  first : ∀ ms' v q q' learned, ms = ms' ++ [.step v q q' learned] → v.alive = alive

namespace Giver

variable {session : S} {alive : Bool} {v : View S} {q q' : Pool S} {rejected : Option S}
  {contact : Contact S}

theorem of_step (g : Giver h l session alive p (.step v q q' none :: ms) p') :
    p' = q' ∧ v.connected session = h.connected session ∧ Giver h l session alive p ms q where
  left := g.chained.1
  right := by
    refine ⟨g.shown.connected _ _ _ _ List.mem_cons_self, g.has, g.own, ?_, g.chained.2,
      fun ms' _ _ _ _ all => g.first (_ :: ms') _ _ _ _ (congrArg _ all)⟩
    exact ⟨fun w r r' learned mem => g.shown.connected _ _ _ _ (List.mem_cons_of_mem _ mem),
      g.shown.closing⟩

theorem of_hear (g : Giver h l session alive p (.hear contact :: ms) p') :
    Giver h l session alive p ms p' := by
  refine ⟨g.has, g.own,
    ⟨fun w r r' learned mem => g.shown.connected _ _ _ _ (List.mem_cons_of_mem _ mem),
      fun outcome mem => g.shown.closing outcome (List.mem_cons_of_mem _ mem)⟩,
    g.chained, fun ms' _ _ _ _ all => g.first (_ :: ms') _ _ _ _ (congrArg _ all)⟩

/-- Nothing was done yet. -/
theorem of_reaches {there : Bool} (g : Giver h l session alive p ms p')
    (reaches : Reaches l there ms) : p' = p ∧ alive = there ∧ contacts ms = [] := by
  obtain ⟨session', v, q, -, there, rfl⟩ := reaches
  obtain ⟨rfl, -, g'⟩ := g.of_step
  exact ⟨g'.chained, (g.first [] v _ _ _ rfl).symm.trans there, rfl⟩

/-- The session was taken back. -/
theorem of_takesBack (g : Giver h l session alive p ms p') (takes : TakesBack l rejected ms) :
    alive = true ∧ contacts ms = [] ∧ ∃ r now, p.active.find? l.info.key = some r ∧
      r.session = session ∧
      if h.shelves p.closed session then
        rejected = none ∧ p' = { p with
          active := p.active.erase l.info.key, idle := p.idle.insert l.info.key (r.checkIn now) }
      else rejected = some session ∧ p' = { p with active := p.active.erase l.info.key } := by
  obtain ⟨v, q, q', ms, rfl, took, reaches⟩ := takes
  obtain ⟨rfl, same, g'⟩ := g.of_step
  obtain ⟨rfl, there, silent⟩ := g'.of_reaches reaches
  refine ⟨there, silent, ?_⟩
  cases found : q.active.find? l.info.key with
  | none => simp [Pool.takeBack, found] at took
  | some r =>
    have is := g.own r found
    rw [Pool.takeBack_of_found found (h := h) (is ▸ same), is] at took
    refine ⟨r, v.now, rfl, is, ?_⟩
    split at took
    · next shelves =>
      cases took
      rw [if_pos shelves]
      exact ⟨rfl, rfl⟩
    · next rejects =>
      cases took
      rw [if_neg rejects]
      exact ⟨rfl, rfl⟩

/-- It is not wanted. -/
theorem of_rejects {unwanted : S} {closing : Bool} (g : Giver h l session alive p ms p')
    (rejects : Rejects l unwanted closing ms) :
    alive = true ∧ contacts ms = [] ∧ unwanted = session ∧ closing = p.closed ∧
      h.shelves p.closed session = false ∧ ∃ r, p.active.find? l.info.key = some r ∧
      r.session = session ∧ p' = { p with active := p.active.erase l.info.key } := by
  obtain ⟨v, q, ms, rfl, closed, takes⟩ := rejects
  obtain ⟨rfl, -, g'⟩ := g.of_step
  obtain ⟨there, silent, r, now, found, is, taken⟩ := g'.of_takesBack takes
  cases shelves : h.shelves p.closed session with
  | true =>
    rw [if_pos shelves] at taken
    cases taken.1
  | false =>
    rw [if_neg (by simp [shelves])] at taken
    obtain ⟨same, rfl⟩ := taken
    exact ⟨there, silent, Option.some.inj same, closed.symm, rfl, r, found, is, rfl⟩

/-- It was closed, and is counted. -/
theorem of_counts (g : Giver h l session alive p ms p') (counts : Counts l ms) : alive = true ∧
    contacts ms = [.closed session (.value ())] ∧ h.shelves p.closed session = false ∧
      h.closing session = .value () ∧ ∃ r, p.active.find? l.info.key = some r ∧
      r.session = session ∧ p' = { p with
          active := p.active.erase l.info.key
          tally := { p.tally with
            closed := p.tally.closed + 1
            evictions := if p.closed then p.tally.evictions else p.tally.evictions + 1 } } := by
  obtain ⟨closing, v, q, ms₁, rfl, unwanted, ms, rfl, rejects⟩ := counts
  obtain ⟨rfl, -, g'⟩ := g.of_step
  obtain ⟨there, silent, rfl, rfl, shelves, r, found, is, rfl⟩ := g'.of_hear.of_rejects rejects
  refine ⟨there, ?_, shelves, ?_, r, found, is, rfl⟩
  · rw [contacts_step_none, contacts_hear, silent]
  · exact (g'.shown.closing _ (by rw [contacts_hear]; exact List.mem_cons_self)).symm

end Giver

/-- Giving back step by step comes to the same as giving back in one go. -/
theorem GivenBack.eq_give {outcome : Outcome Error Unit} {session : S} {alive : Bool}
    (given : GivenBack l ms outcome) (g : Giver h l session alive p ms p') (m : Multiset S) :
    (p'.timeless, ↑(closedSessions (contacts ms)) + m) = h.give alive (p.timeless, m) l := by
  -- what is left to show where the record of the session is found
  have found {r : Record S} (found : p.active.find? l.info.key = some r)
      (there : alive = true) (now : Instant) (pool : p' = p.settle h now l.info.key r)
      (closed : closedSessions (contacts ms) =
        if h.shelves p.closed r.session then [] else [r.session]) :
      (p'.timeless, ↑(closedSessions (contacts ms)) + m) = h.give alive (p.timeless, m) l := by
    have found' : p.timeless.active.find? l.info.key = some r.timeless := by
      simp [Pool.timeless, found]
    rw [there, Health.give_of_found found', pool, Pool.timeless_settle, closed]
    simp only [Pool.closed_timeless, Record.session_timeless]
    by_cases shelves : h.shelves p.closed r.session = true <;>
      simp [shelves, Multiset.singleton_add]
  cases given with
  | spent none => cases g.has.symm.trans none
  | home released =>
    obtain ⟨rfl, -, g⟩ := g.of_step
    cases released with
    | announced frees =>
      obtain ⟨rfl, -, g⟩ := g.of_step
      rcases frees with takes | counts
      · obtain ⟨there, silent, r, now, known, is, taken⟩ := g.of_takesBack takes
        cases shelves : h.shelves p.closed session with
        | true =>
          rw [if_pos shelves] at taken
          obtain ⟨-, rfl⟩ := taken
          refine found known there now ?_ ?_
          · simp [Pool.settle, Pool.notify, Health.discards, is, shelves]
          · simp [silent, closedSessions, is, shelves]
        | false =>
          rw [if_neg (by simp [shelves])] at taken
          cases taken.1
      · obtain ⟨there, heard, shelves, value, r, known, is, rfl⟩ := g.of_counts counts
        refine found known there .start ?_ ?_
        · simp [Pool.settle, Pool.notify, Health.discards, is, shelves, value, Outcome.isPanic]
        · simp [heard, closedSessions, is, shelves]
    | brokeOff rejects =>
      obtain ⟨there, silent, rfl, rfl, shelves, r, known, is, rfl⟩ := g.of_hear.of_rejects rejects
      have panics := g.shown.closing _ (by rw [contacts_hear]; exact List.mem_cons_self)
      refine found known there .start ?_ ?_
      · simp [Pool.settle, Health.discards, is, shelves, ← panics, Outcome.isPanic]
      · simp [silent, closedSessions, is, shelves]
    | unknown absent reaches =>
      obtain ⟨rfl, -, g⟩ := g.of_step
      obtain ⟨rfl, there, silent⟩ := g.of_reaches reaches
      have none := Pool.find?_of_takeBack_eq_none absent
      have none' : p'.timeless.active.find? l.info.key = Option.none := by
        simp [Pool.timeless, none]
      rw [there, Health.give_of_absent none']
      simp [silent, closedSessions]
  | closed has' reaches =>
    obtain ⟨rfl, there, silent⟩ := g.of_hear.of_reaches reaches
    simp [silent, closedSessions, Health.give, there, has']
  | brokeOff has' reaches =>
    obtain ⟨rfl, there, silent⟩ := g.of_hear.of_reaches reaches
    simp [silent, closedSessions, Health.give, there, has']

end Interleaving

end ConnectionPool
