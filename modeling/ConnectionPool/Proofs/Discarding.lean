import ConnectionPool.Proofs.Clearances
import ConnectionPool.Proofs.Waiting

set_option autoImplicit false

/-! # Discarded sessions

A session that is given back broken is thrown out, and so are those that fail their probes. The
release or the cycle frees their places in one section. It closes them, counts them and tells those
who wait only later, and it does not expect that a session breaks off while it is closed.

If none does, all is done in the end: every session is closed and counted, and nobody waits who has
not looked at the pool when the places were free. If one does, that is the end of it
(`discarded_or_broken_off`). The sessions after it are not closed, the counts stay as they are, and
an acquirer may go on sleeping next to the free places (`exists_forsaken`). -/

namespace ConnectionPool

open Interleaving (Clearance)

variable {S : Type} {o : Option (Clearance S)} {cl : Clearance S}

/-! ## Being through -/

theorem Release.through {r : Release S} (h : r.Clears o) (done : r.role ≠ .notice) (is : cl ∈ o) :
    cl.Over := by
  cases r with
  | takeBack | done => exact h cl is
  | _ => exact absurd rfl done

theorem Return.through {r : Return S} (h : r.Clears o) (done : r.role ≠ .notice) (is : cl ∈ o)
    (owes : cl.haul.owesNotice = true) : cl.Over := by
  cases r with
  | release r => exact Release.through h done is
  | close session =>
    -- nobody is to be told of a session without a pool
    obtain ⟨cl', is', midway⟩ := h
    obtain rfl := Option.mem_unique is is'
    rw [midway.own] at owes
    cases owes
  | reach | done => exact h cl is

theorem Heartbeat.through {b : Heartbeat S} (h : b.Clears o) (done : b.role ≠ .notice)
    (is : cl ∈ o) : cl.Over := by
  cases b with
  | evict | count | announce => exact absurd rfl done
  | _ => exact h cl is

/-- Nobody is to be told of the sessions that a shutdown takes. -/
theorem Shutdown.owesNotice_of_clears {d : Shutdown S} (h : d.Clears o) (is : cl ∈ o) :
    cl.haul.owesNotice = false ∨ cl.BrokenOff := by
  cases d with
  | close | awaitFirst | stopWorker | awaitWorker | announce | drain =>
    cases h
    cases is
  | closeIdle n todo | count n =>
    obtain ⟨cl', is', sessions, -, midway⟩ := h
    obtain rfl := Option.mem_unique is is'
    rw [midway.own]
    exact .inl rfl
  | readPauses | look | asleep | finish =>
    obtain ⟨cl', is', -, owes⟩ := h
    obtain rfl := Option.mem_unique is is'
    exact .inl owes
  | done outcome =>
    cases outcome with
    | value _ => exact .inl (h cl is).2
    | error e => exact e.elim
    | panic text => exact .inr (h cl is)

namespace Interleaving

/-- A call that owes no notice is through with sessions for which it would owe one. -/
theorem Task.through {t : Task S} (h : t.Clears o) (done : t.role ≠ .notice) (is : cl ∈ o)
    (owes : cl.haul.owesNotice = true) : cl.Over := by
  cases t with
  | giveBack kept r => exact Return.through h done is owes
  | transfer t =>
    cases t with
    | done => exact h cl is
    | _ => exact Return.through h done is owes
  | cycle b => exact Heartbeat.through h done is
  | work w =>
    cases w with
    | cycle nominal busy b => exact Heartbeat.through h done is
    | _ => exact h cl is
  | shutDown d | drop d =>
    rcases Shutdown.owesNotice_of_clears h is with none | broken
    · rw [none] at owes
      cases owes
    · exact .inr broken
  | acquire | surrender | resize =>
    cases h
    cases is
  | returned => exact h cl is

/-! ## In every run -/

variable {home : PoolId} {past : List (State S × Choice S)} {s : State S} {p : Pool S}
  {i : Nat} {call : Call S}

/-- A notice that is not among the latest ones was given before. -/
theorem suffix_of_silent {since later earlier : List (State S × Choice S)} {e : State S × Choice S}
    {before : List (State S × Choice S)} (silent : notices home since = 0)
    (same : since ++ before = later ++ e :: earlier) (told : e.1.notifies home e.2 = true) :
    e :: earlier <:+ before := by
  rcases List.append_eq_append_iff.1 same with ⟨more, -, split⟩ | ⟨more, split, rest⟩
  · exact ⟨more, split.symm⟩
  · cases more with
    | nil => exact ⟨[], rest⟩
    | cons e' more =>
      cases rest
      have among : e ∈ since := by simp [split]
      exact absurd told (List.countP_eq_zero.1 silent e among)

/-- What becomes of the sessions that a release or a cycle takes out of the pool. -/
structure Discarded (home : PoolId) (past : List (State S × Choice S)) (s : State S) (p : Pool S)
    (cl : Clearance S) : Prop where
  /-- They were in the pool, and the section took them out. -/
  removed : ∃ q s₁ q₁, cl.entered.1.pool? home = some q ∧ cl.entered.1.act cl.entered.2 = some s₁ ∧
    s₁.pool? home = some q₁ ∧ q.sessions.Perm (cl.haul.sessions ++ q₁.sessions)
  /-- All are closed and counted, and those who wait were told; or one of them has broken off. -/
  settled : cl.Settled true ∨ cl.BrokenOff
  /-- If they were told, whoever waits has read the epoch after the section. -/
  woken : cl.told = true → ∀ (j : Nat) (other : Call S) (patience : Patience),
    s.calls[j]? = some other → other.home = home → other.task = .acquire (.wait patience p.epoch) →
      ∃ saw ∈ trail j past, Saw home patience p.epoch saw ∧ cl.entered :: cl.past <:+ saw.past

/-- A release or a cycle that is through with the sessions that it has taken out of the pool has
closed and counted all of them, and has told those who wait; or one of them has broken off while it
was closed, and then those after it were not closed, none was counted, and nobody was told. -/
theorem discarded_or_broken_off (run : Run past s) (built : s.pool? home = some p)
    (few : notices home past < UInt64.size) (was : s.calls[i]? = some call) (at_ : call.home = home)
    (is : clearance i past = some cl) (removes : cl.haul.removes = true)
    (owes : cl.haul.owesNotice = true)
    (done : call.task.role ≠ .notice) : Discarded home past s p cl := by
  subst at_
  have origin := run.origin was is
  have settled := Task.through (run.clears was) done is owes
  rw [Clearance.Over, owes] at settled
  refine ⟨origin.removed removes, settled, fun told j other patience atWork at_ task => ?_⟩
  obtain ⟨refused, weighed, saw, looked, before, since, htrail, -, see, split, silent⟩ :=
    run.saw_of_waiting built few atWork at_ task
  refine ⟨saw, by simp [htrail], see, ?_⟩
  -- the epoch was read after the notice, and the notice was given after the section
  obtain ⟨later, entered, notice⟩ := origin.entered
  obtain ⟨e, he, notifies⟩ := notice told
  obtain ⟨after, between, rfl⟩ := List.append_of_mem he
  have same : since ++ saw.past = after ++ e :: (between ++ cl.entered :: cl.past) := by
    rw [← split, entered, List.append_assoc, List.cons_append]
  have older : cl.entered :: cl.past <:+ e :: (between ++ cl.entered :: cl.past) :=
    ⟨e :: between, rfl⟩
  exact older.trans (suffix_of_silent silent same notifies)

/-- Two sessions are idle, and are being probed when a request comes, which has to wait. Both probes
fail, and the first session breaks off while it is closed. -/
def forsaking : List (Choice Nat) :=
  List.flatten [
    [.build { settings := { maxConnections := 2 }, source := some .server }],
    lending 1 10, lending 2 20,
    [.begin (.dropLease 0)], steps 3 4, [.finish 3, .begin (.dropLease 0)], steps 4 4,
    [.finish 4, .pass (.ofSeconds 1), .begin (.cycle 0 .moment "SELECT 1")], steps 5 1,
    [.begin (.acquireWithin 0 (.ofSeconds 60))], steps 6 5,
    List.replicate 2 (.answer 5 (.queried (.error ⟨"gone", []⟩))), steps 5 5,
    [.answer 5 (.closed (.panic "broken")), .finish 5]]

theorem discarded_or_broken_off_of_forsaking :
    ∃ past s p call cl, Run (S := Nat) past s ∧ s.pool? 0 = some p ∧ notices 0 past < UInt64.size ∧
      s.calls[5]? = some call ∧ call.home = 0 ∧ clearance 5 past = some cl ∧
      cl.haul.removes = true ∧ cl.haul.owesNotice = true ∧ call.task.role ≠ .notice ∧
      cl.haul.sessions = [10, 20] ∧ Discarded 0 past s p cl := by
  have h : ((play forsaking).any fun r => decide (∃ p ∈ r.2.pool? 0, notices 0 r.1 < UInt64.size ∧
      ∃ call ∈ r.2.calls[5]?, call.home = 0 ∧ call.task.role ≠ .notice ∧
        ∃ cl ∈ clearance 5 r.1, cl.haul.removes = true ∧ cl.haul.owesNotice = true ∧
          cl.haul.sessions = [10, 20])) = true := by
    decide +kernel
  obtain ⟨⟨past, s⟩, played, h⟩ := (Option.any_eq_true _ _).1 h
  obtain ⟨p, built, few, call, was, at_, done, cl, is, removes, owes, sessions⟩ :=
    of_decide_eq_true h
  have run := run_of_play played
  exact ⟨past, s, p, call, cl, run, built, few, was, at_, is, removes, owes, done, sessions,
    discarded_or_broken_off run built few was at_ is removes owes done⟩

/-- A cycle has ended, and neither were all sessions closed that it threw out, nor was anything
counted. An acquirer waits next to two free places, and nobody is going to tell it. -/
theorem exists_forsaken :
    ∃ past s p, Run (S := Nat) past s ∧ s.pool? 0 = some p ∧ p.closed = false ∧
      (∃ cl ∈ clearance 5 past, cl.haul.sessions = [10, 20]) ∧
      s.calls[5]?.map (·.task) = some .returned ∧
      closings past s = [(0, 10)] ∧ p.tally = { created := 2, checkouts := 2 } ∧ p.total = 0 ∧
      p.reserved = 0 ∧ p.settings.maxConnections = 2 ∧ .waiting p.epoch ∈ s.roles 0 ∧
      .notice ∉ s.roles 0 := by
  have h : ((play forsaking).any fun r => decide (∃ p ∈ r.2.pool? 0, p.closed = false ∧
      (∃ cl ∈ clearance 5 r.1, cl.haul.sessions = [10, 20]) ∧
      r.2.calls[5]?.map (·.task) = some .returned ∧
      closings r.1 r.2 = [(0, 10)] ∧ p.tally = { created := 2, checkouts := 2 } ∧ p.total = 0 ∧
      p.reserved = 0 ∧ p.settings.maxConnections = 2 ∧ .waiting p.epoch ∈ r.2.roles 0 ∧
      .notice ∉ r.2.roles 0)) = true := by
    decide +kernel
  obtain ⟨⟨past, s⟩, played, h⟩ := (Option.any_eq_true _ _).1 h
  obtain ⟨p, built, facts⟩ := of_decide_eq_true h
  exact ⟨past, s, p, run_of_play played, built, facts⟩

end Interleaving

end ConnectionPool
