import ConnectionPool.Proofs.Batches
import ConnectionPool.Proofs.Spoils

set_option autoImplicit false

/-! # The books of a pool

A pool counts what happens to its sessions, but it does so in other steps than those in which it
happens. In between the call that is at work knows what is still to be written down: its dues
(`Dues`). A step of a call writes an entry into the books, which may be empty (`Entry`), and what it
writes, what it moves and what it still owes balance (`Posts`). -/

namespace ConnectionPool

variable {S : Type}

/-- What a call has still to write down. -/
structure Dues where
  /-- Sessions of the pool that are still to be counted as made. -/
  created : Nat := 0
  /-- Sessions that the pool may not take in, or did not, still to be counted as made and closed at
  once. -/
  unused : Nat := 0
  /-- Sessions that were taken out of the pool and are still to be counted as closed. -/
  closed : Nat := 0
  /-- Sessions that were taken out for the caller. -/
  freed : Nat := 0
  /-- Probes that were made and are still to be counted. -/
  probes : Nat := 0
  /-- The failures among them. -/
  failures : Nat := 0
  /-- Successes that are still to be credited. -/
  credits : Nat := 0

/-- What a step writes down. -/
structure Entry where
  created : Nat := 0
  closed : Nat := 0
  evictions : Nat := 0
  probes : Nat := 0
  failures : Nat := 0
  credits : Nat := 0
  /-- The sessions that are let go, which is not written down anywhere. -/
  released : Nat := 0

/-- The number of verdicts that are no failures. -/
def successes (verdicts : List (SessionKey × Verdict)) : Nat :=
  verdicts.countP fun v => v.2.isHealthy

/-! ## What the operations owe -/

def Acquire.dues : Acquire S → Dues
  | countNew _ => { created := 1 }
  | install _ | announceUnused _ | closeUnused _ | countUnused => { unused := 1 }
  | _ => {}

def Release.dues : Release S → Dues
  | readClosed _ | close _ _ | count _ => { closed := 1 }
  | _ => {}

def Return.dues : Return S → Dues
  | release r => r.dues
  | _ => {}

def Transfer.dues : Transfer S → Dues
  | replace _ _ giving | refuse _ giving | abandon _ _ giving => giving.dues
  | done _ _ => {}

def Surrender.dues (d : Surrender S) : Dues := { freed := d.freed.length }

def Heartbeat.dues : Heartbeat S → Dues
  | probe _ _ verdicts =>
    { probes := verdicts.length, failures := failures verdicts, credits := successes verdicts }
  | credit todo verdicts =>
    { probes := verdicts.length, failures := failures verdicts, credits := successes todo }
  | settle verdicts => { probes := verdicts.length, failures := failures verdicts }
  | evict verdicts evicted _ | count verdicts evicted =>
    { probes := verdicts.length, failures := failures verdicts, closed := evicted }
  | _ => {}

def Worker.dues : Worker S → Dues
  | cycle _ _ heartbeat => heartbeat.dues
  | _ => {}

def Shutdown.dues : Shutdown S → Dues
  | closeIdle n _ | count n => { closed := n }
  | _ => {}

def Interleaving.Task.dues : Interleaving.Task S → Dues
  | .acquire a => a.dues
  | .giveBack _ r => r.dues
  | .transfer t => t.dues
  | .surrender d => d.dues
  | .cycle b => b.dues
  | .work w => w.dues
  | .shutDown d | .drop d => d.dues
  | .resize _ | .returned => {}

/-! ## Entries -/

/-- All that a pool counts about sessions and probes. -/
def Pool.books (p : Pool S) : List UInt64 :=
  [p.tally.created, p.tally.closed, p.tally.evictions, p.tally.probes,
    p.tally.probeFailures, p.heartbeats]

/-- The books after an entry. -/
def Entry.apply (e : Entry) (p : Pool S) : List UInt64 :=
  [p.tally.created + .ofNat e.created, p.tally.closed + .ofNat e.closed,
    p.tally.evictions + .ofNat e.evictions, p.tally.probes + .ofNat e.probes,
    p.tally.probeFailures + .ofNat e.failures, p.heartbeats + .ofNat e.credits]

/-- A step that writes an entry, of a call that owes `x` before and `y` after it; it draws so many
keys. -/
structure Posts (alive : Bool) (drawn : Nat) (e : Entry) (p : Pool S) (x : Dues)
    (p' : Pool S) (y : Dues) : Prop where
  books : p'.books = e.apply p
  evictions : e.evictions ≤ e.closed
  failures_le : e.failures ≤ e.probes
  drawn : e.created + y.created + y.unused ≤ x.created + x.unused + drawn
  /-- Sessions come to be counted, or are in the pool, or were taken out of it. -/
  sessions : e.closed + y.closed + p'.total + e.released + x.created =
    e.created + y.created + x.closed + p.total
  freed : alive = true → y.freed = x.freed + e.released
  probes : e.probes + y.probes = x.probes
  failures : e.failures + y.failures = x.failures
  credits : e.credits + y.credits = x.credits

section

variable {alive : Bool} {p p' : Pool S} {x y : Dues}

theorem Entry.apply_empty : ({} : Entry).apply p = p.books := by simp [apply, Pool.books]

/-- Nothing is written down, and no session moves. -/
theorem Posts.still (books : p'.books = p.books) (total : p'.total = p.total) (same : y = x) :
    Posts alive 0 {} p x p' y := by
  subst same
  refine ⟨books.trans Entry.apply_empty.symm, Nat.le_refl _, Nat.le_refl _, ?_, ?_, fun _ => rfl,
    Nat.zero_add _, Nat.zero_add _, Nat.zero_add _⟩
  · show 0 + y.created + y.unused ≤ y.created + y.unused + 0
    omega
  · show 0 + y.closed + p'.total + 0 + y.created = 0 + y.created + y.closed + p.total
    omega

/-- Sessions are taken out of the pool, to be closed and counted. -/
theorem Posts.taken {n : Nat} (books : p'.books = p.books) (total : p'.total + n = p.total)
    (none : x.closed = 0) (same : y = { x with closed := n }) : Posts alive 0 {} p x p' y := by
  subst same
  refine ⟨books.trans Entry.apply_empty.symm, Nat.le_refl _, Nat.le_refl _, ?_, ?_, fun _ => rfl,
    Nat.zero_add _, Nat.zero_add _, Nat.zero_add _⟩
  · show 0 + x.created + x.unused ≤ x.created + x.unused + 0
    omega
  · show 0 + n + p'.total + 0 + x.created = 0 + x.created + x.closed + p.total
    omega

/-- The sessions that were taken out are counted, and so are the probes. -/
theorem Posts.settled {closed evictions probes failures : Nat}
    (books : p'.books = ({ closed, evictions, probes, failures } : Entry).apply p)
    (total : p'.total = p.total)
    (evicted : evictions ≤ closed) (failed : failures ≤ probes) :
    Posts alive 0 { closed, evictions, probes, failures } p { closed, probes, failures } p' {} := by
  refine ⟨books, evicted, failed, Nat.le_refl _, ?_, fun _ => rfl, rfl, rfl, rfl⟩
  show closed + 0 + p'.total + 0 + 0 = 0 + 0 + closed + p.total
  omega

end

/-! ## How many sessions a section moves -/

namespace Pool

variable {p p' : Pool S} {key : SessionKey} {cap : UInt32} {now : Instant} {connected : S → Bool}

/-- A session that is lent stays in the pool. -/
theorem total_reuse {en : List (SessionKey × S)} {loan : Record S} (filed : Interleaving.Filed en p)
    (apart : ∀ key, p.places key ≤ 1) (lend : p.lend cap now = (p', .reuse loan)) :
    p'.total = p.total := by
  obtain ⟨key, record, found, -, rfl, rfl⟩ := lend_eq_reuse lend
  have one := Roster.count_keys_of_some found
  have once := apart key
  unfold places at once
  have more := p.active.size_insert record.info.key (record.checkOut now)
  have less := p.idle.size_erase key
  rw [(filed.idle key record found).own] at more
  simp only [total, (filed.idle key record found).own]
  omega

theorem total_install {loan : Record S} (isOpen : p.closed = false)
    (vacant : p.places loan.info.key = 0) : (p.install loan).1.total = p.total + 1 := by
  have more := p.active.size_insert loan.info.key loan
  unfold places at vacant
  simp only [install, isOpen, unreserve, total, Bool.false_eq_true, if_false]
  omega

theorem total_shelved (apart : p.places key ≤ 1)
    (taken : p.takeBack key connected now = some (p', none)) : p'.total = p.total := by
  obtain ⟨record, found, rfl⟩ := takeBack_eq_shelved taken
  have one := Roster.count_keys_of_some found
  have less := p.active.size_erase key
  have more := p.idle.size_insert key (record.checkIn now)
  unfold places at apart
  simp only [total]
  omega

theorem total_rejected {session : S}
    (taken : p.takeBack key connected now = some (p', some session)) : p'.total + 1 = p.total := by
  obtain ⟨record, found, -, rfl⟩ := takeBack_eq_rejected taken
  have one := Roster.count_keys_of_some found
  have less := p.active.size_erase key
  simp only [total]
  omega

theorem total_letGo (taken : p.letGo key = some p') : p'.total + 1 = p.total := by
  obtain ⟨record, found, rfl⟩ := letGo_eq_some taken
  have one := Roster.count_keys_of_some found
  have less := p.active.size_erase key
  simp only [total]
  omega

theorem total_beginProbes (interval : Duration) :
    (p.beginProbes interval now).1.total = p.total := by
  simp [beginProbes, total]

theorem total_endProbes (verdicts : List (SessionKey × Verdict)) (now : Instant) :
    (p.endProbes verdicts now).1.total + (p.endProbes verdicts now).2.length = p.total := by
  have split := List.length_eq_length_filter_add (l := (p.idle.map (judge verdicts now)).entries)
    fun e => e.2.standing != .canceled
  have size : (p.idle.map (judge verdicts now)).entries.length = p.idle.size := p.idle.size_map _
  simp only [endProbes, total, Roster.filter, Roster.size, Roster.values, List.length_map, bne,
    Bool.not_not] at *
  omega

theorem total_drain : p.drain.1.total + p.drain.2.length = p.total := by
  simp [drain, total, Roster.values, Roster.size, Roster.empty]

end Pool

open Interleaving (Filed Task Reply HandsOver)

variable {v : View S} {p p' : Pool S} {en : List (SessionKey × S)} {reply : Reply S}

/-! ## What the operations write down -/

/-- The number of keys that a change of role draws. -/
def drawn (x y : Interleaving.Role S) : Nat := (x.enrolment y).length

theorem Acquire.posts_of_step {a a' : Acquire S} (filed : Filed en p)
    (apart : ∀ key, p.places key ≤ 1) (vacant : ∀ r, a.role = .recruit r → p.places r.info.key = 0)
    (h : a.step v p = some (p', a')) :
    ∃ e, Posts v.alive (drawn a.role a'.role) e p a.dues p' a'.dues := by
  cases a with
  | choose patience epoch cap =>
    simp only [step] at h
    cases hd : p.lend cap v.now with
    | mk lent decision =>
      rw [hd] at h
      cases h
      cases decision with
      | reuse loan =>
        refine ⟨{}, .still ?_ (Pool.total_reuse filed apart hd) rfl⟩
        obtain ⟨key, record, -, -, -, rfl⟩ := Pool.lend_eq_reuse hd
        rfl
      | reserve =>
        obtain ⟨-, rfl⟩ := Pool.lend_eq_reserve hd
        exact ⟨{}, .still rfl rfl rfl⟩
      | full =>
        obtain rfl := Pool.eq_of_lend_full hd
        cases patience <;> exact ⟨{}, .still rfl rfl rfl⟩
  | wait patience epoch =>
    simp only [step] at h
    split at h
    · cases h
      exact ⟨{}, .still rfl rfl rfl⟩
    · split at h <;> cases h
      exact ⟨{}, .still rfl rfl rfl⟩
  | enrol session =>
    -- the session has its key from now on, and will be counted one way or the other
    cases h
    have still : Posts v.alive 0 {} p {} p.drawKey.1 {} := .still rfl rfl rfl
    exact ⟨{}, { still with drawn := Nat.le_refl 1 }⟩
  | install loan =>
    simp only [step, Option.some.injEq, Prod.mk.injEq] at h
    obtain ⟨rfl, rfl⟩ := h
    by_cases closed : p.closed = true
    · simp only [Pool.install, closed, if_true]
      exact ⟨{}, .still rfl rfl rfl⟩
    · have isOpen : p.closed = false := by simpa using closed
      have more := Pool.total_install isOpen (vacant loan rfl)
      have books : (p.install loan).1.books = p.books := by
        simp [Pool.install, isOpen, Pool.books, Pool.unreserve]
      have taken : (p.install loan).2 = true := by simp [Pool.install, isOpen]
      rw [taken]
      refine ⟨{}, ⟨books.trans Entry.apply_empty.symm, Nat.le_refl _, Nat.le_refl _, ?_, ?_,
        fun _ => rfl, rfl, rfl, rfl⟩⟩
      · exact Nat.le_refl 1
      · show 0 + 0 + (p.install loan).1.total + 0 + 0 = 0 + 1 + 0 + p.total
        omega
  | countNew loan =>
    cases h
    refine ⟨{ created := 1 },
      ⟨?_, Nat.le_refl _, Nat.le_refl _, Nat.le_refl 1, ?_, fun _ => rfl, rfl, rfl, rfl⟩⟩
    · simp [Pool.books, Entry.apply, Pool.count]
    · show 0 + 0 + p.total + 0 + 1 = 1 + 0 + 0 + p.total
      omega
  | countUnused =>
    cases h
    refine ⟨{ created := 1, closed := 1 },
      ⟨?_, Nat.zero_le _, Nat.le_refl _, Nat.le_refl 1, ?_, fun _ => rfl, rfl, rfl, rfl⟩⟩
    · simp [Pool.books, Entry.apply, Pool.count]
    · show 1 + 0 + p.total + 0 + 0 = 1 + 0 + 0 + p.total
      omega
  | checkOpen | readSource | inspect =>
    cases h
    split <;> exact ⟨{}, .still rfl rfl rfl⟩
  | countFailure reason slot =>
    cases h
    cases slot <;> exact ⟨{}, .still rfl rfl rfl⟩
  | announceSlot failure =>
    cases h
    cases failure with
    | value e => exact e.elim
    | error reason => exact ⟨{}, .still rfl rfl rfl⟩
    | panic text => exact ⟨{}, .still rfl rfl rfl⟩
  | create | openNew | closeUnused | done => cases h
  | _ =>
    cases h
    exact ⟨{}, .still rfl rfl rfl⟩

theorem Release.posts_of_step {r r' : Release S} (apart : ∀ key, p.places key ≤ 1)
    (h : r.step v p = some (p', r')) : ∃ e, Posts v.alive 0 e p r.dues p' r'.dues := by
  cases r with
  | takeBack key =>
    simp only [step] at h
    split at h
    · cases h
      exact ⟨{}, .still rfl rfl rfl⟩
    · next taken =>
      cases h
      refine ⟨{}, .still ?_ (Pool.total_shelved (apart key) taken) rfl⟩
      obtain ⟨record, -, rfl⟩ := Pool.takeBack_eq_shelved taken
      rfl
    · next session taken =>
      cases h
      refine ⟨{}, .taken ?_ (Pool.total_rejected taken) rfl rfl⟩
      obtain ⟨record, -, -, rfl⟩ := Pool.takeBack_eq_rejected taken
      rfl
  | count closing =>
    cases h
    refine ⟨{ closed := 1, evictions := if closing then 0 else 1 },
      .settled ?_ rfl ?_ (Nat.le_refl _)⟩
    · cases closing <;> simp [Pool.books, Entry.apply, Pool.count]
    · cases closing <;> decide
  | close | done => cases h
  | _ =>
    cases h
    exact ⟨{}, .still rfl rfl rfl⟩

theorem Return.posts_of_step {r r' : Return S} (apart : ∀ key, p.places key ≤ 1)
    (h : r.step v p = some (p', r')) : ∃ e, Posts v.alive 0 e p r.dues p' r'.dues := by
  cases r with
  | reach session key =>
    cases h
    split <;> exact ⟨{}, .still rfl rfl rfl⟩
  | release r =>
    rcases release_of_step h with ⟨outcome, rfl, rfl, rfl⟩ | ⟨u, hu, rfl⟩
    · exact ⟨{}, .still rfl rfl rfl⟩
    · exact Release.posts_of_step apart hu
  | close | done => cases h

theorem Surrender.posts_of_step {d d' : Surrender S}
    (mine : ∀ key, d.role = .claim key → ∃ record, p.active.find? key = some record)
    (h : d.step v p = some (p', d')) : ∃ e, Posts v.alive 0 e p d.dues p' d'.dues := by
  cases d with
  | reach session key =>
    cases h
    split
    · exact ⟨{}, .still rfl rfl rfl⟩
    · next gone =>
      -- the pool is gone, and nobody will look at its books
      have still : Posts v.alive 0 {} p {} p {} := .still rfl rfl rfl
      exact ⟨{}, { still with freed := fun alive => absurd alive gone }⟩
  | detach session d =>
    rcases detach_of_step h with ⟨outcome, rfl, rfl, rfl⟩ | ⟨u, hu, rfl⟩
    · cases outcome <;> exact ⟨{}, .still rfl rfl rfl⟩
    · cases d with
      | letGo key =>
        obtain ⟨record, found⟩ := mine key rfl
        simp only [Detach.step] at hu
        split at hu
        · next none =>
          rw [Pool.find?_of_letGo_eq_none none] at found
          cases found
        · next taken =>
          cases hu
          have less := Pool.total_letGo taken
          obtain ⟨record, -, rfl⟩ := Pool.letGo_eq_some taken
          refine ⟨{ released := 1 },
            ⟨Entry.apply_empty.symm, Nat.le_refl _, Nat.le_refl _, Nat.le_refl _, ?_,
              fun _ => rfl, rfl, rfl, rfl⟩⟩
          show 0 + 0 + _ + 1 + 0 = 0 + 0 + 0 + p.total
          omega
      | announce =>
        cases hu
        exact ⟨{}, .still rfl rfl rfl⟩
      | done => cases hu
  | done => cases h

theorem Heartbeat.posts_of_step {b b' : Heartbeat S} (h : b.step v p = some (p', b')) :
    ∃ e, Posts v.alive 0 e p b.dues p' b'.dues := by
  cases b with
  | select interval statement =>
    simp only [step] at h
    split at h
    · cases h
      exact ⟨{}, .still rfl rfl rfl⟩
    · split at h
      · cases h
        exact ⟨{}, .still rfl rfl rfl⟩
      · simp only [Option.some.injEq, Prod.mk.injEq] at h
        obtain ⟨rfl, rfl⟩ := h
        split <;> exact ⟨{}, .still rfl (Pool.total_beginProbes interval) rfl⟩
  | probe statement todo verdicts =>
    cases todo <;> cases h
    exact ⟨{}, .still rfl rfl rfl⟩
  | credit todo verdicts =>
    cases todo with
    | nil =>
      cases h
      exact ⟨{}, .still rfl rfl rfl⟩
    | cons head rest =>
      cases h
      -- a success is counted at once
      cases healthy : head.2.isHealthy with
      | true =>
        refine ⟨{ credits := 1 },
          ⟨?_, Nat.le_refl _, Nat.le_refl _, Nat.le_refl _, ?_, fun _ => rfl, Nat.zero_add _,
            Nat.zero_add _, ?_⟩⟩
        · simp [Pool.books, Entry.apply]
        · simp [Pool.total, dues]
        · simp [dues, successes, healthy, Nat.add_comm]
      | false =>
        refine ⟨{}, .still rfl rfl ?_⟩
        simp [dues, successes, healthy]
  | settle verdicts =>
    cases h
    exact ⟨{}, .taken rfl (p.total_endProbes verdicts v.now) rfl rfl⟩
  | evict verdicts evicted todo =>
    cases todo <;> cases h
    exact ⟨{}, .still rfl rfl rfl⟩
  | count verdicts evicted =>
    cases h
    refine ⟨{ closed := evicted, evictions := evicted, probes := verdicts.length,
              failures := failures verdicts },
      .settled ?_ rfl (Nat.le_refl _) List.countP_le_length⟩
    simp [Pool.books, Entry.apply, Pool.count]
  | announce =>
    cases h
    exact ⟨{}, .still rfl rfl rfl⟩
  | done => cases h

theorem Worker.posts_of_step {w w' : Worker S} (h : w.step v p = some (p', w')) :
    ∃ e, Posts v.alive 0 e p w.dues p' w'.dues := by
  cases w with
  | cycle nominal busy heartbeat =>
    rcases cycle_of_step h with ⟨outcome, rfl, rfl, rfl⟩ | ⟨b, hb, rfl⟩
    · cases outcome with
      | error e => exact e.elim
      | _ => exact ⟨{}, .still rfl rfl rfl⟩
    · exact Heartbeat.posts_of_step hb
  | asleep until? =>
    simp only [step] at h
    split at h
    · cases h
      exact ⟨{}, .still rfl rfl rfl⟩
    · split at h <;> cases h
      exact ⟨{}, .still rfl rfl rfl⟩
  | readSettings | stop =>
    cases h
    exact ⟨{}, .still rfl rfl rfl⟩
  | done => cases h
  | _ =>
    cases h
    split <;> exact ⟨{}, .still rfl rfl rfl⟩

theorem Resize.posts_of_step {c c' : Resize} (h : c.step v p = some (p', c')) :
    Posts v.alive 0 {} p {} p' {} := by
  cases c with
  | write count =>
    simp only [step] at h
    split at h
    · next set =>
      cases h
      rw [Pool.setMaxConnections_eq_ok set]
      exact .still rfl rfl rfl
    · cases h
      exact .still rfl rfl rfl
  | announce =>
    cases h
    exact .still rfl rfl rfl
  | done => cases h

theorem Shutdown.posts_of_step {d d' : Shutdown S} (h : d.step v p = some (p', d')) :
    ∃ e, Posts v.alive 0 e p d.dues p' d'.dues := by
  cases d with
  | close | look =>
    cases h
    split
    · exact ⟨{}, .still rfl rfl rfl⟩
    · try split
      all_goals exact ⟨{}, .still rfl rfl rfl⟩
  | awaitFirst | asleep =>
    simp only [step] at h
    split at h <;> cases h
    exact ⟨{}, .still rfl rfl rfl⟩
  | awaitWorker =>
    simp only [step] at h
    split at h
    · cases h
      exact ⟨{}, .still rfl rfl rfl⟩
    · split at h <;> cases h
      exact ⟨{}, .still rfl rfl rfl⟩
  | drain =>
    cases h
    exact ⟨{}, .taken rfl p.total_drain rfl rfl⟩
  | closeIdle n todo =>
    cases todo <;> cases h
    exact ⟨{}, .still rfl rfl rfl⟩
  | count n =>
    cases h
    refine ⟨{ closed := n }, .settled ?_ rfl (Nat.zero_le _) (Nat.le_refl _)⟩
    simp [Pool.books, Entry.apply, Pool.count]
  | done => cases h
  | _ =>
    cases h
    exact ⟨{}, .still rfl rfl rfl⟩

/-! ## What the operations hear -/

/-- What an answer makes of the dues of a call: it may bring a verdict. A session that breaks off
while it is closed makes the call forget what it owes (else it is `quiet`). -/
structure Hears (quiet : Prop) (news : List Verdict) (x y : Dues) : Prop where
  created : y.created = x.created
  unused : y.unused ≤ x.unused
  freed : y.freed = x.freed
  credits : y.credits = x.credits + news.countP Verdict.isHealthy
  closed : y.closed ≤ x.closed
  probes : y.probes ≤ x.probes + news.length
  all : quiet → y.closed = x.closed ∧ y.probes = x.probes + news.length ∧
    y.failures = x.failures + news.countP fun v => !v.isHealthy

theorem Hears.same {quiet : Prop} (x : Dues) : Hears quiet [] x x :=
  ⟨rfl, Nat.le_refl _, rfl, rfl, Nat.le_refl _, Nat.le_refl _, fun _ => ⟨rfl, rfl, rfl⟩⟩

/-- A call that breaks off owes nothing more. -/
theorem Hears.brokenOff {quiet : Prop} {x : Dues} (created : x.created = 0) (freed : x.freed = 0)
    (credits : x.credits = 0) (loud : ¬quiet) : Hears quiet [] x {} :=
  ⟨created.symm, Nat.zero_le _, freed.symm, credits.symm, Nat.zero_le _, Nat.zero_le _,
    fun h => (loud h).elim⟩

/-- No session breaks off while it is closed, as far as the answer tells. -/
def Quiet (reply : Reply S) : Prop := ∀ text, reply ≠ .closed (.panic text)

theorem not_quiet (text : String) : ¬Quiet (.closed (.panic text) : Reply S) := fun h => h text rfl

theorem Acquire.hears_of_answer {a a' : Acquire S} (h : a.status.answer reply = some a') :
    Hears (Quiet reply) [] a.dues a'.dues := by
  cases a with
  | create source =>
    cases reply with
    | created outcome =>
      cases h
      cases outcome <;> exact .same _
    | _ => cases h
  | openNew session =>
    cases reply with
    | opened outcome =>
      cases h
      cases outcome <;> exact .same _
    | _ => cases h
  | closeUnused session =>
    cases reply with
    | closed outcome =>
      cases h
      cases outcome with
      | value _ => exact .same _
      | error e => exact e.elim
      | panic text => exact .brokenOff rfl rfl rfl (not_quiet text)
    | _ => cases h
  | _ => cases h

theorem Release.hears_of_answer {r r' : Release S} (h : r.status.answer reply = some r') :
    Hears (Quiet reply) [] r.dues r'.dues := by
  cases r with
  | close session closing =>
    cases reply with
    | closed outcome =>
      cases h
      cases outcome with
      | value _ => exact .same _
      | error e => exact e.elim
      | panic text => exact .brokenOff rfl rfl rfl (not_quiet text)
    | _ => cases h
  | _ => cases h

theorem Return.hears_of_answer {r r' : Return S} (h : r.status.answer reply = some r') :
    Hears (Quiet reply) [] r.dues r'.dues := by
  cases r with
  | release r =>
    obtain ⟨u, hu, rfl⟩ := Status.answer_embed h
    exact Release.hears_of_answer hu
  | close session =>
    cases reply with
    | closed outcome =>
      cases h
      cases outcome with
      | error e => exact e.elim
      | _ => exact .same _
    | _ => cases h
  | _ => cases h

theorem Transfer.hears_of_answer {t t' : Transfer S} (h : t.status.answer reply = some t') :
    Hears (Quiet reply) [] t.dues t'.dues := by
  cases t with
  | done => cases reply <;> cases h
  | _ =>
    obtain ⟨u, hu, rfl⟩ := Status.answer_embed h
    exact Return.hears_of_answer hu

/-- A cycle hears verdicts first, and later from the sessions that it closes. -/
theorem Heartbeat.hears_of_answer {b b' : Heartbeat S} (h : b.status.answer reply = some b') :
    (b.pending = [] ∧ Hears (Quiet reply) [] b.dues b'.dues) ∨ ∃ key session outcome,
      reply = .queried outcome ∧ b.pending = (key, session) :: b'.pending ∧ Hears (Quiet reply)
      [verdict outcome] b.dues b'.dues := by
  cases b with
  | probe statement todo verdicts =>
    cases todo with
    | nil => cases h
    | cons head rest =>
      cases reply with
      | queried outcome =>
        cases h
        have probes : (verdicts ++ [(head.1, verdict outcome)]).length = verdicts.length + 1 := by
          simp
        have counts (f : Verdict → Bool) :
            (verdicts ++ [(head.1, verdict outcome)]).countP (fun v => f v.2) =
              verdicts.countP (fun v => f v.2) + [verdict outcome].countP f := by
          rw [List.countP_append]
          cases good : f (verdict outcome) <;> simp [good]
        exact .inr ⟨head.1, head.2, outcome, rfl, rfl, ⟨rfl, Nat.le_refl _, rfl,
          counts Verdict.isHealthy, Nat.le_refl _, Nat.le_of_eq probes,
          fun _ => ⟨rfl, probes, counts fun v => !v.isHealthy⟩⟩⟩
      | _ => cases h
  | evict verdicts evicted todo =>
    cases todo with
    | nil => cases h
    | cons session rest =>
      cases reply with
      | closed outcome =>
        cases h
        cases outcome with
        | value _ => exact .inl ⟨rfl, .same _⟩
        | error e => exact e.elim
        | panic text => exact .inl ⟨rfl, .brokenOff rfl rfl rfl (not_quiet text)⟩
      | _ => cases h
  | _ => cases h

theorem Shutdown.hears_of_answer {d d' : Shutdown S} (h : d.status.answer reply = some d') :
    Hears (Quiet reply) [] d.dues d'.dues := by
  cases d with
  | closeIdle n todo =>
    cases todo with
    | nil => cases h
    | cons session rest =>
      cases reply with
      | closed outcome =>
        cases h
        cases outcome with
        | value _ => exact .same _
        | error e => exact e.elim
        | panic text => exact .brokenOff rfl rfl rfl (not_quiet text)
      | _ => cases h
  | _ => cases h

namespace Interleaving

/-! ## Calls -/

/-- A step of a call writes an entry, which may be empty. -/
theorem Task.posts_of_step {t t' : Task S} (sound : Sound en p t)
    (vacant : ∀ r, t.role = .recruit r → p.places r.info.key = 0) (h : t.step v p = some (p', t')) :
    ∃ e, Posts v.alive (drawn t.role t'.role) e p t.dues p' t'.dues := by
  have quiet {t t' : Task S} (posts : ∃ e, Posts v.alive 0 e p t.dues p' t'.dues) :
      ∃ e, Posts v.alive (drawn t.role t'.role) e p t.dues p' t'.dues := by
    obtain ⟨e, posts⟩ := posts
    exact ⟨e, { posts with drawn := Nat.le_trans posts.drawn (Nat.le_add_right _ _) }⟩
  cases t with
  | acquire a =>
    obtain ⟨u, hu, rfl⟩ := exists_of_map_step h
    exact Acquire.posts_of_step sound.filed sound.apart vacant hu
  | giveBack kept r =>
    obtain ⟨u, hu, rfl⟩ := exists_of_map_step h
    exact quiet (Return.posts_of_step sound.apart hu)
  | transfer t =>
    obtain ⟨u, hu, rfl⟩ := exists_of_map_step h
    refine quiet ?_
    cases Transfer.steps_of_step hu with
    | giving around did => cases around <;> exact Return.posts_of_step sound.apart did
    | @replaced old source given =>
      cases given with
      | panic text =>
        obtain ⟨home, session, info⟩ := source
        cases session <;> exact ⟨{}, .still rfl rfl rfl⟩
      | _ => exact ⟨{}, .still rfl rfl rfl⟩
    | @refused target given => cases given <;> exact ⟨{}, .still rfl rfl rfl⟩
    | abandoned => exact ⟨{}, .still rfl rfl rfl⟩
  | surrender d =>
    obtain ⟨u, hu, rfl⟩ := exists_of_map_step h
    exact quiet (Surrender.posts_of_step sound.mine hu)
  | cycle b =>
    obtain ⟨u, hu, rfl⟩ := exists_of_map_step h
    exact quiet (Heartbeat.posts_of_step hu)
  | work w =>
    obtain ⟨u, hu, rfl⟩ := exists_of_map_step h
    exact quiet (Worker.posts_of_step hu)
  | resize c =>
    obtain ⟨u, hu, rfl⟩ := exists_of_map_step h
    exact quiet ⟨{}, Resize.posts_of_step hu⟩
  | shutDown d | drop d =>
    obtain ⟨u, hu, rfl⟩ := exists_of_map_step h
    exact quiet (Shutdown.posts_of_step hu)
  | returned => cases h

theorem Task.hears_of_answer {t t' : Task S} (h : t.answer reply = some t') :
    (t.pending = [] ∧ Hears (Quiet reply) [] t.dues t'.dues) ∨ ∃ key session outcome,
      reply = .queried outcome ∧ t.pending = (key, session) :: t'.pending ∧
      Hears (Quiet reply) [Heartbeat.verdict outcome] t.dues t'.dues := by
  cases t with
  | acquire a =>
    obtain ⟨u, hu, rfl⟩ := Option.map_eq_some_iff.1 h
    exact .inl ⟨rfl, Acquire.hears_of_answer hu⟩
  | giveBack kept r =>
    obtain ⟨u, hu, rfl⟩ := Option.map_eq_some_iff.1 h
    exact .inl ⟨rfl, Return.hears_of_answer hu⟩
  | transfer t =>
    obtain ⟨u, hu, rfl⟩ := Option.map_eq_some_iff.1 h
    exact .inl ⟨rfl, Transfer.hears_of_answer hu⟩
  | surrender d =>
    obtain ⟨u, hu, rfl⟩ := Option.map_eq_some_iff.1 h
    exact (Surrender.not_answer hu).elim
  | cycle b =>
    obtain ⟨u, hu, rfl⟩ := Option.map_eq_some_iff.1 h
    exact Heartbeat.hears_of_answer hu
  | work w =>
    obtain ⟨u, hu, rfl⟩ := Option.map_eq_some_iff.1 h
    cases w with
    | cycle nominal busy b =>
      obtain ⟨b', hb, rfl⟩ := Status.answer_embed hu
      exact Heartbeat.hears_of_answer hb
    | _ => cases hu
  | shutDown d | drop d =>
    obtain ⟨u, hu, rfl⟩ := Option.map_eq_some_iff.1 h
    exact .inl ⟨rfl, Shutdown.hears_of_answer hu⟩
  | resize | returned => cases h

end Interleaving

end ConnectionPool
