import ConnectionPool.Proofs.Epochs
import ConnectionPool.Proofs.Trail

set_option autoImplicit false

/-! # Why an acquirer waits, and why it gives up

An acquirer with patience goes round in a circle: it looks whether the pool is open, reads the
epoch, reads the cap, has its request decided, and waits. What it remembers on its way is little, a
deadline, an epoch and a cap; what the phase it has come to says about the way it came is more
(`Backed`), and it tells why the acquirer waits, and why it gives up in the end (`TimedOut`). -/

namespace ConnectionPool

namespace Interleaving

variable {S : Type} {home : PoolId}

/-! ## Steps of an acquirer with patience -/

/-- The acquirer has looked at the clock when it began to be patient. -/
def Began (patience : Patience) (trail : List (Stride S)) : Prop :=
  ∃ w ∈ trail, w.task = .acquire (.start (some patience.limit)) ∧
    patience.deadline = w.state.now.after? patience.limit

/-- In this step the acquirer saw that the pool is open. -/
structure Looked (home : PoolId) (patience : Patience) (w : Stride S) : Prop where
  task : w.task = .acquire (.checkOpen (some patience))
  isOpen : ∃ p, w.state.pool? home = some p ∧ p.closed = false

structure Saw (home : PoolId) (patience : Patience) (epoch : UInt64) (w : Stride S) : Prop where
  task : w.task = .acquire (.readEpoch (some patience))
  seen : ∃ p, w.state.pool? home = some p ∧ p.epoch = epoch

structure Weighed (home : PoolId) (patience : Patience) (epoch : UInt64)
    (cap : UInt32) (w : Stride S) : Prop where
  task : w.task = .acquire (.readCap (some patience) epoch)
  seen : ∃ p, w.state.pool? home = some p ∧ p.settings.maxConnections = cap

/-- In this step the acquirer was answered that the pool is full. -/
structure Refused (home : PoolId) (patience : Patience) (epoch : UInt64)
    (cap : UInt32) (w : Stride S) : Prop where
  task : w.task = .acquire (.choose (some patience) epoch cap)
  full : ∃ p, w.state.pool? home = some p ∧ p.lend cap w.state.now = (p, .full)

/-- In this step the acquirer gave up: the epoch was what it had been, and the deadline was over. -/
structure GaveUp (home : PoolId) (patience : Patience) (epoch : UInt64) (w : Stride S) : Prop where
  task : w.task = .acquire (.wait patience epoch)
  same : ∃ p, w.state.pool? home = some p ∧ p.epoch = epoch
  late : ∃ deadline, patience.deadline = some deadline ∧ deadline ≤ w.state.now

/-! ## Ways

How an acquirer has come to read the epoch (`Enters`), to read the cap (`Compares`), to have its
request decided (`Asks`), to wait (`Waits`), and to give up (`GivesUp`). -/

/-- The last step was such, and those before it were such. -/
def After (last : Stride S → Prop) (earlier : List (Stride S) → Prop) : List (Stride S) → Prop
  | [] => False
  | w :: before => last w ∧ earlier before

def Enters (home : PoolId) (patience : Patience) : List (Stride S) → Prop :=
  After (Looked home patience) (Began patience)

def Compares (home : PoolId) (patience : Patience) (epoch : UInt64) : List (Stride S) → Prop :=
  After (Saw home patience epoch) (Enters home patience)

def Asks (home : PoolId) (patience : Patience) (epoch : UInt64) (cap : UInt32) :
    List (Stride S) → Prop :=
  After (Weighed home patience epoch cap) (Compares home patience epoch)

def Waits (home : PoolId) (patience : Patience) (epoch : UInt64) (trail : List (Stride S)) : Prop :=
  ∃ cap, After (Refused home patience epoch cap) (Asks home patience epoch cap) trail

def GivesUp (home : PoolId) (limit : Duration) (trail : List (Stride S)) : Prop :=
  ∃ patience epoch, patience.limit = limit ∧
    After (GaveUp home patience epoch) (Waits home patience epoch) trail

theorem After.exists {last : Stride S → Prop} {earlier : List (Stride S) → Prop}
    {trail : List (Stride S)} (h : After last earlier trail) :
    ∃ w before, trail = w :: before ∧ last w ∧ earlier before := by
  cases trail with
  | nil => exact h.elim
  | cons w before => exact ⟨w, before, rfl, h⟩

theorem Began.cons {patience : Patience} {trail : List (Stride S)} (h : Began patience trail)
    (w : Stride S) : Began patience (w :: trail) :=
  h.imp fun _ hw => ⟨List.mem_cons_of_mem _ hw.1, hw.2⟩

/-- An acquirer that waits has its patience from the beginning. -/
theorem Waits.began {patience : Patience} {epoch : UInt64} {trail : List (Stride S)}
    (h : Waits home patience epoch trail) : Began patience trail := by
  obtain ⟨cap, h⟩ := h
  obtain ⟨refused, _, rfl, -, h⟩ := h.exists
  obtain ⟨weighed, _, rfl, -, h⟩ := h.exists
  obtain ⟨saw, _, rfl, -, h⟩ := h.exists
  obtain ⟨looked, _, rfl, -, h⟩ := h.exists
  exact (((h.cons looked).cons saw).cons weighed).cons refused

end Interleaving

open Interleaving (Stride After Began Enters Compares Asks Waits GivesUp)

/-- What an acquirer with patience has done to come to its phase. -/
def Acquire.Backed {S : Type} (home : PoolId) (trail : List (Stride S)) : Acquire S → Prop
  | checkOpen (some patience) => Began patience trail
  | readEpoch (some patience) => Enters home patience trail
  | readCap (some patience) epoch => Compares home patience epoch trail
  | choose (some patience) epoch cap => Asks home patience epoch cap trail
  | wait patience epoch => Waits home patience epoch trail
  | countFailure (.timedOut limit) slot => slot = false ∧ GivesUp home limit trail
  | giveBack (.error (.timedOut _)) | announceSlot (.error (.timedOut _)) => False
  | done (.error (.timedOut limit)) =>
    After (fun w => w.task = .acquire (.countFailure (.timedOut limit) false))
      (GivesUp home limit) trail
  | _ => True

namespace Interleaving

variable {S : Type} {home : PoolId} {past : List (State S × Choice S)} {s : State S}

/-- An acquirer adds the step that it takes to those it has taken. -/
theorem Acquire.backed_of_step {v : View S} {p p' : Pool S} {a a' : Acquire S}
    {trail : List (Stride S)} (now : v.now = s.now) (built : s.pool? home = some p)
    (h : a.Backed home trail)
    (did : a.step v p = some (p', a')) : a'.Backed home (⟨past, s, .acquire a⟩ :: trail) := by
  cases a with
  | start limit =>
    cases did
    cases limit with
    | none => trivial
    | some limit => exact ⟨_, List.mem_cons_self, rfl, by rw [← now]⟩
  | checkOpen patience =>
    simp only [Acquire.step] at did
    split at did
    · cases did
      trivial
    · next isOpen =>
      cases did
      cases patience with
      | none => trivial
      | some patience => exact ⟨⟨rfl, p, built, by simpa using isOpen⟩, h⟩
  | readEpoch patience =>
    cases did
    cases patience with
    | none => trivial
    | some patience => exact ⟨⟨rfl, p, built, rfl⟩, h⟩
  | readCap patience epoch =>
    cases did
    cases patience with
    | none => trivial
    | some patience => exact ⟨⟨rfl, p, built, rfl⟩, h⟩
  | choose patience epoch cap =>
    simp only [Acquire.step] at did
    cases hlend : p.lend cap v.now with
    | mk q decision =>
    rw [hlend] at did
    cases did
    cases decision with
    | reuse loan => trivial
    | reserve => trivial
    | full =>
      cases patience with
      | none => trivial
      | some patience =>
        obtain rfl := Pool.eq_of_lend_full hlend
        exact ⟨cap, ⟨rfl, _, built, now ▸ hlend⟩, h⟩
  | wait patience epoch =>
    simp only [Acquire.step] at did
    split at did
    · -- it was told something, and starts over
      cases did
      exact h.began.cons _
    · next same =>
      split at did
      · next late =>
        cases did
        obtain ⟨deadline, hdeadline, late⟩ := Option.any_eq_true _ _ |>.1 late
        have late : deadline ≤ s.now := now ▸ of_decide_eq_true late
        exact ⟨rfl, patience, epoch, rfl,
          ⟨rfl, ⟨p, built, Decidable.not_not.1 same⟩, deadline, hdeadline, late⟩, h⟩
      · cases did
  | countFailure reason slot =>
    cases did
    cases reason with
    | timedOut limit =>
      -- no slot was reserved, so there is none to give back
      obtain ⟨rfl, gives⟩ := h
      exact ⟨rfl, gives⟩
    | _ => cases slot <;> trivial
  | giveBack failure | announceSlot failure =>
    cases did
    cases failure with
    | value e => exact e.elim
    | error reason =>
      cases reason with
      | timedOut limit => exact False.elim h
      | _ => trivial
    | panic text => trivial
  | readSource =>
    cases did
    split <;> trivial
  | inspect session =>
    cases did
    split <;> trivial
  | install loan =>
    cases did
    split <;> trivial
  | readTimeout | countReuse | enrol | countNew | announceUnused | countUnused =>
    cases did
    trivial
  | create | openNew | closeUnused | done => cases did

/-- No answer makes an acquirer time out. -/
theorem Acquire.backed_of_answer {reply : Reply S} {a a' : Acquire S} {trail : List (Stride S)}
    (did : a.status.answer reply = some a') : a'.Backed home trail := by
  cases a with
  | create source =>
    cases reply with
    | created outcome =>
      cases did
      cases outcome <;> trivial
    | _ => cases did
  | openNew session =>
    cases reply with
    | opened outcome =>
      cases did
      cases outcome <;> trivial
    | _ => cases did
  | closeUnused session =>
    cases reply with
    | closed outcome =>
      cases did
      cases outcome with
      | value _ => trivial
      | error e => exact e.elim
      | panic text => trivial
    | _ => cases did
  | _ => cases did

/-- Every acquirer has come to its phase in the way that the phase suggests. -/
theorem Run.backed (run : Run past s) {i : Nat} {call : Call S} {a : Acquire S}
    (atWork : s.calls[i]? = some call) (task : call.task = .acquire a) :
    a.Backed call.home (trail i past) := by
  induction run generalizing call a with
  | start => cases atWork
  | @next past s s' c run fresh act ih =>
    cases came_of_act act atWork with
    | stays was idle =>
      rw [trail_of_none (idle past)]
      exact ih was task
    | begins new idle first =>
      rcases first a task with rfl | ⟨limit, rfl⟩ <;> trivial
    | @steps connected contended old site p' was home found did =>
      rw [trail_of_step was, home]
      rw [task] at did
      obtain ⟨a₀, hold, did⟩ := Task.acquire_of_step did
      rw [hold]
      exact Acquire.backed_of_step rfl (State.pool?_of_site found) (ih was hold) did
    | @hears reply old was home did =>
      rw [trail_of_none rfl, home]
      rw [task] at did
      obtain ⟨a₀, -, did⟩ := Task.acquire_of_answer did
      exact Acquire.backed_of_answer did
    | ends was ended last =>
      rw [last] at task
      cases task

/-! ## Timing out -/

/-- How a request has timed out: its last steps, with what had happened before the acquirer gave up
and `since` it had read the epoch. -/
inductive TimedOut (home : PoolId) (limit : Duration) : List (Stride S) → Prop
  | intro {patience : Patience} {epoch : UInt64} {cap : UInt32}
      {counted gaveUp refused weighed saw looked : Stride S} {before : List (Stride S)}
      {since : List (State S × Choice S)} (own : patience.limit = limit)
      (began : Began patience before) (look : Looked home patience looked)
      (see : Saw home patience epoch saw) (weigh : Weighed home patience epoch cap weighed)
      (refuse : Refused home patience epoch cap refused)
      (giveUp : GaveUp home patience epoch gaveUp)
      (count : counted.task = .acquire (.countFailure (.timedOut limit) false))
      (later : gaveUp.past = since ++ saw.past) (silent : notices home since = 0) :
      TimedOut home limit (counted :: gaveUp :: refused :: weighed :: saw :: looked :: before)

/-- A request times out only because the pool was full and stayed so, as far as anybody told. -/
theorem Run.timedOut (run : Run past s) (few : notices home past < UInt64.size)
    {i : Nat} {call : Call S} {limit : Duration} (atWork : s.calls[i]? = some call)
    (at_ : call.home = home)
    (task : call.task = .acquire (.done (.error (.timedOut limit)))) :
    TimedOut home limit (trail i past) := by
  subst at_
  have backed := run.backed atWork task
  obtain ⟨counted, _, htrail, count, patience, epoch, own, backed⟩ := After.exists backed
  obtain ⟨gaveUp, _, rfl, giveUp, cap, backed⟩ := backed.exists
  obtain ⟨refused, _, rfl, refuse, backed⟩ := backed.exists
  obtain ⟨weighed, _, rfl, weigh, backed⟩ := backed.exists
  obtain ⟨saw, _, rfl, see, backed⟩ := backed.exists
  obtain ⟨looked, before, rfl, look, began⟩ := backed.exists
  have hlate : gaveUp ∈ trail i past := by simp [htrail]
  -- both readings of the epoch were made in shorter runs, the earlier one in the shortest
  obtain ⟨lateRun, lateSuffix⟩ := run.of_mem_trail hlate
  have hsaw : saw ∈ trail i gaveUp.past := by
    rw [trail_of_trail_eq_cons (trail_of_trail_eq_cons htrail)]
    simp
  obtain ⟨sawRun, since, later⟩ := lateRun.of_mem_trail hsaw
  rw [htrail]
  refine .intro own began look see weigh refuse giveUp count later.symm ?_
  obtain ⟨p₀, built₀, same₀⟩ := see.seen
  obtain ⟨p, built, same⟩ := giveUp.same
  have most : notices call.home gaveUp.past ≤ notices call.home past := lateSuffix.sublist.countP_le
  rw [← later] at lateRun most
  exact lateRun.silent sawRun built built₀ (same.trans same₀.symm) (Nat.lt_of_le_of_lt most few)

/-! ## Waiting -/

/-- The last steps of an acquirer that waits for a newer epoch than the present one. Whatever
notices there were had been given when it read the epoch. -/
theorem Run.saw_of_waiting {p : Pool S} (run : Run past s) (built : s.pool? home = some p)
    (few : notices home past < UInt64.size) {i : Nat} {call : Call S} {patience : Patience}
    (atWork : s.calls[i]? = some call) (at_ : call.home = home)
    (task : call.task = .acquire (.wait patience p.epoch)) :
    ∃ refused weighed saw looked before since,
      trail i past = refused :: weighed :: saw :: looked :: before ∧ Looked home patience looked ∧
      Saw home patience p.epoch saw ∧ past = since ++ saw.past ∧ notices home since = 0 := by
  subst at_
  have backed : Waits call.home patience p.epoch (trail i past) := run.backed atWork task
  obtain ⟨cap, backed⟩ := backed
  obtain ⟨refused, _, htrail, -, backed⟩ := backed.exists
  obtain ⟨weighed, _, rfl, -, backed⟩ := backed.exists
  obtain ⟨saw, _, rfl, see, backed⟩ := backed.exists
  obtain ⟨looked, before, rfl, look, -⟩ := backed.exists
  have hsaw : saw ∈ trail i past := by simp [htrail]
  obtain ⟨sawRun, since, rfl⟩ := run.of_mem_trail hsaw
  obtain ⟨p₀, built₀, same⟩ := see.seen
  exact ⟨refused, weighed, saw, looked, before, since, htrail, look, see, rfl,
    run.silent sawRun built built₀ same.symm few⟩

end Interleaving

end ConnectionPool
