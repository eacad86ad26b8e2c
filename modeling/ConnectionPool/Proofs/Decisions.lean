import ConnectionPool.Proofs.Provenance

set_option autoImplicit false

/-! # How a request is decided

An idle session is lent before a new one is made, and among the idle ones it is the one with the
smallest key, whatever the cap; sessions under probe are passed over. Without an idle session a new
one is made as long as the sessions and the slots together are below the cap. Else the request has
to wait, or is answered with nothing.

Keys are drawn in ascending order (`Run.descending`), so the key of a new session is greater than
all before. -/

namespace ConnectionPool

variable {S : Type}

/-! ## The decision -/

namespace Pool

variable {p : Pool S} {cap : UInt32} {now : Instant} {key : SessionKey} {r : Record S}

/-- Some idle session may be lent. -/
def Available (p : Pool S) : Prop := ∃ key r, p.idle.find? key = some r ∧ r.info.standing = .idle

/-- Of the idle sessions that may be lent, this one has the smallest key. -/
structure Oldest (p : Pool S) (key : SessionKey) (r : Record S) : Prop where
  found : p.idle.find? key = some r
  idle : r.info.standing = .idle
  oldest : ∀ key' r', p.idle.find? key' = some r' → r'.info.standing = .idle →
    key = key' ∨ key < key'

theorem isAvailable_iff : r.standing.isAvailable = true ↔ r.info.standing = .idle := by
  show r.info.standing.isAvailable = true ↔ _
  cases r.info.standing <;> simp [Standing.isAvailable]

theorem first?_eq_none_iff_not_available :
    p.idle.first? (fun r => r.standing.isAvailable) = none ↔ ¬ p.Available := by
  rw [Roster.first?_eq_none_iff]
  constructor
  · rintro none ⟨key, r, found, idle⟩
    cases (none key r found).symm.trans (isAvailable_iff.2 idle)
  · intro none key r found
    by_contra h
    exact none ⟨key, r, found, isAvailable_iff.1 (by simpa using h)⟩

/-- The oldest session is lent, and nothing else changes. -/
theorem exists_oldest_of_available (h : p.Available) :
    ∃ key r, p.Oldest key r ∧ ∀ cap now,
      p.lend cap now =
        ({ p with idle := p.idle.erase key, active := p.active.insert r.info.key (r.checkOut now) },
          .reuse (r.checkOut now)) := by
  cases first : p.idle.first? fun r => r.standing.isAvailable with
  | none => exact absurd h (first?_eq_none_iff_not_available.1 first)
  | some e =>
    obtain ⟨key, r⟩ := e
    obtain ⟨found, available⟩ := Roster.first?_eq_some first
    refine ⟨key, r, ⟨found, isAvailable_iff.1 available, fun key' r' found' idle' => ?_⟩,
      fun cap now => ?_⟩
    · exact Roster.first?_le first found' (isAvailable_iff.2 idle')
    · simp only [lend, first]
      rfl

theorem lend_of_room (none : ¬ p.Available) (room : p.total + p.reserved.toNat < cap.toNat) :
    p.lend cap now = ({ p with reserved := p.reserved + 1 }, .reserve) := by
  simp only [lend, first?_eq_none_iff_not_available.2 none]
  rw [if_pos room]

theorem lend_of_full (none : ¬ p.Available) (full : cap.toNat ≤ p.total + p.reserved.toNat) :
    p.lend cap now = (p, .full) := by
  simp only [lend, first?_eq_none_iff_not_available.2 none]
  rw [if_neg (Nat.not_lt.2 full)]

end Pool

namespace Interleaving

variable {p p₀ p₁ : Pool S} {es : List (Pool S × Pool S)} {cs : List (Contact S)}
  {past later : List (State S × Choice S)} {s₀ s₁ s : State S} {i : Nat} {call₀ call₁ call : Call S}
  {loan : Record S}

/-! ## The session that is lent again -/

/-- How far an acquirer has come that was answered with an idle session. -/
def Task.Reusing (loan : Record S) (es : List (Pool S × Pool S))
    (cs : List (Contact S)) : Task S → Prop
  | .acquire (.countReuse loan') => loan' = loan ∧ es = [] ∧ cs = []
  | .acquire (.done outcome) => outcome = .value (some loan) ∧ cs = [] ∧
      ∃ q, es = [(q, q.count fun t => { t with checkouts := t.checkouts + 1 })]
  | .returned => cs = [] ∧ ∃ q, es = [(q, q.count fun t => { t with checkouts := t.checkouts + 1 })]
  | _ => False

/-- An acquirer that was answered with an idle session only counts it. -/
theorem Leads.reusing (was₁ : s₁.calls[i]? = some call₁)
    (lent : call₁.task = .acquire (.countReuse loan)) (leads : Leads s₁ later s)
    (was : s.calls[i]? = some call) :
    call.task.Reusing loan (effects (moves i later)) (contacts (moves i later)) := by
  refine (Leads.conduct (Q := fun _ ms t => t.Reusing loan (effects ms) (contacts ms)) was₁ ?first
    id ?step ?hear ?ends leads was).2
  case first =>
    rw [lent]
    exact ⟨rfl, rfl, rfl⟩
  case step =>
    intro since s call p p' t' connected contended atWork built did q
    rw [contacts_step, effects_step]
    generalize call.task = t at did q ⊢
    cases t with
    | acquire a =>
      obtain ⟨a', did', rfl⟩ := exists_of_map_step did
      cases a with
      | countReuse loan' =>
        cases did'
        obtain ⟨rfl, still, untold⟩ := q
        exact ⟨rfl, untold, p, by rw [still]⟩
      | done => cases did'
      | _ => exact q.elim
    | returned => cases did
    | _ => exact q.elim
  case hear =>
    intro since s call t' reply contact atWork did learned q
    generalize call.task = t at did q
    cases t with
    | acquire a =>
      obtain ⟨a', did', rfl⟩ := Option.map_eq_some_iff.1 did
      cases a with
      | countReuse | done => cases did'
      | _ => exact q.elim
    | returned => cases did
    | _ => exact q.elim
  case ends =>
    intro since s call atWork ended q
    generalize call.task = t at ended q
    cases Task.ended_of_isEnded ended with
    | acquire outcome => exact q.2
    | _ => exact q.elim

theorem Task.prompt_of_reusing {t : Task S} (reusing : t.Reusing loan es cs) : t.Prompt := by
  cases t with
  | acquire a =>
    cases a with
    | countReuse loan' => exact .inr (.inr fun v p => ⟨_, _, rfl⟩)
    | done => exact .inl (.inr rfl)
    | _ => exact reusing.elim
  | returned => exact .inl (.inl rfl)
  | _ => exact reusing.elim

/-! ## Main result -/

/-- A request is answered with the oldest of the idle sessions. -/
structure Reuses (home : PoolId) (i : Nat) (past : List (State S × Choice S))
    (now : Instant) (p₀ p₁ : Pool S) (s₁ : State S) (key : SessionKey) (r : Record S) : Prop where
  oldest : p₀.Oldest key r
  own : r.info.key = key
  /-- The record moves, and says that the session was lent once more. -/
  pool : p₁ = { p₀ with idle := p₀.idle.erase key, active := p₀.active.insert key (r.checkOut now) }
  record : r.checkOut now = { r with info := { r.info with
    standing := .active, lastCheckout := some now, checkouts := r.info.checkouts + 1 } }
  moved : p₁.idle.find? key = none ∧ p₁.active.find? key = some (r.checkOut now)
  /-- It takes the place of no other record. -/
  vacant : (enrolled home past).length < UInt64.size → p₀.active.find? key = none
  others : ∀ key', key' ≠ key →
    p₁.idle.find? key' = p₀.idle.find? key' ∧ p₁.active.find? key' = p₀.active.find? key'
  /-- The acquirer has nothing to do with a source, and only counts before it is lent that very
  session. -/
  after : ∀ later s call, Leads s₁ later s → s.calls[i]? = some call →
    call.task.Reusing (r.checkOut now) (effects (moves i later)) (contacts (moves i later)) ∧
      GoesOn s i call

/-- What has come of a request that was answered with a slot. -/
structure Makes (home : PoolId) (i : Nat) (past later : List (State S × Choice S))
    (s : State S) (call : Call S) : Prop where
  prompt : GoesOn s i call
  few : (effects (moves i later)).length ≤ 6
  /-- It ends in one of the four ways. -/
  result : ∀ outcome, call.task = .acquire (.done outcome) →
    Finished outcome (effects (moves i later)) (contacts (moves i later))
  ending : call.task.IsOver →
    ∃ outcome, Finished outcome (effects (moves i later)) (contacts (moves i later))
  /-- The source was asked once, if there was one, and it is one that the pool had. -/
  once : call.task.IsOver → contacts (moves i later) = [.sourceless] ∨
    (contacts (moves i later)).countP Contact.creates = 1
  source : ∀ source outcome, .created source outcome ∈ contacts (moves i later) →
    ∃ q, (q, q) ∈ effects (moves i later) ∧ q.source = some source
  /-- The session was not opened if it was connected. -/
  unconnected : call.task.IsOver → ∀ session opening,
    .opened session opening ∈ contacts (moves i later) →
    .inspected session false ∈ contacts (moves i later)
  lent : ∀ loan, call.task = .acquire (.done (.value (some loan))) → loan.standing = .active ∧
    loan.info.checkouts = 1 ∧ Made loan.session (contacts (moves i later))
  /-- The key of the new session is greater than all that were drawn before. -/
  fresh : (enrolled home (later ++ past)).length < UInt64.size → ∀ loan,
    call.task = .acquire (.done (.value (some loan))) → ∃ after before,
      enrolled home later = after ++ (loan.info.key, loan.session) :: before ∧
        ∀ e ∈ before ++ enrolled home past, e.1 < loan.info.key

theorem Leads.makes (run : Run past s₁) (was₁ : s₁.calls[i]? = some call₁)
    (reserved : call₁.task = .acquire .readSource) (built₁ : s₁.pool? call₁.home = some p₁)
    (leads : Leads s₁ later s) (was : s.calls[i]? = some call) :
    Makes call₁.home i past later s call := by
  have since := leads.making run was₁ reserved was
  obtain ⟨p, built⟩ := leads.exists_pool? built₁
  have home := leads.same_home was₁ was
  have finished (outcome : Outcome Error (Option (Record S)))
      (done : call.task = .acquire (.done outcome)) :
      Finished outcome (effects (moves i later)) (contacts (moves i later)) := by
    rw [done] at since
    exact since.1
  have ending (is : call.task.IsOver) :
      ∃ outcome, Finished outcome (effects (moves i later)) (contacts (moves i later)) := by
    rcases is with returned | ended
    · rw [returned] at since
      exact since.1
    · obtain ⟨outcome, -, done⟩ := Task.finished_of_isEnded ended since
      exact ⟨outcome, done⟩
  refine
    { prompt := .of_prompt (Task.prompt_of_since since) was (home ▸ built)
      few := Task.length_le_of_since since
      result := finished
      ending := ending
      once := fun ended => (ending ended).elim fun _ done => done.asked_once
      source := fun source outcome told => leads.asks run was₁ reserved was (.inr ⟨outcome, told⟩)
      unconnected := fun ended session opening told => (ending ended).elim fun _ done =>
        done.inspected told
      lent := fun loan done => ?_
      fresh := fun few loan done => ?_ }
  · exact ((finished _ done).installs rfl).elim fun es installs => installs.lent
  · obtain ⟨after, before, drawn⟩ :=
      List.append_of_mem (leads.drawn run was₁ reserved was (by rw [done]; rfl))
    refine ⟨after, before, drawn, ?_⟩
    have descending := (run.append leads).descending built few
    rw [enrolled_append, drawn, List.append_assoc, List.pairwise_append, List.cons_append]
      at descending
    exact (List.pairwise_cons.1 descending.2.1).1

/-- How a request is decided, and what comes of it. -/
structure Decided (home : PoolId) (i : Nat) (patience : Option Patience)
    (epoch : UInt64) (cap : UInt32) (past : List (State S × Choice S)) (s₀ : State S) (c : Choice S)
    (p₀ p₁ : Pool S) (s₁ : State S) (t₁ : Task S) :
    Prop where
  reuse : p₀.Available → ∃ key r, Reuses home i past s₀.now p₀ p₁ s₁ key r
  make : ¬ p₀.Available → p₀.load < cap.toNat → t₁ = .acquire .readSource ∧
    p₁ = { p₀ with reserved := p₀.reserved + 1 } ∧ p₁.reserved.toNat = p₀.reserved.toNat + 1 ∧
    ∀ later s call, Leads s₁ later s → s.calls[i]? = some call →
      Makes home i ((s₀, c) :: past) later s call
  /-- The pool stays as it is, and whoever does not want to wait is answered with nothing. -/
  refuse : ¬ p₀.Available → cap.toNat ≤ p₀.load → p₁ = p₀ ∧
    match patience with
    | some patience => t₁ = .acquire (.wait patience epoch)
    | none => ∀ later s call, Leads s₁ later s → s.calls[i]? = some call → moves i later = [] ∧
      (call.task = .acquire (.done (.value none)) ∨ call.task = .returned)

/-- A request that is about to be decided is decided at once, whatever the cap that it has read. -/
theorem acquire_decided {patience : Option Patience} {epoch : UInt64} {cap : UInt32}
    (run : Run past s₀) (was₀ : s₀.calls[i]? = some call₀)
    (deciding : call₀.task = .acquire (.choose patience epoch cap))
    (built₀ : s₀.pool? call₀.home = some p₀) (connected : S → Bool) (contended : Bool) :
    ∃ s₁ p₁ t₁, s₀.act (.step i connected contended) = some s₁ ∧ s₁.pool? call₀.home = some p₁ ∧
      s₁.calls[i]? = some { call₀ with task := t₁ } ∧
      Decided call₀.home i patience epoch cap past s₀ (.step i connected contended) p₀ p₁
        s₁ t₁ := by
  have did : call₀.task.step (s₀.view call₀ connected contended) p₀ = some ((p₀.lend cap s₀.now).1,
      .acquire (Acquire.follow patience epoch (p₀.lend cap s₀.now).2)) := by
    rw [deciding]
    rfl
  obtain ⟨s₁, act, was₁, built₁⟩ := State.exists_act_step was₀ built₀ did
  have run₁ : Run ((s₀, .step i connected contended) :: past) s₁ := .next run trivial act
  refine ⟨s₁, _, _, act, built₁, was₁, fun available => ?reuse, fun none room => ?make,
    fun none full => ?refuse⟩
  case reuse =>
    obtain ⟨key, r, oldest, answer⟩ := Pool.exists_oldest_of_available available
    rw [answer] at was₁ built₁ ⊢
    have own : r.info.key = key := ((run.filed built₀).idle key r oldest.found).own
    subst own
    refine ⟨_, r, oldest, rfl, rfl, rfl, ⟨by simp, by simp⟩, fun few => ?_,
      fun key' other => ⟨by simp [other], by simp [other]⟩, fun later s call leads was => ?_⟩
    · have apart : p₀.places r.info.key ≤ 1 :=
        Nat.le_trans (Nat.le_add_left _ _) ((run.custody built₀ few).2.1.apart r.info.key)
      have shelved := Roster.count_keys_of_some oldest.found
      refine Option.eq_none_iff_forall_ne_some.2 fun r' found => ?_
      have active := Roster.count_keys_of_some found
      rw [Pool.places] at apart
      omega
    · have reusing := leads.reusing was₁ rfl was
      obtain ⟨p, built⟩ := leads.exists_pool? built₁
      have home : call.home = call₀.home := (leads.same_home was₁ was).trans rfl
      exact ⟨reusing, .of_prompt (Task.prompt_of_reusing reusing) was (home ▸ built)⟩
  case make =>
    rw [Pool.lend_of_room none room] at was₁ built₁ ⊢
    have fits : p₀.reserved.toNat < cap.toNat := Nat.lt_of_le_of_lt (Nat.le_add_left _ _) room
    refine ⟨rfl, rfl, toNat_add_one_of_lt fits, fun later s call leads was => ?_⟩
    have makes := leads.makes run₁ was₁ rfl built₁ was
    exact makes
  case refuse =>
    rw [Pool.lend_of_full none full] at was₁ built₁ ⊢
    refine ⟨rfl, ?_⟩
    cases patience with
    | some patience => rfl
    | none => exact fun later s call leads was => leads.rests was₁ (.inr rfl) was

/-- Of two sessions that are lent one is given back, the cap is lowered to one, and then somebody
asks for a session. -/
def lowering : List (Choice Nat) :=
  List.flatten [[.build { settings := { maxConnections := 2 }, source := some .server }],
    lending 1 10, lending 2 20, [.begin (.dropLease 0)], steps 3 2, [.begin (.resize 0 1)],
    steps 4 2, [.begin (.tryAcquire 0)], steps 5 4]

theorem acquire_decided_of_lowering :
    ∃ past s₀ call₀ p₀, Run (S := Nat) past s₀ ∧ s₀.calls[5]? = some call₀ ∧
      call₀.task = .acquire (.choose none 1 1) ∧ s₀.pool? call₀.home = some p₀ ∧
      p₀.Available ∧ p₀.load = 2 ∧
      ∃ s₁ p₁ t₁, s₀.act (.step 5 (fun _ => true) false) = some s₁ ∧ s₁.pool? call₀.home = some p₁ ∧
        s₁.calls[5]? = some { call₀ with task := t₁ } ∧
        Decided call₀.home 5 none 1 1 past s₀ (.step 5 (fun _ => true) false) p₀ p₁ s₁ t₁ := by
  have h : ((play lowering).any fun r => decide
      (∃ call₀ ∈ r.2.calls[5]?, call₀.task = .acquire (.choose none 1 1) ∧
        ∃ p₀ ∈ r.2.pool? call₀.home, (∃ r ∈ p₀.idle.find? ⟨1⟩, r.info.standing = .idle) ∧
        p₀.load = 2)) = true := by
    decide +kernel
  obtain ⟨⟨past, s₀⟩, played, h⟩ := (Option.any_eq_true _ _).1 h
  obtain ⟨call₀, was₀, deciding, p₀, built₀, ⟨r, found, idle⟩, load⟩ := of_decide_eq_true h
  exact ⟨past, s₀, call₀, p₀, run_of_play played, was₀, deciding, built₀, ⟨_, r, found, idle⟩, load,
    acquire_decided (run_of_play played) was₀ deciding built₀ (fun _ => true) false⟩

end Interleaving

end ConnectionPool
