import ConnectionPool.Proofs.Clearances

set_option autoImplicit false

/-! # What one call does by itself

A run mixes what all calls do. The moves of one call are what remains when only its own steps are
kept, each with what the call saw and with the pool before and after, and the answers that it hears.
Whatever the others do in between, the phases of the call follow from its moves alone (`Course`),
and what it had to do with sources and sessions is told by them (`contacts`).

The pool before a step need not be the pool after the last one, because others have changed it
meanwhile. If nobody has, the steps of the call are chained (`Chained`). -/

namespace ConnectionPool

namespace Interleaving

variable {S : Type}

/-! ## Contacts -/

/-- What a call has to do with a source or a session. -/
inductive Contact (S : Type) where
  /-- Nothing is there that makes sessions. -/
  | sourceless
  | created (source : Source) (outcome : Outcome Cause S)
  /-- A new session is found connected, or not. -/
  | inspected (session : S) (connected : Bool)
  | opened (session : S) (outcome : Outcome Cause Unit)
  | queried (session : S) (statement : String) (outcome : Outcome Cause Unit)
  | closed (session : S) (outcome : Outcome Empty Unit)
  deriving DecidableEq

end Interleaving

open Interleaving (Contact Reply)

/-- What an operation that waits for an answer has learned with it. -/
def Status.contact? {S τ ε α : Type} : Status S τ ε α → Reply S → Option (Contact S)
  | .creating source _, .created outcome => some (.created source outcome)
  | .opening session _, .opened outcome => some (.opened session outcome)
  | .querying session statement _, .queried outcome => some (.queried session statement outcome)
  | .closing session _, .closed outcome => some (.closed session outcome)
  | _, _ => none

/-- What an acquirer learns by a step of its own. -/
def Acquire.finding? {S : Type} (v : View S) (p : Pool S) : Acquire S → Option (Contact S)
  | readSource => if p.source.isNone then some .sourceless else none
  | inspect session => some (.inspected session (v.connected session))
  | _ => none

theorem Status.exists_contact {S τ ε α : Type} {status : Status S τ ε α} {reply : Reply S} {t : τ}
    (h : status.answer reply = some t) : ∃ contact, status.contact? reply = some contact := by
  cases status with
  | creating | opening | querying | closing =>
    cases reply <;> cases h
    exact ⟨_, rfl⟩
  | running | ended => cases h

theorem Status.contact?_embed {S τ σ ε ε' α α' : Type} (inside : τ → σ) (status : Status S τ ε α)
    (reply : Reply S) :
    (status.embed inside fun _ => (.running : Status S σ ε' α')).contact? reply =
      status.contact? reply := by
  cases status <;> cases reply <;> rfl

theorem Status.embed_answer {S τ σ ε ε' α α' : Type} (inside : τ → σ) (status : Status S τ ε α)
    (reply : Reply S) :
    (status.embed inside fun _ => (.running : Status S σ ε' α')).answer reply =
      (status.answer reply).map inside := by
  cases status <;> cases reply <;> rfl

namespace Interleaving

variable {S : Type} {v : View S} {p p' p₀ : Pool S} {reply : Reply S}

namespace Task

def contact? (reply : Reply S) : Task S → Option (Contact S)
  | acquire a => a.status.contact? reply
  | giveBack _ r => r.status.contact? reply
  | transfer t => t.status.contact? reply
  | surrender d => d.status.contact? reply
  | cycle b => b.status.contact? reply
  | work w => w.status.contact? reply
  | shutDown d | drop d => d.status.contact? reply
  | resize _ | returned => none

def finding? (v : View S) (p : Pool S) : Task S → Option (Contact S)
  | acquire a => a.finding? v p
  | _ => none

theorem exists_contact {t t' : Task S} (h : t.answer reply = some t') :
    ∃ contact, t.contact? reply = some contact := by
  cases t with
  | acquire | giveBack | transfer | surrender | cycle | work | shutDown | drop =>
    obtain ⟨u, hu, -⟩ := Option.map_eq_some_iff.1 h
    exact Status.exists_contact hu
  | resize | returned => cases h

end Task

/-! ## Moves -/

/-- What a call does at a time. -/
inductive Move (S : Type) where
  /-- It takes a step: what it sees, the pool before and after, and what it learns. -/
  | step (v : View S) (p p' : Pool S) (learned : Option (Contact S))
  | hear (contact : Contact S)

namespace Move

def contact? : Move S → Option (Contact S)
  | step _ _ _ learned => learned
  | hear contact => some contact

/-- The pool before and after a step. -/
def effect? : Move S → Option (Pool S × Pool S)
  | step _ p p' _ => some (p, p')
  | hear _ => none

end Move

/-- What a call has had to do with sources and sessions, the latest first. -/
def contacts (ms : List (Move S)) : List (Contact S) := ms.filterMap Move.contact?

/-- What the steps of a call have done to its pool, the latest first. -/
def effects (ms : List (Move S)) : List (Pool S × Pool S) := ms.filterMap Move.effect?

section

variable {ms : List (Move S)} {learned : Option (Contact S)} {contact : Contact S}

@[simp] theorem contacts_nil : contacts ([] : List (Move S)) = [] := rfl

@[simp] theorem contacts_step_none : contacts (.step v p p' none :: ms) = contacts ms := rfl

@[simp] theorem contacts_step_some :
    contacts (.step v p p' (some contact) :: ms) = contact :: contacts ms := rfl

theorem contacts_step : contacts (.step v p p' learned :: ms) = learned.toList ++ contacts ms := by
  cases learned <;> rfl

@[simp] theorem contacts_hear : contacts (.hear contact :: ms) = contact :: contacts ms := rfl

theorem contacts_append (ms' : List (Move S)) :
    contacts (ms' ++ ms) = contacts ms' ++ contacts ms :=
  List.filterMap_append

@[simp] theorem effects_nil : effects ([] : List (Move S)) = [] := rfl

@[simp] theorem effects_step : effects (.step v p p' learned :: ms) = (p, p') :: effects ms := rfl

@[simp] theorem effects_hear : effects (.hear contact :: ms) = effects ms := rfl

theorem effects_append (ms' : List (Move S)) : effects (ms' ++ ms) = effects ms' ++ effects ms :=
  List.filterMap_append

end

/-- The move that a choice is for a call. -/
def State.move? (s : State S) (i : Nat) : Choice S → Option (Move S)
  | .step j connected contended =>
    if j = i then do
      let call ← s.calls[i]?
      let p ← s.pool? call.home
      let v := s.view call connected contended
      let (p', _) ← call.task.step v p
      some (.step v p p' (call.task.finding? v p))
    else none
  | .answer j reply =>
    if j = i then do
      let call ← s.calls[i]?
      (call.task.contact? reply).map .hear
    else none
  | _ => none

/-- The moves of a call, the latest first. -/
def moves (i : Nat) (past : List (State S × Choice S)) : List (Move S) :=
  past.filterMap fun e => e.1.move? i e.2

variable {past since : List (State S × Choice S)} {s₀ s s' : State S} {c : Choice S} {i : Nat}
  {call₀ call : Call S}

theorem moves_append (later : List (State S × Choice S)) :
    moves i (later ++ past) = moves i later ++ moves i past :=
  List.filterMap_append

theorem moves_of_none (h : s.move? i c = none) : moves i ((s, c) :: past) = moves i past :=
  List.filterMap_cons_none h

theorem moves_of_caller_ne (h : c.caller? ≠ some i) : moves i ((s, c) :: past) = moves i past := by
  refine moves_of_none ?_
  cases c with
  | step j connected contended | answer j reply =>
    have other : j ≠ i := fun same => h (congrArg some same)
    simp [State.move?, other]
  | _ => rfl

theorem moves_of_step {connected : S → Bool} {contended : Bool} {t' : Task S}
    (was : s.calls[i]? = some call) (built : s.pool? call.home = some p)
    (did : call.task.step (s.view call connected contended) p = some (p', t')) :
    moves i ((s, .step i connected contended) :: past) =
      .step (s.view call connected contended) p p'
        (call.task.finding? (s.view call connected contended) p) :: moves i past := by
  refine List.filterMap_cons_some ?_
  simp [State.move?, was, built, did]

theorem moves_of_answer {contact : Contact S} (was : s.calls[i]? = some call)
    (learned : call.task.contact? reply = some contact) :
    moves i ((s, .answer i reply) :: past) = .hear contact :: moves i past := by
  refine List.filterMap_cons_some ?_
  simp [State.move?, was, learned]

/-! ## From phase to phase -/

/-- A call whose operation can take a step can go on. -/
theorem State.exists_act_step {connected : S → Bool} {contended : Bool} {t' : Task S}
    (was : s.calls[i]? = some call) (built : s.pool? call.home = some p)
    (did : call.task.step (s.view call connected contended) p = some (p', t')) :
    ∃ s', s.act (.step i connected contended) = some s' ∧
      s'.calls[i]? = some { call with task := t' } ∧ s'.pool? call.home = some p' := by
  obtain ⟨site, found, rfl⟩ := Option.map_eq_some_iff.1 built
  refine ⟨s.put i call site p' t', by simp [State.act, State.advance, was, found, did], ?_, ?_⟩
  · exact List.getElem?_set_self (List.getElem?_eq_some_iff.1 was).1
  · rw [State.pool?_put found, if_pos rfl]

/-- A call can hear what its operation waits for. -/
theorem State.exists_act_answer {t' : Task S} (was : s.calls[i]? = some call)
    (built : s.pool? call.home = some p) (did : call.task.answer reply = some t') :
    ∃ s', s.act (.answer i reply) = some s' ∧ s'.calls[i]? = some { call with task := t' } ∧
      s'.pool? call.home = some p := by
  obtain ⟨site, found, rfl⟩ := Option.map_eq_some_iff.1 built
  refine ⟨{ s.put i call site site.pool t' with delivered := reply.delivery.toList ++ s.delivered },
    by simp [State.act, State.advance, was, found, did], ?_, ?_⟩
  · exact List.getElem?_set_self (List.getElem?_eq_some_iff.1 was).1
  · exact (State.pool?_of_set_same found rfl).trans (State.pool?_of_site found)

/-- The operation has ended, and its results may have been handed over. -/
def Task.IsOver (t : Task S) : Prop := t = .returned ∨ t.isEnded = true

/-- A phase is over, waits for an answer, or is left by a step in every case. -/
def Task.Prompt (t : Task S) : Prop :=
  t.IsOver ∨ (∃ reply t', t.answer reply = some t') ∨ ∀ v p, ∃ p' t', t.step v p = some (p', t')

/-- Whether a call can go on: it is over, it waits for an answer, or it can take a step. -/
def GoesOn (s : State S) (i : Nat) (call : Call S) : Prop :=
  call.task.IsOver ∨ (∃ reply t', call.task.answer reply = some t') ∨
    ∀ connected contended, (s.act (.step i connected contended)).isSome = true

theorem GoesOn.of_prompt (prompt : call.task.Prompt) (was : s.calls[i]? = some call)
    (built : s.pool? call.home = some p) : GoesOn s i call := by
  rcases prompt with ended | hears | steps
  · exact .inl ended
  · exact .inr (.inl hears)
  · refine .inr (.inr fun connected contended => ?_)
    obtain ⟨p', t', did⟩ := steps (s.view call connected contended) p
    obtain ⟨s', act, -⟩ := State.exists_act_step was built did
    exact Option.isSome_of_eq_some act

/-- A call that had begun by some state is still there in a later one. -/
structure AtWork (s₀ : State S) (i : Nat) (home : PoolId)
    (since : List (State S × Choice S)) (s : State S) (call : Call S) : Prop where
  leads : Leads s₀ since s
  was : s.calls[i]? = some call
  home : call.home = home

/-- What leads on from a state begins there. -/
theorem Leads.first {e : State S × Choice S} (leads : Leads s₀ (since ++ [e]) s) :
    ∃ c, e = (s₀, c) := by
  generalize whole : since ++ [e] = all at leads
  induction leads generalizing since with
  | here => simp at whole
  | next leads fresh act ih =>
    cases since with
    | nil =>
      cases whole
      cases leads
      exact ⟨_, rfl⟩
    | cons e' since =>
      cases whole
      exact ih rfl

theorem Leads.exists_call (leads : Leads s₀ since s) (was₀ : s₀.calls[i]? = some call₀) :
    ∃ call, s.calls[i]? = some call := by
  induction leads with
  | here => exact ⟨call₀, was₀⟩
  | next leads fresh act ih =>
    obtain ⟨call, was⟩ := ih
    exact exists_call_of_act act was

/-- What holds of a call at first, and is kept by each of its moves and by its end, holds of it for
good. -/
theorem Leads.conduct {Q : List (State S × Choice S) → List (Move S) → Task S → Prop}
    (was₀ : s₀.calls[i]? = some call₀) (first : Q [] [] call₀.task)
    (rest : ∀ {since : List (State S × Choice S)} {e : State S × Choice S}
      {ms : List (Move S)} {t : Task S}, Q since ms t → Q (e :: since) ms t)
    (step : ∀ {since : List (State S × Choice S)} {s : State S} {call : Call S}
      {p p' : Pool S} {t' : Task S} {connected : S → Bool} {contended : Bool},
      AtWork s₀ i call₀.home since s call → s.pool? call.home = some p →
      call.task.step (s.view call connected contended) p = some (p', t') →
      Q since (moves i since) call.task →
      Q ((s, .step i connected contended) :: since)
        (.step (s.view call connected contended) p p'
          (call.task.finding? (s.view call connected contended) p) :: moves i since) t')
    (hear : ∀ {since : List (State S × Choice S)} {s : State S} {call : Call S}
      {t' : Task S} {reply : Reply S} {contact : Contact S}, AtWork s₀ i call₀.home since s call →
      call.task.answer reply = some t' →
      call.task.contact? reply = some contact → Q since (moves i since) call.task →
      Q ((s, .answer i reply) :: since) (.hear contact :: moves i since) t')
    (ends : ∀ {since : List (State S × Choice S)} {s : State S} {call : Call S},
      AtWork s₀ i call₀.home since s call → call.task.isEnded = true →
      Q since (moves i since) call.task →
      Q ((s, .finish i) :: since) (moves i since) .returned)
    (leads : Leads s₀ since s) (was : s.calls[i]? = some call) :
    call.home = call₀.home ∧ Q since (moves i since) call.task := by
  induction leads generalizing call with
  | here =>
    cases was₀.symm.trans was
    exact ⟨rfl, first⟩
  | @next since s s' c leads fresh act ih =>
    obtain ⟨old, before⟩ := leads.exists_call was₀
    obtain ⟨home, q⟩ := ih before
    refine ⟨(same_of_act act before was).1.trans home, ?_⟩
    by_cases mine : c.caller? = some i
    · cases happens_of_act act with
      | @step j connected contended _ site p' t' atWork found did =>
        cases mine
        cases before.symm.trans atWork
        have built := State.pool?_of_site found
        have hlt := (List.getElem?_eq_some_iff.1 atWork).1
        rw [State.put, List.getElem?_set_self hlt] at was
        cases was
        rw [moves_of_step atWork built did]
        exact step ⟨leads, atWork, home⟩ built did q
      | @answer j reply _ site t' atWork found did =>
        cases mine
        cases before.symm.trans atWork
        obtain ⟨contact, learned⟩ := Task.exists_contact did
        have hlt := (List.getElem?_eq_some_iff.1 atWork).1
        rw [State.put, List.getElem?_set_self hlt] at was
        cases was
        rw [moves_of_answer atWork learned]
        exact hear ⟨leads, atWork, home⟩ did learned q
      | @finish j _ atWork ended =>
        cases mine
        cases before.symm.trans atWork
        have hlt := (List.getElem?_eq_some_iff.1 atWork).1
        rw [List.getElem?_set_self hlt] at was
        cases was
        rw [moves_of_none rfl]
        exact ends ⟨leads, atWork, home⟩ ended q
      | pass | build | adjust | begin | drop => cases mine
    · rw [moves_of_caller_ne mine]
      rcases same_of_caller_ne act mine was with same | new
      · cases before.symm.trans same
        exact rest q
      · cases before.symm.trans new

theorem Leads.same_home (was₀ : s₀.calls[i]? = some call₀) (leads : Leads s₀ since s)
    (was : s.calls[i]? = some call) : call.home = call₀.home :=
  (conduct (Q := fun _ _ _ => True) was₀ trivial id (fun _ _ _ _ => trivial)
    (fun _ _ _ _ => trivial) (fun _ _ _ => trivial) leads was).1

/-- A call that is over does nothing more than hand its results over. -/
theorem Leads.rests (was₀ : s₀.calls[i]? = some call₀) (over₀ : call₀.task.IsOver)
    (leads : Leads s₀ since s) (was : s.calls[i]? = some call) :
    moves i since = [] ∧ (call.task = call₀.task ∨ call.task = .returned) := by
  -- neither steps nor answers are left
  have still {t : Task S} (same : t = call₀.task ∨ t = .returned) :
      (∀ v p, t.step v p = none) ∧ ∀ reply, t.answer reply = none := by
    have returned : (∀ v p, (.returned : Task S).step v p = none) ∧
        ∀ reply, (.returned : Task S).answer reply = none :=
      ⟨fun _ _ => rfl, fun _ => rfl⟩
    rcases same with rfl | rfl
    · rcases over₀ with is | ended
      · exact is ▸ returned
      · generalize call₀.task = t at ended
        cases Task.ended_of_isEnded ended <;>
          exact ⟨fun _ _ => rfl, fun reply => by cases reply <;> rfl⟩
    · exact returned
  refine (conduct (Q := fun _ ms t => ms = [] ∧ (t = call₀.task ∨ t = .returned)) was₀
    ⟨rfl, .inl rfl⟩ id ?step ?hear ?ends leads was).2
  case step =>
    intro since s call p p' t' connected contended atWork built did q
    rw [(still q.2).1] at did
    cases did
  case hear =>
    intro since s call t' reply contact atWork did learned q
    rw [(still q.2).2] at did
    cases did
  case ends => exact fun atWork ended q => ⟨q.1, .inr rfl⟩

/-! ## Courses -/

/-- The moves that lead a call from one phase to another, the latest first. -/
inductive Course (t₀ : Task S) : List (Move S) → Task S → Prop
  | here : Course t₀ [] t₀
  | step {ms : List (Move S)} {t t' : Task S} {v : View S} {p p' : Pool S} (course : Course t₀ ms t)
      (did : t.step v p = some (p', t')) : Course t₀ (.step v p p' (t.finding? v p) :: ms) t'
  | hear {ms : List (Move S)} {t t' : Task S} {reply : Reply S} {contact : Contact S}
      (course : Course t₀ ms t) (did : t.answer reply = some t')
      (learned : t.contact? reply = some contact) :
      Course t₀ (.hear contact :: ms) t'
  /-- The results are handed over. -/
  | ends {ms : List (Move S)} {t : Task S} (course : Course t₀ ms t) (ended : t.isEnded = true) :
      Course t₀ ms .returned

theorem Leads.course (was₀ : s₀.calls[i]? = some call₀) (leads : Leads s₀ since s)
    (was : s.calls[i]? = some call) : Course call₀.task (moves i since) call.task :=
  (conduct (Q := fun _ ms t => Course call₀.task ms t) was₀ .here id
    (fun _ _ did course => .step course did) (fun _ did learned course => .hear course did learned)
    (fun _ ended course => .ends course ended) leads was).2

/-! ## Calls that are left alone -/

/-- Nobody but one call has changed the pool. -/
def LeftAlone (home : PoolId) (i : Nat) (past : List (State S × Choice S)) : Prop :=
  ∀ e ∈ past, e.2.caller? ≠ some i → (e.1.act e.2).bind (·.pool? home) = e.1.pool? home

instance [DecidableEq S] {home : PoolId} : Decidable (LeftAlone home i past) :=
  inferInstanceAs (Decidable (∀ e ∈ past, e.2.caller? ≠ some i →
    (e.1.act e.2).bind (·.pool? home) = e.1.pool? home))

/-- Each step of a call finds the pool as the one before has left it. -/
def Chained (p₀ : Pool S) : List (Pool S × Pool S) → Pool S → Prop
  | [], p => p = p₀
  | (q, q') :: es, p => p = q' ∧ Chained p₀ es q

/-- A call changes no pool but its own. -/
theorem Leads.elsewhere {home : PoolId} (was₀ : s₀.calls[i]? = some call₀)
    (leads : Leads s₀ since s) (other : home ≠ call₀.home) :
    ∀ e ∈ since, e.2.caller? = some i → (e.1.act e.2).bind (·.pool? home) = e.1.pool? home := by
  induction leads with
  | here => simp
  | @next since s s' c leads fresh act ih =>
    rintro e he mine
    rcases List.mem_cons.1 he with rfl | he
    · obtain ⟨call, was⟩ := leads.exists_call was₀
      have at_ := leads.same_home was₀ was
      rw [act, Option.bind_some]
      cases happens_of_act act with
      | @step j connected contended _ site p' t' atWork found did =>
        cases mine
        cases was.symm.trans atWork
        rw [State.pool?_put found, if_neg (at_ ▸ other)]
      | @answer j reply _ site t' atWork found did =>
        exact State.pool?_of_set_same found rfl
      | finish => rfl
      | pass | build | adjust | begin | drop => cases mine
    · exact ih e he mine

/-- A pool that nobody else has changed is what the steps of the call have made of it. -/
theorem Leads.chained (was₀ : s₀.calls[i]? = some call₀) (built₀ : s₀.pool? call₀.home = some p₀)
    (leads : Leads s₀ since s) (alone : LeftAlone call₀.home i since)
    (built : s.pool? call₀.home = some p) :
    Chained p₀ (effects (moves i since)) p := by
  induction leads generalizing p with
  | here =>
    cases built₀.symm.trans built
    rfl
  | @next since s s' c leads fresh act ih =>
    have earlier : LeftAlone call₀.home i since := fun e he => alone e (List.mem_cons_of_mem _ he)
    obtain ⟨q, before⟩ := leads.exists_pool? built₀
    have chained := ih earlier before
    by_cases mine : c.caller? = some i
    · obtain ⟨old, at_⟩ := leads.exists_call was₀
      have home := leads.same_home was₀ at_
      cases happens_of_act act with
      | @step j connected contended _ site p' t' atWork found did =>
        cases mine
        cases at_.symm.trans atWork
        rw [← home] at before built
        cases before.symm.trans (State.pool?_of_site found)
        rw [State.pool?_put found, if_pos rfl] at built
        cases built
        rw [moves_of_step atWork before did]
        exact ⟨rfl, chained⟩
      | @answer j reply _ site t' atWork found did =>
        cases mine
        obtain ⟨contact, learned⟩ := Task.exists_contact did
        rw [moves_of_answer atWork learned]
        cases before.symm.trans ((State.pool?_of_set_same found rfl).symm.trans built)
        exact chained
      | finish =>
        cases mine
        cases before.symm.trans built
        rw [moves_of_none rfl]
        exact chained
      | pass | build | adjust | begin | drop => cases mine
    · have same := alone _ List.mem_cons_self mine
      rw [act, Option.bind_some, built, before] at same
      cases same
      rw [moves_of_caller_ne mine]
      exact chained

end Interleaving

end ConnectionPool
