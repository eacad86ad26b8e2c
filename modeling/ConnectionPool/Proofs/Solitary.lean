import ConnectionPool.Proofs.Agreement

set_option autoImplicit false

/-! # Requests that nobody disturbs

Somebody asks for something and gets it while nobody else does anything, although time may pass
(`AnsweredAlone`). What the others have begun stays as it is. So the pool is changed by the steps of
the one call alone, it exists afterwards if it did before, and its owner still has it. The only
sessions that were delivered meanwhile are those that the call has heard of (`deliveries`). -/

namespace ConnectionPool

namespace Interleaving

variable {S : Type} {home : PoolId} {since : List (State S × Choice S)} {s s₁ s₂ s' : State S}
  {c : Choice S} {i : Nat} {call₁ : Call S} {p : Pool S}

/-- Nobody does anything but one call, although time may pass. -/
def Solitary (i : Nat) (since : List (State S × Choice S)) : Prop :=
  ∀ e ∈ since, e.2.caller? = some i ∨ ∃ d, e.2 = .pass d

namespace Solitary

theorem of_cons {e : State S × Choice S} (alone : Solitary i (e :: since)) : Solitary i since :=
  fun e he => alone e (List.mem_cons_of_mem _ he)

theorem leftAlone (alone : Solitary i since) (home : PoolId) : LeftAlone home i since := by
  rintro ⟨s, c⟩ he other
  rcases alone _ he with mine | ⟨d, rfl⟩
  · exact (other mine).elim
  · rfl

end Solitary

/-- A call makes a move, and goes on while nobody else does anything. -/
theorem Leads.after_alone {move : Move S} (act : s.act c = some s₁) (fresh : c.Fresh s)
    (mine : c.caller? = some i) (moved : s.move? i c = some move) (leads : Leads s₁ since s₂)
    (alone : Solitary i since) :
    Leads s (since ++ [(s, c)]) s₂ ∧ Solitary i (since ++ [(s, c)]) ∧
      moves i (since ++ [(s, c)]) = moves i since ++ [move] := by
  have one : moves i [(s, c)] = [move] := List.filterMap_cons_some moved
  refine ⟨leads.after fresh act, ?_, by rw [moves_append, one]⟩
  intro e he
  rcases List.mem_append.1 he with he | he
  · exact alone e he
  · cases List.mem_singleton.1 he
    exact .inl mine

/-- A request is made and answered while nobody else does anything: the moves of the call, the phase
in which it has ended, and the state in which its results were handed over. -/
inductive AnsweredAlone (s : State S) (request : Request) : List (Move S) → Task S → State S → Prop
  | intro {since : List (State S × Choice S)} {s₁ s₂ s' : State S} {call : Call S}
      (begun : s.act (.begin request) = some s₁) (leads : Leads s₁ since s₂)
      (alone : Solitary s.calls.length since)
      (was : s₂.calls[s.calls.length]? = some call)
      (finished : s₂.act (.finish s.calls.length) = some s') :
      AnsweredAlone s request (moves s.calls.length since) call.task s'

/-! ## What the others are left with -/

theorem State.owned_put {call : Call S} {site : Site S}
    (found : s.sites[call.home]? = some site) (i : Nat) (task : Task S) :
    (s.put i call site p task).owned home = s.owned home := by
  obtain ⟨lt, rfl⟩ := List.getElem?_eq_some_iff.1 found
  by_cases hh : call.home = home
  · subst hh
    simp [State.owned, State.put, lt]
  · simp [State.owned, State.put, List.getElem?_set_ne hh]

/-- The calls of the others stay in their phases, and every pool with its owner. -/
theorem Leads.others_rest (leads : Leads s₁ since s₂) (alone : Solitary i since)
    (was₁ : s₁.calls[i]? = some call₁) :
    ∃ call, s₂.calls = s₁.calls.set i call ∧ call.home = call₁.home ∧
      ∀ home, s₂.owned home = s₁.owned home := by
  have lt := (List.getElem?_eq_some_iff.1 was₁).1
  induction leads with
  | here => exact ⟨call₁, (congrArg State.calls (State.recast_self was₁)).symm, rfl, fun _ => rfl⟩
  | @next since s s' c leads fresh act ih =>
    obtain ⟨old, calls, at_, owned⟩ := ih alone.of_cons
    -- it is this one call that goes on
    have is {call : Call S} (atWork : s.calls[i]? = some call) : call = old := by
      rw [calls, List.getElem?_set_self lt] at atWork
      exact (Option.some.inj atWork).symm
    have gone (task : Task S) :
        s.calls.set i { old with task } = s₁.calls.set i { old with task } := by
      rw [calls, List.set_set]
    rcases alone _ List.mem_cons_self with mine | ⟨d, rfl⟩
    · cases happens_of_act act with
      | @step j _ _ call site p' t' atWork found did =>
        cases mine
        obtain rfl := is atWork
        exact ⟨{ call with task := t' }, gone t', at_,
          fun home => (State.owned_put found i t').trans (owned home)⟩
      | @answer j _ call site t' atWork found did =>
        cases mine
        obtain rfl := is atWork
        exact ⟨{ call with task := t' }, gone t', at_,
          fun home => (State.owned_put found i t').trans (owned home)⟩
      | @finish j call atWork ended =>
        cases mine
        obtain rfl := is atWork
        exact ⟨{ call with task := .returned }, gone .returned, at_, owned⟩
      | pass | build | adjust | begin | drop => cases mine
    · cases act
      exact ⟨old, calls, at_, owned⟩

/-- A pool exists if it did before, as far as that does not depend on the one call. -/
theorem Leads.alive_eq (leads : Leads s₁ since s₂) (alone : Solitary i since)
    (was₁ : s₁.calls[i]? = some call₁) {call : Call S} (was : s₂.calls[i]? = some call)
    (keeps : call.task.keeps = call₁.task.keeps) (home : PoolId) :
    s₂.alive home = s₁.alive home := by
  obtain ⟨call', calls, at_, owned⟩ := leads.others_rest alone was₁
  have lt := (List.getElem?_eq_some_iff.1 was₁).1
  rw [calls, List.getElem?_set_self lt] at was
  cases was
  unfold State.alive
  rw [calls, owned, any_set was₁ at_]
  rw [at_, keeps]

/-- What the first step of the call sees of its pool. -/
theorem Leads.alive_of_first (leads : Leads s₁ since s₂) (alone : Solitary i since)
    (was₁ : s₁.calls[i]? = some call₁) {call : Call S} (was : s₂.calls[i]? = some call)
    {ms : List (Move S)} {v : View S} {q q' : Pool S}
    {learned : Option (Contact S)} (all : moves i since = ms ++ [.step v q q' learned]) :
    v.alive = s₁.alive call₁.home := by
  -- until it moves, the call rests in its first phase
  have still := (leads.conduct
    (Q := fun since ms t => Solitary i since → (ms = [] → t = call₁.task ∨ t = .returned) ∧
      ∀ ms' v q q' learned, ms = ms' ++ [.step v q q' learned] →
        v.alive = s₁.alive call₁.home)
    was₁ ?first ?rest ?step ?hear ?ends was).2 alone
  case first => exact fun _ => ⟨fun _ => .inl rfl, fun ms' v q q' learned none => by simp at none⟩
  case rest => exact fun q alone => q alone.of_cons
  case step =>
    intro since s call p p' t' connected contended atWork built did q alone
    obtain ⟨unmoved, first⟩ := q alone.of_cons
    refine ⟨fun none => (List.cons_ne_nil _ _ none).elim, fun ms' w r r' learned all => ?_⟩
    cases ms' with
    | nil =>
      obtain ⟨same, none⟩ := List.cons.inj all
      cases same
      rcases unmoved none with begun | returned
      · rw [← atWork.home]
        exact atWork.leads.alive_eq alone.of_cons was₁ atWork.was (by rw [begun]) call.home
      · rw [returned] at did
        cases did
    | cons latest ms' => exact first ms' w r r' learned (List.cons.inj all).2
  case hear =>
    intro since s call t' reply contact atWork did learned q alone
    obtain ⟨-, first⟩ := q alone.of_cons
    refine ⟨fun none => (List.cons_ne_nil _ _ none).elim, fun ms' w r r' learned all => ?_⟩
    cases ms' with
    | nil => cases (List.cons.inj all).1
    | cons latest ms' => exact first ms' w r r' learned (List.cons.inj all).2
  case ends => exact fun atWork ended q alone => ⟨fun _ => .inr rfl, (q alone.of_cons).2⟩
  exact still.2 ms v q q' learned all

/-! ## Sessions that are delivered -/

/-- The session that a source has handed over. -/
def Contact.delivery? : Contact S → Option S
  | .created _ (.value session) => some session
  | _ => none

/-- The sessions that sources have handed over, the latest first. -/
def deliveries (cs : List (Contact S)) : List S := cs.filterMap Contact.delivery?

theorem deliveries_append (cs cs' : List (Contact S)) :
    deliveries (cs ++ cs') = deliveries cs ++ deliveries cs' :=
  List.filterMap_append

theorem deliveries_cons (contact : Contact S) (cs : List (Contact S)) :
    deliveries (contact :: cs) = contact.delivery?.toList ++ deliveries cs := by
  cases h : contact.delivery? <;> simp [deliveries, h]

/-- What is delivered with an answer is what is learned from it. -/
theorem delivery_of_status {τ ε α : Type} {status : Status S τ ε α} {reply : Reply S}
    {contact : Contact S} (learned : status.contact? reply = some contact) :
    contact.delivery? = reply.delivery := by
  cases status with
  | creating =>
    cases reply with
    | created outcome =>
      cases learned
      cases outcome <;> rfl
    | _ => cases learned
  | opening | querying | closing =>
    cases reply <;> cases learned
    rfl
  | running | ended => cases learned

theorem Task.delivery_of_contact? {t : Task S} {reply : Reply S} {contact : Contact S}
    (learned : t.contact? reply = some contact) : contact.delivery? = reply.delivery := by
  cases t with
  | resize | returned => cases learned
  | _ => exact delivery_of_status learned

/-- Nothing is delivered with what a call finds out by itself. -/
theorem Task.deliveries_finding? (v : View S) (p : Pool S) (t : Task S) :
    deliveries (t.finding? v p).toList = [] := by
  cases t with
  | acquire a =>
    cases a with
    | readSource =>
      show deliveries
        (if p.source.isNone then some .sourceless else none : Option (Contact S)).toList = []
      split <;> rfl
    | _ => rfl
  | _ => rfl

/-- While nobody else does anything, the sessions that are delivered are those that the call hears
of. -/
theorem Leads.delivered_eq (leads : Leads s₁ since s₂) (alone : Solitary i since) :
    s₂.delivered = deliveries (contacts (moves i since)) ++ s₁.delivered := by
  induction leads with
  | here => rfl
  | @next since s s' c leads fresh act ih =>
    have before := ih alone.of_cons
    rcases alone _ List.mem_cons_self with mine | ⟨d, rfl⟩
    · cases happens_of_act act with
      | @step j connected contended call site p' t' atWork found did =>
        cases mine
        rw [moves_of_step atWork (State.pool?_of_site found) did, contacts_step, deliveries_append,
          Task.deliveries_finding?, List.nil_append]
        exact before
      | @answer j reply call site t' atWork found did =>
        cases mine
        obtain ⟨contact, learned⟩ := Task.exists_contact did
        rw [moves_of_answer atWork learned, contacts_hear, deliveries_cons,
          Task.delivery_of_contact? learned, List.append_assoc, ← before]
      | finish =>
        cases mine
        rw [moves_of_none rfl]
        exact before
      | pass | build | adjust | begin | drop => cases mine
    · rw [moves_of_none rfl]
      cases act
      exact before

/-! ## What the request comes to -/

namespace AnsweredAlone

variable {request : Request} {ms : List (Move S)} {t : Task S}
  {leases : List (Lease S)} {call₀ : Call S}

/-- The call takes its course, and the pool is what its steps have made of it. -/
theorem course (one : AnsweredAlone s request ms t s')
    (admitted : s.enter request = some (leases, call₀)) (built : s.pool? call₀.home = some p) :
    t.isEnded = true ∧ Course call₀.task ms t ∧ ∃ p', s'.pool? call₀.home = some p' ∧
      Chained p (effects ms) p' := by
  obtain ⟨begun, leads, alone, was, finished⟩ := one
  cases happens_of_act begun with
  | begin admitted' =>
    cases admitted.symm.trans admitted'
    have was₁ : (s.calls ++ [call₀])[s.calls.length]? = some call₀ := List.getElem?_concat_length
    have built₁ :
        (State.mk s.now s.sites leases (s.calls ++ [call₀]) s.delivered).pool? call₀.home =
          some p := built
    obtain ⟨p', built'⟩ := leads.exists_pool? built₁
    refine ⟨?_, leads.course was₁ was, p', ?_, leads.chained was₁ built₁ (alone.leftAlone _) built'⟩
    · cases happens_of_act finished with
      | finish atWork ended =>
        cases was.symm.trans atWork
        exact ended
    · cases happens_of_act finished with
      | finish => exact built'

/-- Every pool has its owner afterwards if it had before. -/
theorem owned (one : AnsweredAlone s request ms t s') (home : PoolId) :
    s'.owned home = s.owned home := by
  cases one with
  | @intro since s₁ s₂ _ call begun leads alone was finished =>
  cases happens_of_act begun with
  | @begin _ _ call₀ admitted =>
  have was₁ : (s.calls ++ [call₀])[s.calls.length]? = some call₀ := List.getElem?_concat_length
  obtain ⟨-, -, -, owned⟩ := leads.others_rest alone was₁
  cases happens_of_act finished with
  | finish => exact owned home

/-- The sessions that were delivered are those that the call has heard of. -/
theorem delivered_eq (one : AnsweredAlone s request ms t s') :
    s'.delivered = deliveries (contacts ms) ++ s.delivered := by
  cases one with
  | @intro since s₁ s₂ _ call begun leads alone was finished =>
  have delivered := leads.delivered_eq alone
  cases happens_of_act begun with
  | begin =>
  cases happens_of_act finished with
  | finish => exact delivered

/-- The pool exists afterwards if it did before, and the call sees as much when it takes its first
step. -/
theorem alive (one : AnsweredAlone s request ms t s')
    (admitted : s.enter request = some (leases, call₀)) (idle : call₀.task.keeps = false) :
    s'.alive call₀.home = s.alive call₀.home ∧ ∀ ms' v q q' learned,
      ms = ms' ++ [.step v q q' learned] → v.alive = s.alive call₀.home := by
  cases one with
  | @intro since s₁ s₂ _ call begun leads alone was finished =>
  cases happens_of_act begun with
  | begin admitted' =>
  cases admitted.symm.trans admitted'
  have was₁ : (s.calls ++ [call₀])[s.calls.length]? = some call₀ := List.getElem?_concat_length
  have before (home : PoolId) :
      (State.mk s.now s.sites leases (s.calls ++ [call₀]) s.delivered).alive home =
        s.alive home := by
    simp [State.alive, State.owned, idle]
  refine ⟨?_, fun ms' v q q' learned all => (leads.alive_of_first alone was₁ was all).trans
    (before _)⟩
  obtain ⟨call', calls, at_, owned⟩ := leads.others_rest alone was₁
  rw [calls, List.getElem?_set_self (by simp)] at was
  cases was
  cases happens_of_act finished with
  | @finish _ call'' atWork ended =>
  rw [calls, List.getElem?_set_self (by simp)] at atWork
  cases atWork
  have at_' : ({ call with task := .returned } : Call S).home = call₀.home := at_
  rw [← before call₀.home]
  unfold State.alive
  rw [calls, List.set_set, any_set was₁ at_']
  · exact congrArg (· || _) (owned call₀.home)
  · show (_ && false) = (_ && call₀.task.keeps)
    rw [idle, Bool.and_false, Bool.and_false]

end AnsweredAlone

end Interleaving

end ConnectionPool
