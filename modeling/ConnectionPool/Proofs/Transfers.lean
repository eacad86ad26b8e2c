import ConnectionPool.Proofs.Returns

set_option autoImplicit false

/-! # Moving a session from one lease to another

If two leases are from one pool, moving the session of one into the other gives the session of the
target back as a release does (`Leads.gave`), and makes the target what the source was. If they are
from different pools, the target stays as it is, and the session of the source goes home. Only the
pool of the source is ever changed.

A session may break off while it is closed. Then the call breaks off as well. Between two pools that
makes no other difference; within one pool the target stays empty, and the session of the source is
given back too (`exists_transfer_broken_off`). -/

namespace ConnectionPool

namespace Interleaving

variable {S : Type} {target source lease : Lease S} {ms : List (Move S)}

/-! ## How a transfer goes -/

/-- These are the moves by which a lease gives its session back, by whichever call. -/
structure Gave (lease : Lease S) (ms : List (Move S)) (outcome : Outcome Error Unit) : Prop where
  course : ∀ kept, Course (.giveBack kept lease.giveBack.2) ms (.giveBack kept (.done outcome))
  given : GivenBack lease ms outcome

/-- How a transfer can end: with which moves, which target and which outcome. -/
inductive Moved (target source : Lease S) : List (Move S) → Lease S → Outcome Error Unit → Prop
  /-- The target has given its session back, and becomes what the source was. -/
  | moved {given : Outcome Error Unit} {v : View S} {p : Pool S} {ms : List (Move S)}
    (same : target.home = source.home) (gave : Gave target ms given)
    (returns : ∀ text, given ≠ .panic text) :
      Moved target source (.step v p p none :: ms) source given
  /-- The source has given its session back, and the target is as it was. -/
  | refused {given : Outcome Error Unit} {v : View S} {p : Pool S} {ms : List (Move S)}
      (apart : target.home ≠ source.home) (gave : Gave source ms given)
      (returns : ∀ text, given ≠ .panic text) :
      Moved target source (.step v p p none :: ms) target (.error .foreignLease)
  /-- The session of the source has broken off while it was closed. -/
  | refusedBrokenOff {text : String} {v : View S} {p : Pool S} {ms : List (Move S)}
      (apart : target.home ≠ source.home) (gave : Gave source ms (.panic text)) :
      Moved target source (.step v p p none :: ms) target (.panic text)
  /-- The session of the target has broken off while it was closed, and the source has given its
  session back. -/
  | brokeOff {text : String} {given : Outcome Error Unit} {v w : View S} {p q : Pool S}
    {ms ms' : List (Move S)} (same : target.home = source.home)
    (gave : Gave target ms (.panic text)) (also : Gave source ms' given)
    (returns : ∀ text, given ≠ .panic text) :
      Moved target source (.step v p p none :: ms' ++ .step w q q none :: ms) ⟨source.home,
        none, target.info⟩ (.panic text)
  /-- Both sessions have broken off. What comes of the target is left open. -/
  | brokeOffTwice {text text' : String} {target' : Lease S}
    {outcome : Outcome Error Unit} {v w : View S} {p q : Pool S} {ms ms' : List (Move S)}
    (same : target.home = source.home) (gave : Gave target ms (.panic text))
    (also : Gave source ms' (.panic text')) :
      Moved target source (.step v p p none :: ms' ++ .step w q q none :: ms) target' outcome

/-- These moves have led a call that gives a lease back to a phase. -/
def Giving (lease : Lease S) (ms : List (Move S)) (r : Return S) : Prop :=
  ∀ kept, Course (.giveBack kept lease.giveBack.2) ms (.giveBack kept r)

/-- What was done to reach a phase of a transfer. -/
def Task.Moving (target source : Lease S) (ms : List (Move S)) : Task S → Prop
  | .transfer (.replace old source' giving) =>
    target.home = source.home ∧ old = target.info ∧ source' = source ∧ Giving target ms giving
  | .transfer (.refuse target' giving) =>
    target.home ≠ source.home ∧ target' = target ∧ Giving source ms giving
  | .transfer (.abandon target' text giving) =>
    target.home = source.home ∧ target' = ⟨source.home, none, target.info⟩ ∧
      ∃ w q ms₁ ms₂, ms = ms₂ ++ .step w q q none :: ms₁ ∧ Gave target ms₁ (.panic text) ∧
        Giving source ms₂ giving
  | .transfer (.done target' outcome) => Moved target source ms target' outcome
  | .returned => ∃ target' outcome, Moved target source ms target' outcome
  | _ => False

/-! ## From phase to phase -/

theorem Giving.begin (lease : Lease S) : Giving lease [] lease.giveBack.2 := fun _ => .here

section

variable {v : View S} {p p' : Pool S} {r r' : Return S} {reply : Reply S} {contact : Contact S}
  {outcome : Outcome Error Unit}

theorem Giving.step (giving : Giving lease ms r) (did : r.step v p = some (p', r')) :
    Giving lease (.step v p p' none :: ms) r' := by
  intro kept
  have did' : (Task.giveBack kept r).step v p = some (p', .giveBack kept r') := by
    simp [Task.step, did]
  exact .step (giving kept) did'

theorem Giving.hear (giving : Giving lease ms r) (did : r.status.answer reply = some r')
    (learned : r.status.contact? reply = some contact) : Giving lease (.hear contact :: ms) r' := by
  intro kept
  have did' : (Task.giveBack kept r).answer reply = some (.giveBack kept r') := by
    simp [Task.answer, did]
  exact .hear (giving kept) did' learned

theorem Giving.done (giving : Giving lease ms (.done outcome)) : Gave lease ms outcome :=
  ⟨giving, (giving none).gives.1⟩

/-- Whoever is giving back has not taken more than six steps for it. -/
theorem Giving.few (giving : Giving lease ms r) : (effects ms).length ≤ 6 :=
  Nat.le_trans (Nat.le_add_left _ _) (giving none).gives.2

end

/-- Giving back goes the same whether or not the emptied lease is kept. -/
theorem Course.giving {kept kept' : Option (Lease S)} {t : Task S} {r : Return S}
    (course : Course (.giveBack kept lease.giveBack.2) ms t) (at_ : t = .giveBack kept' r) :
    Giving lease ms r := by
  induction course generalizing kept' r with
  | here =>
    cases at_
    exact .begin lease
  | @step ms t t' v p p' course did ih =>
    subst at_
    cases t with
    | giveBack kept₁ r₁ =>
      obtain ⟨r', did', same⟩ := exists_of_map_step did
      cases same
      exact (ih rfl).step did'
    | returned => cases did
    | _ =>
      obtain ⟨u, -, same⟩ := exists_of_map_step did
      cases same
  | @hear ms t t' reply contact course did learned ih =>
    subst at_
    cases t with
    | giveBack kept₁ r₁ =>
      obtain ⟨r', did', same⟩ := Option.map_eq_some_iff.1 did
      cases same
      exact (ih rfl).hear did' learned
    | resize | returned => cases did
    | _ =>
      obtain ⟨u, -, same⟩ := Option.map_eq_some_iff.1 did
      cases same
  | ends => cases at_

theorem Gave.few {outcome : Outcome Error Unit} (gave : Gave lease ms outcome) :
    (effects ms).length ≤ 6 :=
  Giving.few gave.course

end Interleaving

namespace Transfer

open Interleaving

variable {S : Type} {v : View S} {p p' : Pool S} {target source : Lease S}
  {ms : List (Move S)} {reply : Reply S} {contact : Contact S} {t t' : Transfer S}

theorem prompt_around {inside : Return S → Transfer S} (around : Around inside) (r : Return S) :
    (∃ reply t', (inside r).status.answer reply = some t') ∨ ∀ v p, ∃ p' t',
      (inside r).step v p = some (p', t') := by
  have is : (inside r).status = r.status.embed inside fun _ => .running := by cases around <;> rfl
  rcases r.prompt with ⟨outcome, rfl⟩ | ⟨reply, r', hears⟩ | steps
  · exact .inr fun v p => by cases around <;> exact ⟨_, _, rfl⟩
  · exact .inl ⟨reply, inside r', by rw [is, Status.embed_answer, hears, Option.map_some]⟩
  · refine .inr fun v p => ?_
    obtain ⟨p', r', did⟩ := steps v p
    refine ⟨p', inside r', ?_⟩
    cases r with
    | done => cases did
    | _ => cases around <;> simp [step, did]

/-- Whoever moves a session never waits for anybody but the session that is closed. -/
theorem prompt (t : Transfer S) : (∃ target outcome, t = done target outcome) ∨
    (∃ reply t', t.status.answer reply = some t') ∨ ∀ v p, ∃ p' t', t.step v p = some (p', t') := by
  cases t with
  | replace old source giving => exact .inr (prompt_around (.replace old source) giving)
  | refuse target giving => exact .inr (prompt_around (.refuse target) giving)
  | abandon target text giving => exact .inr (prompt_around (.abandon target text) giving)
  | done target outcome => exact .inl ⟨target, outcome, rfl⟩

theorem moving_start (target source : Lease S) :
    (Task.transfer (start target source)).Moving target source [] := by
  simp only [start]
  split
  · next same => exact ⟨same, rfl, rfl, .begin target⟩
  · next apart => exact ⟨apart, rfl, .begin source⟩

theorem moving_of_step (did : t.step v p = some (p', t'))
    (moving : (Task.transfer t).Moving target source ms) :
    (Task.transfer t').Moving target source (.step v p p' none :: ms) := by
  cases steps_of_step did with
  | giving around did' =>
    cases around with
    | replace old source' =>
      obtain ⟨same, rfl, rfl, giving⟩ := moving
      exact ⟨same, rfl, rfl, giving.step did'⟩
    | refuse target' =>
      obtain ⟨apart, rfl, giving⟩ := moving
      exact ⟨apart, rfl, giving.step did'⟩
    | abandon target' text =>
      obtain ⟨same, rfl, w, q, ms₁, ms₂, rfl, gave, giving⟩ := moving
      exact ⟨same, rfl, w, q, ms₁, _, rfl, gave, giving.step did'⟩
  | @replaced old source' given =>
    obtain ⟨same, rfl, rfl, giving⟩ := moving
    cases given with
    | panic text => exact ⟨same, rfl, v, p, ms, [], rfl, giving.done, .begin source'⟩
    | value | error => exact .moved same giving.done (by simp)
  | @refused target' given =>
    obtain ⟨apart, rfl, giving⟩ := moving
    cases given with
    | panic text => exact .refusedBrokenOff apart giving.done
    | value | error => exact .refused apart giving.done (by simp)
  | @abandoned target' text given =>
    obtain ⟨same, rfl, w, q, ms₁, ms₂, rfl, gave, giving⟩ := moving
    cases given with
    | panic text' => exact .brokeOffTwice same gave giving.done
    | value | error => exact .brokeOff same gave giving.done (by simp)

theorem moving_of_answer (did : t.status.answer reply = some t')
    (learned : t.status.contact? reply = some contact)
    (moving : (Task.transfer t).Moving target source ms) :
    (Task.transfer t').Moving target source (.hear contact :: ms) := by
  cases t with
  | replace old source' giving =>
    obtain ⟨r', did', rfl⟩ := Status.answer_embed did
    rw [status, Status.contact?_embed] at learned
    obtain ⟨same, rfl, rfl, giving⟩ := moving
    exact ⟨same, rfl, rfl, giving.hear did' learned⟩
  | refuse target' giving =>
    obtain ⟨r', did', rfl⟩ := Status.answer_embed did
    rw [status, Status.contact?_embed] at learned
    obtain ⟨apart, rfl, giving⟩ := moving
    exact ⟨apart, rfl, giving.hear did' learned⟩
  | abandon target' text giving =>
    obtain ⟨r', did', rfl⟩ := Status.answer_embed did
    rw [status, Status.contact?_embed] at learned
    obtain ⟨same, rfl, w, q, ms₁, ms₂, rfl, gave, giving⟩ := moving
    exact ⟨same, rfl, w, q, ms₁, _, rfl, gave, giving.hear did' learned⟩
  | done => cases reply <;> cases did

end Transfer

namespace Interleaving

variable {S : Type} {target source : Lease S} {ms : List (Move S)}
  {later : List (State S × Choice S)} {s₁ s : State S} {i : Nat} {call₁ call : Call S}

/-! ## Calls -/

theorem Leads.moving (was₁ : s₁.calls[i]? = some call₁)
    (begun : call₁.task = .transfer (.start target source)) (leads : Leads s₁ later s)
    (was : s.calls[i]? = some call) : call.task.Moving target source (moves i later) := by
  refine (Leads.conduct
    (Q := fun _ ms t => t.Moving target source ms) was₁ ?first id ?step ?hear ?ends leads was).2
  case first =>
    rw [begun]
    exact Transfer.moving_start target source
  case step =>
    intro since s call p p' t' connected contended atWork built did q
    generalize call.task = t at did q ⊢
    cases t with
    | transfer t =>
      obtain ⟨u, did', rfl⟩ := exists_of_map_step did
      exact Transfer.moving_of_step did' q
    | returned => cases did
    | _ => exact q.elim
  case hear =>
    intro since s call t' reply contact atWork did learned q
    generalize call.task = t at did learned q
    cases t with
    | transfer t =>
      obtain ⟨u, did', rfl⟩ := Option.map_eq_some_iff.1 did
      exact Transfer.moving_of_answer did' learned q
    | returned => cases did
    | _ => exact q.elim
  case ends =>
    intro since s call atWork ended q
    generalize call.task = t at ended q
    cases Task.ended_of_isEnded ended with
    | transfer target' outcome => exact ⟨target', outcome, q⟩
    | _ => exact q.elim

theorem Moved.few {target' : Lease S} {outcome : Outcome Error Unit}
    (moved : Moved target source ms target' outcome) : (effects ms).length ≤ 14 := by
  cases moved with
  | moved same gave => exact Nat.le_trans (Nat.succ_le_succ gave.few) (by decide)
  | refused apart gave => exact Nat.le_trans (Nat.succ_le_succ gave.few) (by decide)
  | refusedBrokenOff apart gave => exact Nat.le_trans (Nat.succ_le_succ gave.few) (by decide)
  | brokeOff same gave also | brokeOffTwice same gave also =>
    have few := gave.few
    have fewer := also.few
    simp only [List.cons_append, effects_append, effects_step, List.length_cons, List.length_append]
    omega

theorem Task.few_of_moving {t : Task S} (moving : t.Moving target source ms) :
    (effects ms).length ≤ 14 := by
  cases t with
  | transfer t =>
    cases t with
    | replace old source' giving =>
      obtain ⟨-, -, -, giving⟩ := moving
      exact Nat.le_trans giving.few (by decide)
    | refuse target' giving =>
      obtain ⟨-, -, giving⟩ := moving
      exact Nat.le_trans giving.few (by decide)
    | abandon target' text giving =>
      obtain ⟨-, -, w, q, ms₁, ms₂, rfl, gave, giving⟩ := moving
      have few := gave.few
      have fewer := giving.few
      simp only [effects_append, effects_step, List.length_cons, List.length_append]
      omega
    | done target' outcome => exact moving.few
  | returned =>
    obtain ⟨target', outcome, moved⟩ := moving
    exact moved.few
  | _ => exact moving.elim

theorem Task.prompt_of_moving {t : Task S} (moving : t.Moving target source ms) : t.Prompt := by
  cases t with
  | transfer t =>
    rcases t.prompt with ⟨target, outcome, rfl⟩ | ⟨reply, t', hears⟩ | steps
    · exact .inl (.inr rfl)
    · exact .inr (.inl ⟨reply, .transfer t', by simp [answer, hears]⟩)
    · refine .inr (.inr fun v p => ?_)
      obtain ⟨p', t', did⟩ := steps v p
      exact ⟨p', .transfer t', by simp [step, did]⟩
  | returned => exact .inl (.inl rfl)
  | _ => exact moving.elim

/-! ## Main result -/

/-- What has come of moving the session of one lease into another. -/
structure Transferred (i : Nat) (target source : Lease S)
    (later : List (State S × Choice S)) (s : State S) (call : Call S) : Prop where
  prompt : GoesOn s i call
  few : (effects (moves i later)).length ≤ 14
  /-- It ends in one of the ways there are, and hands the target over, as it has become. -/
  result : ∀ target' outcome, call.task = .transfer (.done target' outcome) →
    Moved target source (moves i later) target' outcome ∧
      ∃ s', s.act (.finish i) = some s' ∧ s'.leases = s.leases ++ [target']
  ending : call.task.IsOver →
    ∃ target' outcome, Moved target source (moves i later) target' outcome
  /-- It changes no pool but that of the source. -/
  elsewhere : ∀ home, home ≠ source.home → ∀ e ∈ later, e.2.caller? = some i →
    (e.1.act e.2).bind (·.pool? home) = e.1.pool? home
  /-- What is left of the source gives nothing back any more. -/
  inert : Gave source.giveBack.1 [] (.value ())

/-- Releasing a lease, or dropping it, takes the moves by which it gives its session back. -/
theorem Leads.gave {lease : Lease S} {kept kept' : Option (Lease S)} {outcome : Outcome Error Unit}
    (was₁ : s₁.calls[i]? = some call₁) (begun : call₁.task = .giveBack kept lease.giveBack.2)
    (leads : Leads s₁ later s)
    (was : s.calls[i]? = some call) (done : call.task = .giveBack kept' (.done outcome)) :
    Gave lease (moves i later) outcome := by
  have course := leads.course was₁ was
  rw [begun] at course
  exact (course.giving done).done

/-- A session is moved from one lease to another of the same pool, and else the source goes home. -/
theorem transfer_moves_or_refuses {past : List (State S × Choice S)} {s₀ : State S} {m n : Nat}
    (run : Run past s₀) (gives : s₀.leases[n]? = some source)
    (takes : (s₀.leases.eraseIdx n)[m]? = some target) :
    ∃ s₁, s₀.act (.begin (.transfer m n)) = some s₁ ∧
      s₁.leases = (s₀.leases.eraseIdx n).eraseIdx m ∧ ∀ later s call, Leads s₁ later s →
      s.calls[s₀.calls.length]? = some call →
      Transferred s₀.calls.length target source later s call := by
  have act : s₀.act (.begin (.transfer m n)) = some { s₀ with
      leases := (s₀.leases.eraseIdx n).eraseIdx m
      calls := s₀.calls ++ [⟨source.home, false, .transfer (.start target source)⟩] } := by
    simp [State.act, State.enter, gives, takes]
  refine ⟨_, act, rfl, fun later s call leads was => ?_⟩
  have was₁ : (s₀.calls ++
      [(⟨source.home, false, .transfer (.start target source)⟩ : Call S)])[s₀.calls.length]? =
      some ⟨source.home, false, .transfer (.start target source)⟩ := by simp
  have moving := leads.moving was₁ rfl was
  have run₁ : Run ((s₀, .begin (.transfer m n)) :: past) _ := .next run trivial act
  obtain ⟨p, built⟩ := (run₁.append leads).grounded.exists_pool was
  refine
    { prompt := .of_prompt (Task.prompt_of_moving moving) was built
      few := Task.few_of_moving moving
      result := fun target' outcome done => ?_
      ending := fun ending => ?_
      elsewhere := fun home other => leads.elsewhere was₁ other
      inert := (Giving.begin source.giveBack.1).done }
  · rw [done] at moving
    refine ⟨moving, ?_⟩
    have ended : call.task.isEnded = true := by
      rw [done]
      rfl
    have yields : call.yields = [target'] := by simp [Call.yields, done, Task.leases, Task.loan?]
    have finish : s.act (.finish s₀.calls.length) = some { s with
        leases := s.leases ++ call.yields
        calls := s.calls.set s₀.calls.length { call with task := .returned } } := by
      simp [State.act, was, ended]
    exact ⟨_, finish, congrArg (s.leases ++ ·) yields⟩
  · rcases ending with returned | ended
    · rwa [returned] at moving
    · generalize call.task = t at moving ended
      cases Task.ended_of_isEnded ended with
      | transfer target' outcome => exact ⟨target', outcome, moving⟩
      | _ => exact moving.elim

/-- Two sessions are lent, by one pool. -/
def lendingTwo : List (Choice Nat) :=
  List.flatten [[.build { settings := { maxConnections := 2 }, source := some .server }],
    lending 1 10, lending 2 20]

/-- The second session is moved into the lease of the first, which is not connected any more and is
closed. -/
def replacing (outcome : Outcome Empty Unit) : List (Choice Nat) :=
  List.flatten [List.replicate 3 (.step 3 (fun _ => false) false), [.answer 3 (.closed outcome)]]

theorem transfer_moves_or_refuses_of_replacing :
    ∃ past s₀ s₁ later s call target source, Run (S := Nat) past s₀ ∧ s₀.leases = [target, source] ∧
      target.home = source.home ∧ s₀.act (.begin (.transfer 0 1)) = some s₁ ∧ Leads s₁ later s ∧
      s.calls[3]? = some call ∧ call.task = .transfer (.done source (.value ())) ∧
      Transferred 3 target source later s call := by
  have h : ((play lendingTwo).any fun r => (r.2.act (.begin (.transfer 0 1))).any fun s₁ =>
      (follow [] s₁ (replacing (.value ()) ++ steps 3 4)).any fun r' =>
        decide (r.2.calls.length = 3 ∧ ∃ target ∈ r.2.leases[0]?, ∃ source ∈ r.2.leases[1]?,
          r.2.leases = [target, source] ∧ target.home = source.home ∧ ∃ call ∈ r'.2.calls[3]?,
            call.task = .transfer (.done source (.value ())))) = true := by
    decide +kernel
  obtain ⟨⟨past, s₀⟩, played, h⟩ := (Option.any_eq_true _ _).1 h
  obtain ⟨s₁, act, h⟩ := (Option.any_eq_true _ _).1 h
  obtain ⟨⟨later, s⟩, followed, h⟩ := (Option.any_eq_true _ _).1 h
  obtain ⟨count, target, -, source, -, leases, same, call, was, done⟩ := of_decide_eq_true h
  obtain ⟨since, rfl, leads⟩ := leads_of_follow followed
  replace count : s₀.calls.length = 3 := count
  replace leases : s₀.leases = [target, source] := leases
  have gives : s₀.leases[1]? = some source := by simp [leases]
  have takes : (s₀.leases.eraseIdx 1)[0]? = some target := by simp [leases]
  obtain ⟨s', act', -, transferred⟩ := transfer_moves_or_refuses (run_of_play played) gives takes
  cases act.symm.trans act'
  rw [count] at transferred
  exact ⟨past, s₀, s₁, since, s, call, target, source, run_of_play played, leases, same,
    act, leads, was, done, transferred since s call leads was⟩

/-- A transfer between two leases of one pool can leave the target empty although the source holds a
session: if closing the session of the target breaks off. -/
theorem exists_transfer_broken_off :
    ∃ past s₀ s₁ later s call target source, Run (S := Nat) past s₀ ∧ s₀.leases = [target, source] ∧
      target.home = source.home ∧ source.isReleased = false ∧
      s₀.act (.begin (.transfer 0 1)) = some s₁ ∧
      Leads s₁ later s ∧ s.calls[3]? = some call ∧
      call.task = .transfer (.done ⟨target.home, none, target.info⟩ (.panic "gone")) := by
  have h : ((play lendingTwo).any fun r => (r.2.act (.begin (.transfer 0 1))).any fun s₁ =>
      (follow [] s₁ (replacing (.panic "gone") ++ steps 3 7)).any fun r' =>
        decide (∃ target ∈ r.2.leases[0]?, ∃ source ∈ r.2.leases[1]?,
          r.2.leases = [target, source] ∧ target.home = source.home ∧ source.isReleased = false ∧
          ∃ call ∈ r'.2.calls[3]?, call.task =
            .transfer (.done ⟨target.home, none, target.info⟩ (.panic "gone")))) = true := by
    decide +kernel
  obtain ⟨⟨past, s₀⟩, played, h⟩ := (Option.any_eq_true _ _).1 h
  obtain ⟨s₁, act, h⟩ := (Option.any_eq_true _ _).1 h
  obtain ⟨⟨later, s⟩, followed, h⟩ := (Option.any_eq_true _ _).1 h
  obtain ⟨target, -, source, -, leases, same, held, call, was, done⟩ := of_decide_eq_true h
  obtain ⟨since, rfl, leads⟩ := leads_of_follow followed
  exact ⟨past, s₀, s₁, since, s, call, target, source, run_of_play played, leases, same, held,
    act, leads, was, done⟩

end Interleaving

end ConnectionPool
