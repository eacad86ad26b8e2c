import ConnectionPool.Proofs.Conduct

set_option autoImplicit false

/-! # Giving a session back

Whoever gives the session of a lease back reaches for the pool first. If the pool is there, it takes
the session back: the session is idle again, or it is closed, because it is not connected any more
or the pool is closed. Then those who wait are told. If the pool is gone, the session is closed, and
that is all. A lease that holds no session has nothing to give back.

Each phase tells which moves have led to it (`Return.Since`), so there are few ways in which it can
end (`GivenBack`). -/

namespace ConnectionPool

namespace Interleaving

variable {S : Type} {lease : Lease S} {ms : List (Move S)}

/-! ## How sessions are given back -/

/-- The lease holds a session, and its pool is there or not. -/
def Reaches (lease : Lease S) (alive : Bool) (ms : List (Move S)) : Prop :=
  ∃ session v p, lease.session = some session ∧ v.alive = alive ∧ ms = [.step v p p none]

/-- The pool takes the session back, and may hand it over to be closed. -/
def TakesBack (lease : Lease S) (rejected : Option S) (ms : List (Move S)) : Prop :=
  ∃ v p p' ms', ms = .step v p p' none :: ms' ∧
    p.takeBack lease.info.key v.connected v.now = some (p', rejected) ∧ Reaches lease true ms'

/-- The session is not wanted, and the pool is closed by now or not. -/
def Rejects (lease : Lease S) (session : S) (closing : Bool) (ms : List (Move S)) : Prop :=
  ∃ v p ms', ms = .step v p p none :: ms' ∧ p.closed = closing ∧ TakesBack lease (some session) ms'

def Closes (lease : Lease S) (closing : Bool) (ms : List (Move S)) : Prop :=
  ∃ session ms', ms = .hear (.closed session (.value ())) :: ms' ∧ Rejects lease session closing ms'

/-- The session was closed, and is counted. -/
def Counts (lease : Lease S) (ms : List (Move S)) : Prop :=
  ∃ closing v p ms', ms = .step v p (p.count fun t => { t with
      closed := t.closed + 1
      evictions := if closing then t.evictions else t.evictions + 1 }) none :: ms' ∧
    Closes lease closing ms'

/-- How giving back to a pool that is there can end. -/
inductive Released (lease : Lease S) : List (Move S) → Outcome Error Unit → Prop
  /-- The session is idle again, or was closed, and those who wait are told. -/
  | announced {v : View S} {p : Pool S} {ms : List (Move S)}
    (frees : TakesBack lease none ms ∨ Counts lease ms) :
      Released lease (.step v p p.notify none :: ms) (.value ())
  | brokeOff {session : S} {closing : Bool} {text : String} {ms : List (Move S)}
      (rejects : Rejects lease session closing ms) :
      Released lease (.hear (.closed session (.panic text)) :: ms) (.panic text)
  /-- Nobody has been lent the session. -/
  | unknown {v : View S} {p : Pool S} {ms : List (Move S)}
      (absent : p.takeBack lease.info.key v.connected v.now = none)
      (reaches : Reaches lease true ms) :
      Released lease (.step v p p none :: ms) (.error (.notCheckedOut lease.info.key))

/-- How giving back can end. -/
inductive GivenBack (lease : Lease S) : List (Move S) → Outcome Error Unit → Prop
  | spent (none : lease.session = none) : GivenBack lease [] (.value ())
  | home {v : View S} {p : Pool S} {ms : List (Move S)} {outcome : Outcome Error Unit}
      (released : Released lease ms outcome) : GivenBack lease (.step v p p none :: ms) outcome
  /-- The pool is gone, and the session is closed. -/
  | closed {session : S} {ms : List (Move S)} (has : lease.session = some session)
      (reaches : Reaches lease false ms) :
      GivenBack lease (.hear (.closed session (.value ())) :: ms) (.value ())
  | brokeOff {session : S} {text : String} {ms : List (Move S)} (has : lease.session = some session)
      (reaches : Reaches lease false ms) :
      GivenBack lease (.hear (.closed session (.panic text)) :: ms) (.panic text)

end Interleaving

open Interleaving

variable {S : Type} {v : View S} {p p' : Pool S} {lease : Lease S}
  {ms : List (Move S)} {reply : Reply S} {contact : Contact S}

/-! ## From phase to phase -/

/-- What was done to reach a phase. -/
def Release.Since (lease : Lease S) (ms : List (Move S)) : Release S → Prop
  | takeBack key => key = lease.info.key ∧ Reaches lease true ms
  | readClosed session => TakesBack lease (some session) ms
  | close session closing => Rejects lease session closing ms
  | count closing => Closes lease closing ms
  | announce => TakesBack lease none ms ∨ Counts lease ms
  | done outcome => Released lease ms outcome

/-- The number of steps that are left at most. -/
def Release.left : Release S → Nat
  | takeBack _ => 4
  | readClosed _ => 3
  | close _ _ | count _ => 2
  | announce => 1
  | done _ => 0

namespace Release

variable {r r' : Release S}

theorem since_of_step (did : r.step v p = some (p', r')) (since : r.Since lease ms) :
    r'.Since lease (.step v p p' none :: ms) ∧ r'.left < r.left := by
  cases r with
  | takeBack key =>
    obtain ⟨rfl, reaches⟩ := since
    simp only [step] at did
    split at did
    · next absent =>
      cases did
      exact ⟨.unknown absent reaches, by simp [left]⟩
    · next taken =>
      cases did
      exact ⟨.inl ⟨v, p, p', ms, rfl, taken, reaches⟩, by simp [left]⟩
    · next taken =>
      cases did
      exact ⟨⟨v, p, p', ms, rfl, taken, reaches⟩, by simp [left]⟩
  | readClosed session =>
    cases did
    exact ⟨⟨v, p, ms, rfl, rfl, since⟩, by simp [left]⟩
  | count closing =>
    cases did
    exact ⟨.inr ⟨closing, v, p, ms, rfl, since⟩, by simp [left]⟩
  | announce =>
    cases did
    exact ⟨.announced since, by simp [left]⟩
  | close | done => cases did

theorem since_of_answer (did : r.status.answer reply = some r')
    (learned : r.status.contact? reply = some contact) (since : r.Since lease ms) :
    r'.Since lease (.hear contact :: ms) ∧ r'.left ≤ r.left := by
  cases r with
  | close session closing =>
    cases reply <;> cases did
    rename_i outcome
    cases learned
    cases outcome with
    | value _ => exact ⟨⟨session, ms, rfl, since⟩, by simp [left]⟩
    | error e => exact e.elim
    | panic text => exact ⟨.brokeOff since, by simp [left]⟩
  | _ => cases did

theorem prompt (r : Release S) :
    (∃ outcome, r = done outcome) ∨ (∃ reply r', r.status.answer reply = some r') ∨ ∀ v p, ∃ p' r',
      r.step v p = some (p', r') := by
  cases r with
  | done outcome => exact .inl ⟨outcome, rfl⟩
  | close => exact .inr (.inl ⟨.closed (.panic ""), _, rfl⟩)
  | takeBack key =>
    refine .inr (.inr fun v p => ?_)
    simp only [step]
    split <;> exact ⟨_, _, rfl⟩
  | _ => exact .inr (.inr fun v p => ⟨_, _, rfl⟩)

end Release

namespace Return

variable {r r' : Return S}

def Since (lease : Lease S) (ms : List (Move S)) : Return S → Prop
  | reach session key => lease.session = some session ∧ key = lease.info.key ∧ ms = []
  | release r => r.Since lease ms
  | close session => lease.session = some session ∧ Reaches lease false ms
  | done outcome => GivenBack lease ms outcome

def left : Return S → Nat
  | reach _ _ => 6
  | release r => r.left + 1
  | close _ | done _ => 0

theorem since_of_step (did : r.step v p = some (p', r')) (since : r.Since lease ms) :
    r'.Since lease (.step v p p' none :: ms) ∧ r'.left < r.left := by
  cases r with
  | reach session key =>
    obtain ⟨has, rfl, rfl⟩ := since
    simp only [step, Option.some.injEq, Prod.mk.injEq] at did
    obtain ⟨rfl, rfl⟩ := did
    cases alive : v.alive with
    | true => exact ⟨⟨rfl, session, v, p, has, alive, rfl⟩, by simp [left, Release.left]⟩
    | false => exact ⟨⟨has, session, v, p, has, alive, rfl⟩, by simp [left]⟩
  | release r =>
    rcases release_of_step did with ⟨outcome, rfl, rfl, rfl⟩ | ⟨u, did', rfl⟩
    · exact ⟨.home since, by simp [left]⟩
    · obtain ⟨since', less⟩ := Release.since_of_step did' since
      exact ⟨since', Nat.succ_lt_succ less⟩
  | close | done => cases did

theorem since_of_answer (did : r.status.answer reply = some r')
    (learned : r.status.contact? reply = some contact) (since : r.Since lease ms) :
    r'.Since lease (.hear contact :: ms) ∧ r'.left ≤ r.left := by
  cases r with
  | release r =>
    obtain ⟨u, did', rfl⟩ := Status.answer_embed did
    rw [status, Status.contact?_embed] at learned
    obtain ⟨since', less⟩ := Release.since_of_answer did' learned since
    exact ⟨since', Nat.succ_le_succ less⟩
  | close session =>
    cases reply <;> cases did
    rename_i outcome
    cases learned
    obtain ⟨has, reaches⟩ := since
    cases outcome with
    | value _ => exact ⟨.closed has reaches, Nat.le_refl _⟩
    | error e => exact e.elim
    | panic text => exact ⟨.brokeOff has reaches, Nat.le_refl _⟩
  | _ => cases did

/-- Whoever gives a session back never waits for anybody but the session. -/
theorem prompt (r : Return S) :
    (∃ outcome, r = done outcome) ∨ (∃ reply r', r.status.answer reply = some r') ∨ ∀ v p, ∃ p' r',
      r.step v p = some (p', r') := by
  cases r with
  | done outcome => exact .inl ⟨outcome, rfl⟩
  | close => exact .inr (.inl ⟨.closed (.panic ""), _, rfl⟩)
  | reach session key => exact .inr (.inr fun v p => ⟨_, _, rfl⟩)
  | release r =>
    rcases r.prompt with ⟨outcome, rfl⟩ | ⟨reply, r', hears⟩ | steps
    · exact .inr (.inr fun v p => ⟨_, _, rfl⟩)
    · refine .inr (.inl ⟨reply, release r', ?_⟩)
      rw [status, Status.embed_answer, hears]
      rfl
    · refine .inr (.inr fun v p => ?_)
      obtain ⟨p', r', did⟩ := steps v p
      cases r with
      | done => cases did
      | _ => exact ⟨p', release r', by simp [step, did]⟩

end Return

namespace Interleaving

/-! ## Calls -/

/-- What was done to give the session of a lease back. -/
def Task.Gives (lease : Lease S) (ms : List (Move S)) : Task S → Prop
  | .giveBack _ r => r.Since lease ms ∧ r.left + (effects ms).length ≤ 6
  | .returned => (∃ outcome, GivenBack lease ms outcome) ∧ (effects ms).length ≤ 6
  | _ => False

/-- Nobody takes more than six steps to give a session back. -/
theorem Course.gives {kept : Option (Lease S)} {t : Task S}
    (course : Course (.giveBack kept lease.giveBack.2) ms t) : t.Gives lease ms := by
  induction course with
  | here =>
    show (lease.giveBack.2).Since lease [] ∧ _
    cases has : lease.session with
    | none =>
      simp only [Lease.giveBack, has]
      exact ⟨.spent has, by simp [Return.left]⟩
    | some session =>
      simp only [Lease.giveBack, has]
      exact ⟨⟨has, rfl, rfl⟩, by simp [Return.left]⟩
  | @step ms t t' v p p' course did ih =>
    cases t with
    | giveBack kept r =>
      obtain ⟨r', did', rfl⟩ := exists_of_map_step did
      obtain ⟨since', less⟩ := Return.since_of_step did' ih.1
      refine ⟨since', ?_⟩
      have few := ih.2
      rw [effects_step, List.length_cons]
      omega
    | returned => cases did
    | _ => exact ih.elim
  | @hear ms t t' reply contact course did learned ih =>
    cases t with
    | giveBack kept r =>
      obtain ⟨r', did', rfl⟩ := Option.map_eq_some_iff.1 did
      obtain ⟨since', less⟩ := Return.since_of_answer did' learned ih.1
      refine ⟨since', ?_⟩
      have few := ih.2
      rw [effects_hear]
      omega
    | returned => cases did
    | _ => exact ih.elim
  | @ends ms t course ended ih =>
    cases Task.ended_of_isEnded ended with
    | giveBack kept outcome => exact ⟨⟨outcome, ih.1⟩, by have := ih.2; omega⟩
    | _ => exact ih.elim

end Interleaving

end ConnectionPool
