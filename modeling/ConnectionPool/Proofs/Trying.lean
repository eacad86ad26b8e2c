import ConnectionPool.Proofs.Solitary
import ConnectionPool.Proofs.Timeless

set_option autoImplicit false

/-! # Requests that do not wait, one after the other

Somebody asks one pool for sessions again and again, without waiting, while nobody else does
anything (`Tries`). Each request comes to its end, because every access brings it closer
(`Acquire.rank_lt_of_step`), provided that the source never hands over a session that was delivered
before (`Surroundings.Inventive`). So any number of requests can be made one after the other
(`exists_tries`).

What they are answered can be told from the pool without its stamps (`Tries.agree`). -/

namespace ConnectionPool

/-! ## Coming closer to the end -/

namespace Acquire

variable {S : Type} {a a' : Acquire S} {v : View S} {p p' : Pool S}

/-- How many accesses and answers a request is away from its end at most, unless it has to wait. -/
def rank : Acquire S → Nat
  | readTimeout => 15
  | start _ | wait _ _ => 14
  | checkOpen _ => 13
  | readEpoch _ => 12
  | readCap _ _ => 11
  | choose _ _ _ => 10
  | readSource => 9
  | create _ => 8
  | inspect _ => 7
  | openNew _ => 6
  | enrol _ => 5
  | install _ => 4
  | announceUnused _ | countFailure _ _ => 3
  | closeUnused _ | giveBack _ => 2
  | countReuse _ | countNew _ | countUnused | announceSlot _ => 1
  | done _ => 0

theorem rank_lt_of_step (hasty : a.hasty = true) (did : a.step v p = some (p', a')) :
    a'.rank < a.rank := by
  cases a with
  | create | openNew | closeUnused | done => cases did
  | wait => cases hasty
  | checkOpen | readSource | inspect | install | countFailure =>
    cases did
    split <;> simp [rank]
  | choose patience epoch cap =>
    simp only [step, Option.some.injEq, Prod.mk.injEq] at did
    obtain ⟨-, rfl⟩ := did
    obtain rfl : patience = none := Option.isNone_iff_eq_none.1 hasty
    generalize (p.lend cap v.now).2 = decision
    cases decision <;> simp [follow, rank]
  | _ =>
    cases did
    simp [rank]

theorem rank_lt_of_answer {reply : Interleaving.Reply S} (heard : a.status.answer reply = some a') :
    a'.rank < a.rank := by
  cases a with
  | create =>
    cases reply with
    | created outcome =>
      cases heard
      cases outcome <;> simp [rank]
    | _ => cases heard
  | openNew =>
    cases reply with
    | opened outcome =>
      cases heard
      cases outcome <;> simp [rank]
    | _ => cases heard
  | closeUnused =>
    cases reply with
    | closed outcome =>
      cases heard
      cases outcome with
      | error e => exact e.elim
      | _ => simp [rank]
    | _ => cases heard
  | _ => cases heard

end Acquire

namespace Surroundings

open Interleaving (Contact Reply deliveries deliveries_append)

variable {S : Type} {w : Surroundings S} {a a' : Acquire S} {v : View S} {p p' : Pool S}
  {heard : List (Contact S)} {stock : List S} {reply : Reply S} {contact : Contact S}

/-- No source ever hands over a session that it has handed over before, or one of those in stock. -/
def Inventive (w : Surroundings S) (stock : List S) : Prop :=
  ∀ heard, w.Foretell heard → ∀ source session, w.creates heard source = .value session →
    session ∉ deliveries heard ++ stock

/-- A number past all those in a list. -/
def past : List Nat → Nat
  | [] => 0
  | k :: ks => k + past ks + 1

theorem lt_past {k : Nat} {ks : List Nat} (mem : k ∈ ks) : k < past ks := by
  induction ks with
  | nil => cases mem
  | cons k' ks ih =>
    simp only [past]
    rcases List.mem_cons.1 mem with rfl | mem
    · omega
    · have less := ih mem
      omega

/-- Sources that hand over a greater number than any before. -/
def numbering (stock : List Nat) : Surroundings Nat where
  creates heard _ := .value (past (deliveries heard ++ stock))
  connected _ _ := false
  opens _ _ := .value ()
  closes _ _ := .value ()

theorem inventive_numbering (stock : List Nat) : (numbering stock).Inventive stock := by
  intro heard told source session created mem
  cases created
  exact Nat.lt_irrefl _ (lt_past mem)

theorem Inventive.fresh (inventive : w.Inventive stock) (told : w.Foretell heard)
    (expected : w.reply? heard a = some reply) :
    ∀ session ∈ reply.delivery, session ∉ deliveries heard ++ stock := by
  intro session delivers
  cases a with
  | create source =>
    cases expected
    refine inventive heard told source session ?_
    cases created : w.creates heard source with
    | value x =>
      rw [created] at delivers
      cases delivers
      rfl
    | error | panic =>
      rw [created] at delivers
      cases delivers
  | openNew | closeUnused =>
    cases expected
    cases delivers
  | _ => cases expected

theorem answers_of_reply? (expected : w.reply? heard a = some reply)
    (learned : a.status.contact? reply = some contact) : w.Answers heard contact := by
  cases a with
  | create | openNew | closeUnused =>
    cases expected
    cases learned
    rfl
  | _ => cases expected

/-- Whatever a request finds out by itself was to be expected. -/
theorem foretell_finding? (told : w.Foretell heard)
    (sees : v.connected = w.connected heard) (a : Acquire S) (p : Pool S) :
    w.Foretell ((a.finding? v p).toList ++ heard) := by
  cases a with
  | readSource =>
    simp only [Acquire.finding?]
    split
    · exact ⟨told, trivial⟩
    · exact told
  | inspect session => exact ⟨told, congrFun sees session⟩
  | _ => exact told

/-- A request that does not wait has ended, can take a step, or hears what is to be expected. -/
theorem goes_on (w : Surroundings S) (heard : List (Contact S)) (hasty : a.hasty = true) :
    (∃ outcome, a = .done outcome) ∨ (∀ v p, ∃ p' a', a.step v p = some (p', a')) ∨
      ∃ reply a', w.reply? heard a = some reply ∧ a.status.answer reply = some a' := by
  cases a with
  | wait => cases hasty
  | done outcome => exact .inl ⟨outcome, rfl⟩
  | create | openNew | closeUnused => exact .inr (.inr ⟨_, _, rfl, rfl⟩)
  | _ => exact .inr (.inl fun v p => ⟨_, _, rfl⟩)

end Surroundings

namespace Interleaving

variable {S : Type} {w : Surroundings S} {home : PoolId} {s s' : State S} {p : Pool S}
  {heard : List (Contact S)} {stock : List S} {i n : Nat} {a : Acquire S}

/-- A request that does not wait comes to its end while nobody else does anything. -/
theorem exists_leads_done (inventive : w.Inventive stock) (near : a.rank < n)
    (hasty : a.hasty = true) (was : s.calls[i]? = some ⟨home, false, .acquire a⟩)
    (built : s.pool? home = some p) (told : w.Foretell heard)
    (known : s.delivered = deliveries heard ++ stock) :
    ∃ since s' outcome, Leads s since s' ∧ Solitary i since ∧
      s'.calls[i]? = some ⟨home, false, .acquire (.done outcome)⟩ ∧
      w.Foretell (contacts (moves i since) ++ heard) := by
  induction n generalizing a s p heard with
  | zero => exact (Nat.not_lt_zero _ near).elim
  | succ n ih =>
    rcases w.goes_on heard hasty with ⟨outcome, rfl⟩ | steps | ⟨reply, a', expected, hears⟩
    · exact ⟨[], s, outcome, .here, by simp [Solitary], was, told⟩
    · let v := s.view ⟨home, false, .acquire a⟩ (w.connected heard) false
      obtain ⟨p', a', did⟩ := steps v p
      obtain ⟨-, -, -, -, -, -, hasty'⟩ := Acquire.timeless_step (u := v) hasty did fun _ _ => rfl
      have did' : (Task.acquire a).step v p = some (p', .acquire a') := by simp [Task.step, did]
      obtain ⟨s₁, act, was₁, built₁⟩ := State.exists_act_step was built did'
      have moved : s.move? i (.step i (w.connected heard) false) =
          some (.step v p p' (a.finding? v p)) := by
        simp [State.move?, was, built, did', Task.finding?, v]
      have delivered : s₁.delivered = s.delivered := by
        cases happens_of_act act with
        | step => rfl
      have known₁ : s₁.delivered = deliveries ((a.finding? v p).toList ++ heard) ++ stock := by
        rw [delivered, known, deliveries_append]
        exact congrArg (· ++ deliveries heard ++ stock)
          (Task.deliveries_finding? v p (.acquire a)).symm
      have nearer : a'.rank < n :=
        Nat.lt_of_lt_of_le (Acquire.rank_lt_of_step hasty did) (Nat.le_of_lt_succ near)
      obtain ⟨since, s', outcome, leads, alone, was', told'⟩ :=
        ih nearer hasty' was₁ built₁ (Surroundings.foretell_finding? told rfl a p) known₁
      obtain ⟨leads', alone', all⟩ := leads.after_alone act trivial rfl moved alone
      refine ⟨_, s', outcome, leads', alone', was', ?_⟩
      rw [all, contacts_append, contacts_step, contacts_nil, List.append_nil, List.append_assoc]
      exact told'
    · obtain ⟨contact, learned⟩ := Status.exists_contact hears
      have hears' : (Task.acquire a).answer reply = some (.acquire a') := by
        simp [Task.answer, hears]
      obtain ⟨s₁, act, was₁, built₁⟩ := State.exists_act_answer was built hears'
      have moved : s.move? i (.answer i reply) = some (.hear contact) := by
        simp [State.move?, was, Task.contact?, learned]
      have fresh : (Choice.answer i reply).Fresh s := by
        intro session delivers
        rw [known]
        exact inventive.fresh told expected session delivers
      have known₁ : s₁.delivered = deliveries (contact :: heard) ++ stock := by
        cases happens_of_act act with
        | answer => rw [deliveries_cons, delivery_of_status learned, List.append_assoc, ← known]
      have nearer : a'.rank < n :=
        Nat.lt_of_lt_of_le (Acquire.rank_lt_of_answer hears) (Nat.le_of_lt_succ near)
      have told₁ : w.Foretell (contact :: heard) :=
        ⟨told, Surroundings.answers_of_reply? expected learned⟩
      obtain ⟨since, s', outcome, leads, alone, was', told'⟩ :=
        ih nearer (Acquire.hasty_of_decided (Acquire.decided_of_answer hears)) was₁
          built₁ told₁ known₁
      obtain ⟨leads', alone', all⟩ := leads.after_alone act fresh rfl moved alone
      refine ⟨_, s', outcome, leads', alone', was', ?_⟩
      rw [all, contacts_append, List.append_assoc]
      exact told'

/-! ## One request after the other -/

/-- Somebody asks for sessions without waiting, one after the other, while nobody else does
anything: what was heard, the answers, the latest first, and the state in the end. -/
inductive Tries (w : Surroundings S) (home : PoolId) (s : State S) :
    List (Contact S) → List (Outcome Error (Option (Record S))) → State S → Prop
  | none : Tries w home s [] [] s
  | next {s₁ s' : State S} {heard : List (Contact S)}
      {outcomes : List (Outcome Error (Option (Record S)))} {ms : List (Move S)}
      {outcome : Outcome Error (Option (Record S))} (before : Tries w home s heard outcomes s₁)
      (one : AnsweredAlone s₁ (.tryAcquire home) ms (.acquire (.done outcome)) s')
      (told : w.Foretell (contacts ms ++ heard)) :
      Tries w home s (contacts ms ++ heard) (outcome :: outcomes) s'

/-- Whoever asks without waiting has no need for a lease. -/
theorem AnsweredAlone.enter_tryAcquire {ms : List (Move S)} {t : Task S}
    (one : AnsweredAlone s (.tryAcquire home) ms t s') :
    s.enter (.tryAcquire home) = some (s.leases, ⟨home, false, .acquire .impatient⟩) := by
  obtain ⟨begun, -, -, -, -⟩ := one
  cases happens_of_act begun with
  | begin admitted =>
    simp only [State.enter] at admitted ⊢
    split at admitted
    · next owned => rw [if_pos owned]
    · cases admitted

/-- A request that does not wait can be made whenever the pool has its owner, and comes to its
end. -/
theorem exists_tryAcquire (inventive : w.Inventive stock) (owned : s.owned home = true)
    (told : w.Foretell heard) (known : s.delivered = deliveries heard ++ stock) :
    ∃ ms outcome s', AnsweredAlone s (.tryAcquire home) ms (.acquire (.done outcome)) s' ∧
      w.Foretell (contacts ms ++ heard) := by
  obtain ⟨p, built⟩ := State.exists_pool (State.lt_of_owned owned)
  have begun : s.act (.begin (.tryAcquire home)) =
      some { s with calls := s.calls ++ [⟨home, false, .acquire .impatient⟩] } := by
    simp [State.act, State.enter, owned]
  have was₁ : (s.calls ++ [(⟨home, false, .acquire .impatient⟩ : Call S)])[s.calls.length]? =
      some ⟨home, false, .acquire .impatient⟩ := List.getElem?_concat_length
  have built₁ : (State.mk s.now s.sites s.leases (s.calls ++ [⟨home, false, .acquire .impatient⟩])
      s.delivered).pool? home = some p := built
  obtain ⟨since, s₂, outcome, leads, alone, was, told'⟩ :=
    exists_leads_done inventive (Nat.lt_succ_self _) rfl was₁ built₁ told known
  have finished : s₂.act (.finish s.calls.length) = some { s₂ with
      leases := s₂.leases ++ Call.yields ⟨home, false, .acquire (.done outcome)⟩
      calls := s₂.calls.set s.calls.length ⟨home, false, .returned⟩ } := by
    have ended : (Task.acquire (.done outcome) : Task S).isEnded = true := rfl
    simp [State.act, was, ended]
  exact ⟨_, outcome, _, .intro begun leads alone was finished, told'⟩

/-- The owner keeps the pool meanwhile, and the sessions that were delivered are those that were
heard of. -/
theorem Tries.keeps {outcomes : List (Outcome Error (Option (Record S)))}
    (tries : Tries w home s heard outcomes s') :
    w.Foretell heard ∧ s'.owned home = s.owned home ∧
      s'.delivered = deliveries heard ++ s.delivered := by
  induction tries with
  | none => exact ⟨trivial, rfl, rfl⟩
  | next before one told ih =>
    obtain ⟨-, owned, delivered⟩ := ih
    refine ⟨told, (one.owned home).trans owned, ?_⟩
    rw [one.delivered_eq, delivered, deliveries_append, List.append_assoc]

/-- Any number of requests can be made while the pool has its owner. -/
theorem exists_tries (inventive : w.Inventive s.delivered) (owned : s.owned home = true) (n : Nat) :
    ∃ heard outcomes s', Tries w home s heard outcomes s' ∧ outcomes.length = n := by
  induction n with
  | zero => exact ⟨[], [], s, .none, rfl⟩
  | succ n ih =>
    obtain ⟨heard, outcomes, s₁, tries, rfl⟩ := ih
    obtain ⟨told, same, delivered⟩ := tries.keeps
    obtain ⟨ms, outcome, s', one, told'⟩ :=
      exists_tryAcquire inventive (same.trans owned) told delivered
    exact ⟨_, _, s', tries.next one told', rfl⟩

/-- An answer with the stamps of the session left out. -/
def timelessAnswer (outcome : Outcome Error (Option (Record S))) :
    Outcome Error (Option (Record S)) :=
  outcome.map (Option.map Record.timeless)

/-- Pools that only differ in the stamps of their sessions answer the same requests alike. -/
theorem Tries.agree {t t' : State S} {q : Pool S} {heard' : List (Contact S)}
    {outcomes outcomes' : List (Outcome Error (Option (Record S)))}
    (tries : Tries w home s heard outcomes s')
    (tries' : Tries w home t heard' outcomes' t') (same : outcomes.length = outcomes'.length)
    (built : s.pool? home = some p) (built' : t.pool? home = some q)
    (alike : p.timeless = q.timeless) :
    outcomes.map timelessAnswer = outcomes'.map timelessAnswer ∧ heard = heard' ∧
      ∃ p' q', s'.pool? home = some p' ∧ t'.pool? home = some q' ∧ p'.timeless = q'.timeless := by
  induction tries generalizing heard' outcomes' t' with
  | none =>
    cases tries' with
    | none => exact ⟨rfl, rfl, p, q, built, built', alike⟩
    | next => cases same
  | @next s₁ s' heard outcomes ms outcome before one told ih =>
    cases tries' with
    | none => cases same
    | @next t₁ _ heard' outcomes' ms' outcome' before' one' told' =>
      obtain ⟨answers, rfl, p₁, q₁, built₁, built₁', alike₁⟩ := ih before' (Nat.succ.inj same)
      obtain ⟨-, course, p₂, built₂, chained⟩ := one.course one.enter_tryAcquire built₁
      obtain ⟨-, course', q₂, built₂', chained'⟩ := one'.course one'.enter_tryAcquire built₁'
      obtain ⟨answer, alike₂, heards⟩ :=
        Course.agree rfl course course' chained chained' told told' alike₁
      exact ⟨congrArg₂ List.cons answer answers, heards, p₂, q₂, built₂, built₂', alike₂⟩

end Interleaving

end ConnectionPool
