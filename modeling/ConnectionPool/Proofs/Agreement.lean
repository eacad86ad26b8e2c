import ConnectionPool.Proofs.Conduct

set_option autoImplicit false

/-! # Ready to wait or not

Two acquirers at the same pool in the same state of affairs, of which one is ready to wait and the
other one is not, take the same steps until their request is decided, and differ in what they
remember of the time alone (`Acquire.Beside`). If the request is met, or refused, they cannot be
told apart any more: the same choices lead to the very same state. If it is neither, one of them is
answered with nothing and the other one waits; with no time to wait it goes on at once, counts the
failure and gives up. -/

namespace ConnectionPool

/-! ## Side by side -/

namespace Acquire

variable {S : Type} {v : View S} {p p' : Pool S} {a a' b : Acquire S} {reply : Interleaving.Reply S}

/-- Whether the request was decided, and not put off. -/
def decided : Acquire S → Bool
  | readTimeout | start _ | checkOpen _ | readEpoch _ | readCap _ _ | choose _ _ _ | wait _ _
  | done (.value none) => false
  | _ => true

theorem decided_of_step (did : a.step v p = some (p', a')) (h : a.decided = true) :
    a'.decided = true := by
  cases a with
  | readTimeout | start | checkOpen | readEpoch | readCap | choose | wait => cases h
  | create | openNew | closeUnused | done => cases did
  | readSource | inspect | install | countFailure =>
    cases did
    split <;> rfl
  | announceSlot failure =>
    cases did
    cases failure with
    | value e => exact e.elim
    | _ => rfl
  | _ =>
    cases did
    rfl

theorem decided_of_answer (heard : a.status.answer reply = some a') : a'.decided = true := by
  cases a with
  | create =>
    cases reply with
    | created outcome =>
      cases heard
      cases outcome <;> rfl
    | _ => cases heard
  | openNew =>
    cases reply with
    | opened outcome =>
      cases heard
      cases outcome <;> rfl
    | _ => cases heard
  | closeUnused =>
    cases reply with
    | closed outcome =>
      cases heard
      cases outcome with
      | error e => exact e.elim
      | _ => rfl
    | _ => cases heard
  | _ => cases heard

/-- How far an acquirer that is ready to wait has come when another one that is not ready to has
come so far, both taking the same steps. It has read the clock at some time in the past, and an
epoch that may be the current one. -/
inductive Beside (limit : Duration) (now : Instant)
    (current : UInt64 → Prop) : Acquire S → Acquire S → Prop
  | start : Beside limit now current (start none) (start (some limit))
  | checkOpen {t : Instant} (began : t ≤ now) :
      Beside limit now current (checkOpen none) (checkOpen (some ⟨limit, t.after? limit⟩))
  | readEpoch {t : Instant} (began : t ≤ now) :
      Beside limit now current (readEpoch none) (readEpoch (some ⟨limit, t.after? limit⟩))
  | readCap {t : Instant} {epoch : UInt64} (began : t ≤ now) (read : current epoch) :
      Beside limit now current (readCap none epoch) (readCap (some ⟨limit, t.after? limit⟩) epoch)
  | choose {t : Instant} {epoch : UInt64} {cap : UInt32} (began : t ≤ now) (read : current epoch) :
      Beside limit now current (choose none epoch cap)
        (choose (some ⟨limit, t.after? limit⟩) epoch cap)
  | putOff {t : Instant} {epoch : UInt64} (began : t ≤ now) (read : current epoch) :
      Beside limit now current (done (.value none)) (wait ⟨limit, t.after? limit⟩ epoch)
  | decided {a : Acquire S} (decided : a.decided = true) : Beside limit now current a a

namespace Beside

variable {limit : Duration} {now now' : Instant} {current current' : UInt64 → Prop} {quiet : Prop}

theorem mono (h : Beside limit now current a b) (le : now ≤ now')
    (still : ∀ epoch, current epoch → current' epoch) : Beside limit now' current' a b := by
  have later {t : Instant} (began : t ≤ now) : t ≤ now' := Int.le_trans began le
  cases h with
  | start => exact .start
  | checkOpen began => exact .checkOpen (later began)
  | readEpoch began => exact .readEpoch (later began)
  | readCap began read => exact .readCap (later began) (still _ read)
  | choose began read => exact .choose (later began) (still _ read)
  | putOff began read => exact .putOff (later began) (still _ read)
  | decided decided => exact .decided decided

/-- Both take the same step. -/
theorem step (h : Beside limit v.now (fun epoch => quiet → epoch = p.epoch) a b)
    (did : a.step v p = some (p', a')) :
    ∃ b', b.step v p = some (p', b') ∧ b.finding? v p = a.finding? v p ∧
      Beside limit v.now (fun epoch => quiet → epoch = p'.epoch) a' b' := by
  cases h with
  | start =>
    cases did
    exact ⟨_, rfl, rfl, .checkOpen (Int.le_refl _)⟩
  | checkOpen began =>
    cases did
    refine ⟨_, rfl, rfl, ?_⟩
    split
    · exact .decided rfl
    · exact .readEpoch began
  | readEpoch began =>
    cases did
    exact ⟨_, rfl, rfl, .readCap began fun _ => rfl⟩
  | readCap began read =>
    cases did
    exact ⟨_, rfl, rfl, .choose began read⟩
  | @choose t epoch cap began read =>
    simp only [Acquire.step] at did
    cases decision : p.lend cap v.now with
    | mk q answer =>
      rw [decision] at did
      cases did
      refine ⟨follow (some ⟨limit, t.after? limit⟩) epoch answer,
        by simp only [Acquire.step, decision], rfl, ?_⟩
      cases answer with
      | reuse loan => exact .decided rfl
      | reserve => exact .decided rfl
      | full =>
        obtain rfl := Pool.eq_of_lend_full decision
        exact .putOff began read
  | putOff => cases did
  | decided decided => exact ⟨a', did, rfl, .decided (decided_of_step did decided)⟩

/-- Only who has a slot hears anything, and hears it in either case. -/
theorem answer (h : Beside limit now current a b) (heard : a.status.answer reply = some a') :
    b = a := by
  cases h with
  | decided => rfl
  | _ => cases heard

end Beside

end Acquire

namespace Interleaving

variable {S : Type} {home : PoolId} {since : List (State S × Choice S)}
  {s₀ s₁ s₁' s s' : State S} {c : Choice S} {i : Nat} {call call' : Call S} {p p' : Pool S}

/-! ## The state with one call in another phase -/

/-- The state with another call in the place of one. -/
def State.recast (s : State S) (i : Nat) (call : Call S) : State S :=
  { s with calls := s.calls.set i call }

theorem State.recast_self (was : s.calls[i]? = some call) : s.recast i call = s := by
  obtain ⟨lt, rfl⟩ := List.getElem?_eq_some_iff.1 was
  rw [recast, List.set_getElem_self]

theorem State.act_step {connected : S → Bool} {contended : Bool} {site : Site S} {t' : Task S}
    (was : s.calls[i]? = some call) (found : s.sites[call.home]? = some site)
    (did : call.task.step (s.view call connected contended) site.pool = some (p', t')) :
    s.act (.step i connected contended) = some (s.put i call site p' t') := by
  simp [State.act, State.advance, was, found, did]

section

variable (was : s.calls[i]? = some call) (at_ : call'.home = call.home)
  (keeps : call'.task.keeps = call.task.keeps) (borrows : call'.task.borrows = call.task.borrows)
include was at_

theorem any_set {f : Call S → Bool} (same : f call' = f call) :
    (s.calls.set i call').any f = s.calls.any f := by
  obtain ⟨lt, rfl⟩ := List.getElem?_eq_some_iff.1 was
  have images : (s.calls.set i call').map f = s.calls.map f := by
    rw [List.map_set, same, ← List.getElem_map f (h := by simpa using lt), List.set_getElem_self]
  have each (l : List (Call S)) : l.any f = (l.map f).any id := by
    rw [List.any_map, Function.id_comp]
  rw [each, images, ← each]

include keeps in
theorem State.alive_recast : (s.recast i call').alive home = s.alive home := by
  have others := any_set was at_ (f := fun c => c.home == home && c.task.keeps) (by rw [at_, keeps])
  exact congrArg (s.owned home || ·) others

include borrows in
theorem State.borrowed_recast : (s.recast i call').borrowed home = s.borrowed home :=
  any_set was at_ (by rw [at_, borrows])

include keeps in
theorem State.enter_recast (request : Request) :
    (s.recast i call').enter request = s.enter request := by
  cases request with
  | cycle =>
    simp only [enter, State.alive_recast was at_ keeps]
    rfl
  | _ => rfl

include keeps borrows in
/-- The others cannot tell which phase the call is in. -/
theorem State.act_recast (other : c.caller? ≠ some i) (act : s.act c = some s') :
    (s.recast i call').act c = some (s'.recast i call') := by
  have lt : i < s.calls.length := (List.getElem?_eq_some_iff.1 was).1
  cases c with
  | pass d =>
    cases act
    rfl
  | build builder =>
    cases happens_of_act act with
    | build built =>
      simp only [State.act, State.recast, built]
      rw [List.set_append_left _ _ lt]
  | adjust at_ change =>
    obtain ⟨site, found, act⟩ := Option.bind_eq_some_iff.1 act
    split at act
    · next owned =>
      cases act
      simp [State.act, State.recast, found, owned]
    · cases act
  | begin request =>
    obtain ⟨⟨leases, new⟩, enter, act⟩ := Option.bind_eq_some_iff.1 act
    cases act
    simp only [State.act, State.enter_recast was at_ keeps, enter]
    simp [State.recast, List.set_append_left _ _ lt]
  | drop home byWorker =>
    cases happens_of_act act with
    | drop found owned free =>
      simp only [State.act, State.borrowed_recast was at_ borrows]
      simp [State.recast, found, owned, free, List.set_append_left _ _ lt]
  | step j connected contended =>
    have ne : j ≠ i := fun same => other (congrArg some same)
    cases happens_of_act act with
    | @step _ _ _ mover site p' t' moving found did =>
      have moving' : (s.recast i call').calls[j]? = some mover := by
        rw [State.recast, List.getElem?_set_ne (Ne.symm ne), moving]
      have view : (s.recast i call').view mover connected contended =
          s.view mover connected contended := by
        simp only [State.view, State.alive_recast was at_ keeps]
        rfl
      rw [State.act_step moving' found (view ▸ did)]
      simp only [State.recast, State.put, List.set_comm _ _ ne]
  | answer j reply =>
    have ne : j ≠ i := fun same => other (congrArg some same)
    cases happens_of_act act with
    | @answer _ _ hearer site t' hearing found did =>
      have hearing' : (s.recast i call').calls[j]? = some hearer := by
        rw [State.recast, List.getElem?_set_ne (Ne.symm ne), hearing]
      simp only [State.act, State.advance, hearing']
      simp [State.recast, State.put, found, did, List.set_comm _ _ ne]
  | finish j =>
    have ne : j ≠ i := fun same => other (congrArg some same)
    cases happens_of_act act with
    | @finish _ ender ending ended =>
      have ending' : (s.recast i call').calls[j]? = some ender := by
        rw [State.recast, List.getElem?_set_ne (Ne.symm ne), ending]
      simp only [State.act, ending']
      simp [State.recast, ended, List.set_comm _ _ ne]

end

/-! ## The same choices from two beginnings -/

/-- The same choices have led an acquirer that is ready to wait to where it stands beside one that
is not. -/
structure Abreast (home : PoolId) (limit : Duration) (i : Nat) (s₁' : State S)
    (since : List (State S × Choice S)) (s : State S) (p : Pool S) (a b : Acquire S) : Prop where
  beside : a.Beside limit s.now (fun epoch => LeftAlone home i since → epoch = p.epoch) b
  leads : ∃ since', Leads s₁' since' (s.recast i ⟨home, false, .acquire b⟩) ∧
    since'.map (·.2) = since.map (·.2) ∧ contacts (moves i since') = contacts (moves i since)

/-- Nobody else has changed the pool before a choice either. -/
theorem LeftAlone.of_cons (h : LeftAlone home i ((s, c) :: since)) : LeftAlone home i since :=
  fun e he => h e (List.mem_cons_of_mem _ he)

theorem LeftAlone.pool?_eq (h : LeftAlone home i ((s, c) :: since)) (other : c.caller? ≠ some i)
    (act : s.act c = some s') : s'.pool? home = s.pool? home := by
  have same := h _ List.mem_cons_self other
  rwa [act] at same

theorem Choice.Fresh.recast (fresh : c.Fresh s) (i : Nat) (call : Call S) :
    c.Fresh (s.recast i call) := by
  cases c <;> exact fresh

/-- Whoever may ask without waiting may ask ready to wait, and is where the other one would be. -/
theorem abreast_of_begun (begun : s₀.act (.begin (.tryAcquire home)) = some s₁) (limit : Duration) :
    s₁.calls[s₀.calls.length]? = some ⟨home, false, .acquire .impatient⟩ ∧
      ∃ s₁' p, s₀.act (.begin (.acquireWithin home limit)) = some s₁' ∧ s₁.pool? home = some p ∧
        Abreast home limit s₀.calls.length s₁' [] s₁ p .impatient (.within limit) := by
  cases happens_of_act begun with
  | begin admitted =>
    simp only [State.enter] at admitted
    split at admitted <;> cases admitted
    next owned =>
      obtain ⟨p, built⟩ := State.exists_pool (State.lt_of_owned owned)
      refine ⟨List.getElem?_concat_length,
        { s₀ with calls := s₀.calls ++ [⟨home, false, .acquire (.within limit)⟩] }, p,
        by simp [State.act, State.enter, owned], built, .start, [], ?_, rfl, rfl⟩
      simp only [State.recast, List.set_append_right _ _ (Nat.le_refl _), Nat.sub_self,
        List.set_cons_zero]
      exact .here

namespace Abreast

variable {limit : Duration} {a a' b : Acquire S}

/-- The other one takes the same step. -/
theorem step {connected : S → Bool} {contended : Bool} {site : Site S}
    (h : Abreast home limit i s₁' since s site.pool a b)
    (was : s.calls[i]? = some ⟨home, false, .acquire a⟩)
    (found : s.sites[home]? = some site)
    (did : a.step (s.view ⟨home, false, .acquire a⟩ connected contended) site.pool =
      some (p', a')) :
    ∃ b', Abreast home limit i s₁' ((s, .step i connected contended) :: since)
      (s.put i ⟨home, false, .acquire a⟩ site p' (.acquire a')) p' a' b' := by
  obtain ⟨beside, since', leads, same, learned⟩ := h
  obtain ⟨b', did', finding, beside'⟩ := Acquire.Beside.step beside did
  have view :
      (s.recast i ⟨home, false, .acquire b⟩).view ⟨home, false, .acquire b⟩ connected contended =
        s.view ⟨home, false, .acquire a⟩ connected contended := by
    have alive : (s.recast i ⟨home, false, .acquire b⟩).alive home = s.alive home :=
      State.alive_recast was rfl rfl
    simp only [State.view, alive]
    rfl
  have lt := (List.getElem?_eq_some_iff.1 was).1
  have was' : (s.recast i ⟨home, false, .acquire b⟩).calls[i]? = some ⟨home, false, .acquire b⟩ :=
    List.getElem?_set_self lt
  have built' : (s.recast i ⟨home, false, .acquire b⟩).pool? home = some site.pool :=
    State.pool?_of_site found
  have task :
      (Task.acquire b).step (s.view ⟨home, false, .acquire a⟩ connected contended) site.pool =
        some (p', .acquire b') := by
    simp [Task.step, did']
  have task₀ :
      (Task.acquire a).step (s.view ⟨home, false, .acquire a⟩ connected contended) site.pool =
        some (p', .acquire a') := by
    simp [Task.step, did]
  have act : (s.recast i ⟨home, false, .acquire b⟩).act (.step i connected contended) =
      some ((s.put i ⟨home, false, .acquire a⟩ site p' (.acquire a')).recast i
        ⟨home, false, .acquire b'⟩) := by
    rw [State.act_step was' found (view ▸ task)]
    simp only [State.recast, State.put, List.set_set]
  refine ⟨b', beside'.mono (Int.le_refl _) fun epoch read alone => read alone.of_cons,
    (s.recast i ⟨home, false, .acquire b⟩, .step i connected contended) :: since',
    .next leads trivial act, ?_, ?_⟩
  · rw [List.map_cons, List.map_cons, same]
  · rw [moves_of_step was' built' (view ▸ task),
      moves_of_step was (State.pool?_of_site found) task₀, contacts_step,
      contacts_step, learned, view]
    exact congrArg (·.toList ++ _) finding

/-- Who hears something is the same in either case. -/
theorem answer {reply : Reply S} (h : Abreast home limit i s₁' since s p a b)
    (was : s.calls[i]? = some ⟨home, false, .acquire a⟩) (fresh : (Choice.answer i reply).Fresh s)
    (act : s.act (.answer i reply) = some s') (is : s'.calls[i]? = some ⟨home, false, .acquire a'⟩)
    (heard : a.status.answer reply = some a') :
    Abreast home limit i s₁' ((s, .answer i reply) :: since) s' p a' a' := by
  obtain ⟨beside, since', leads, same, learned⟩ := h
  obtain rfl := beside.answer heard
  rw [State.recast_self was] at leads
  refine ⟨.decided (Acquire.decided_of_answer heard), (s, .answer i reply) :: since', ?_, ?_, ?_⟩
  · rw [State.recast_self is]
    exact .next leads fresh act
  · rw [List.map_cons, List.map_cons, same]
  · obtain ⟨contact, hears⟩ := Status.exists_contact heard
    rw [moves_of_answer was hears, moves_of_answer was hears, contacts_hear, contacts_hear, learned]

/-- What others do makes no difference. -/
theorem elsewhere (h : Abreast home limit i s₁' since s p a b)
    (was : s.calls[i]? = some ⟨home, false, .acquire a⟩) (built : s.pool? home = some p)
    (fresh : c.Fresh s)
    (act : s.act c = some s') (other : c.caller? ≠ some i) (built' : s'.pool? home = some p') :
    Abreast home limit i s₁' ((s, c) :: since) s' p' a b := by
  obtain ⟨beside, since', leads, same, learned⟩ := h
  refine ⟨beside.mono (now_le_of_act act) fun epoch read alone => ?_,
    (s.recast i ⟨home, false, .acquire b⟩, c) :: since',
    .next leads (fresh.recast i _) (State.act_recast was rfl rfl rfl other act), ?_, ?_⟩
  · have unchanged := alone.pool?_eq other act
    rw [built, built'] at unchanged
    cases unchanged
    exact read alone.of_cons
  · rw [List.map_cons, List.map_cons, same]
  · rw [moves_of_caller_ne other, moves_of_caller_ne other, learned]

end Abreast

/-- Whatever happens meanwhile, the two stay abreast until the one is answered. -/
theorem Leads.abreast {limit : Duration} (begun : s₀.act (.begin (.tryAcquire home)) = some s₁)
    (begun' : s₀.act (.begin (.acquireWithin home limit)) = some s₁')
    (leads : Leads s₁ since s) {a : Acquire S}
    (was : s.calls[s₀.calls.length]? = some call) (task : call.task = .acquire a) :
    call = ⟨home, false, .acquire a⟩ ∧ ∃ p b, s.pool? home = some p ∧
      Abreast home limit s₀.calls.length s₁' since s p a b := by
  obtain ⟨first, s₁'', p₁, begun'', built₁, abreast₁⟩ := abreast_of_begun begun limit
  cases begun'.symm.trans begun''
  induction leads generalizing call a with
  | here =>
    cases first.symm.trans was
    cases task
    exact ⟨rfl, p₁, _, built₁, abreast₁⟩
  | @next since s s' c leads fresh act ih =>
    by_cases mine : c.caller? = some s₀.calls.length
    · cases happens_of_act act with
      | @step j connected contended before site p' t' atWork found did =>
        cases mine
        have lt := (List.getElem?_eq_some_iff.1 atWork).1
        rw [State.put, List.getElem?_set_self lt] at was
        cases was
        obtain rfl : t' = .acquire a := task
        obtain ⟨a₀, task₀, did'⟩ := Task.acquire_of_step did
        obtain ⟨rfl, p, b, built, abreast⟩ := ih atWork task₀
        cases built.symm.trans (State.pool?_of_site found)
        obtain ⟨b', abreast'⟩ := abreast.step atWork found did'
        exact ⟨rfl, p', b', (State.pool?_put found home).trans (if_pos rfl), abreast'⟩
      | @answer j reply before site t' atWork found did =>
        cases mine
        have lt := (List.getElem?_eq_some_iff.1 atWork).1
        have is := was
        rw [State.put, List.getElem?_set_self lt] at was
        cases was
        obtain rfl : t' = .acquire a := task
        obtain ⟨a₀, task₀, heard⟩ := Task.acquire_of_answer did
        obtain ⟨rfl, p, b, built, abreast⟩ := ih atWork task₀
        cases built.symm.trans (State.pool?_of_site found)
        refine ⟨rfl, site.pool, a, ?_, abreast.answer atWork fresh act is heard⟩
        exact (State.pool?_of_set_same found rfl).trans built
      | @finish j before atWork ended =>
        cases mine
        have lt := (List.getElem?_eq_some_iff.1 atWork).1
        rw [List.getElem?_set_self lt] at was
        cases was
        cases task
      | pass | build | adjust | begin | drop => cases mine
    · rcases same_of_caller_ne act mine was with before | new
      · obtain ⟨rfl, p, b, built, abreast⟩ := ih before task
        obtain ⟨p', built', -⟩ := alters_of_act act built
        exact ⟨rfl, p', b, built', abreast.elsewhere before built fresh act mine built'⟩
      · obtain ⟨old, before⟩ := leads.exists_call first
        cases new.symm.trans before

/-! ## Main result -/

/-- What comes of a request for a session when whoever makes it is ready to wait, and the same
request without waiting was answered with the outcome. -/
structure Agrees (home : PoolId) (limit : Duration) (i : Nat) (s₁' : State S)
    (since : List (State S × Choice S)) (s : State S)
    (outcome : Outcome Error (Option (Record S))) : Prop where
  /-- If that was a session, an error or a panic, the same choices lead to the same state: every
  pool, every call with its answer, and every lease. Sources and sessions were asked the same. -/
  same : outcome ≠ .value none → ∃ since', Leads s₁' since' s ∧ since'.map (·.2) = since.map (·.2) ∧
    contacts (moves i since') = contacts (moves i since)
  /-- If it was nothing, there is no time to wait, and nobody else has changed the pool, the
  acquirer takes two more steps and ends with an error, and one more failure is counted. -/
  timedOut : outcome = .value none → limit = .zero → LeftAlone home i since →
    s.now.nanos < Instant.horizon →
    ∀ (connected connected' : S → Bool) (contended contended' : Bool), ∃ site since',
      s.sites[home]? = some site ∧
      Leads s₁' since' (s.put i ⟨home, false, .acquire (.done outcome)⟩ site
        (site.pool.count fun t => { t with checkoutFailures := t.checkoutFailures + 1 })
        (.acquire (.done (.error (.timedOut limit))))) ∧
      since'.map (·.2) = .step i connected' contended' ::
        .step i connected contended :: since.map (·.2) ∧
      contacts (moves i since') = contacts (moves i since)

/-- An acquirer without time waits for nobody but the clock, which shows its deadline already. -/
theorem Acquire.step_wait_of_zero {v : View S} {t : Instant} (began : t ≤ v.now)
    (shown : v.now.nanos < Instant.horizon) :
    (Acquire.wait ⟨.zero, t.after? .zero⟩ p.epoch).step v p =
      some (p, .countFailure (.timedOut .zero) false) := by
  have same : t.after .zero = t := by simp [Instant.after, Duration.zero]
  have deadline : t.after? .zero = some t := by
    rw [Instant.after?, same, if_pos (Int.lt_of_le_of_lt began shown)]
  have due : t.nanos ≤ v.now.nanos := began
  simp [Acquire.step, deadline, due]

/-- It counts the failure and gives up. -/
theorem State.gives_up {t : Instant} {site : Site S} (connected connected' : S → Bool)
    (contended contended' : Bool) (was : s.calls[i]? = some call)
    (found : s.sites[call.home]? = some site)
    (waits : call.task = .acquire (.wait ⟨.zero, t.after? .zero⟩ site.pool.epoch))
    (began : t ≤ s.now) (shown : s.now.nanos < Instant.horizon) :
    ∃ s₁, s.act (.step i connected contended) = some s₁ ∧
      s₁.act (.step i connected' contended') = some (s.put i call site
        (site.pool.count fun t => { t with checkoutFailures := t.checkoutFailures + 1 })
        (.acquire (.done (.error (.timedOut .zero))))) ∧
      ∀ past, contacts (moves i
        ((s₁, .step i connected' contended') :: (s, .step i connected contended) :: past)) =
          contacts (moves i past) := by
  have lt := (List.getElem?_eq_some_iff.1 was).1
  have lt' := (List.getElem?_eq_some_iff.1 found).1
  have did : call.task.step (s.view call connected contended) site.pool =
      some (site.pool, .acquire (.countFailure (.timedOut .zero) false)) := by
    rw [waits, Task.step, Acquire.step_wait_of_zero began shown]
    rfl
  have first := State.act_step was found did
  have was₁ := List.getElem?_set_self
    (a := { call with task := .acquire (.countFailure (.timedOut .zero) false) }) lt
  have found₁ := List.getElem?_set_self (a := { site with pool := site.pool }) lt'
  refine ⟨_, first, ?_, fun past => ?_⟩
  · rw [State.act_step was₁ found₁ rfl]
    simp only [State.put, List.set_set]
    rfl
  · rw [moves_of_step was₁ (State.pool?_of_site found₁) rfl,
      moves_of_step was (State.pool?_of_site found) did, waits]
    rfl

/-- Whether an acquirer is ready to wait makes no difference to its answer, nor to anything else, in
any state of any pools and whatever happens meanwhile, unless it is answered with nothing for want
of time. -/
theorem acquirers_agree {outcome : Outcome Error (Option (Record S))}
    (begun : s₀.act (.begin (.tryAcquire home)) = some s₁) (leads : Leads s₁ since s)
    (was : s.calls[s₀.calls.length]? = some call) (task : call.task = .acquire (.done outcome))
    (limit : Duration) :
    ∃ s₁', s₀.act (.begin (.acquireWithin home limit)) = some s₁' ∧
      Agrees home limit s₀.calls.length s₁' since s outcome := by
  obtain ⟨-, s₁', -, begun', -⟩ := abreast_of_begun begun limit
  obtain ⟨rfl, p, b, built, beside, since', leads', same, learned⟩ :=
    leads.abreast begun begun' was task
  refine ⟨s₁', begun', fun answered => ?_, ?_⟩
  · cases beside with
    | putOff => exact absurd rfl answered
    | decided =>
      rw [State.recast_self was] at leads'
      exact ⟨since', leads', same, learned⟩
  · rintro rfl rfl alone shown connected connected' contended contended'
    cases beside with
    | decided decided => cases decided
    | @putOff t epoch began read =>
      obtain rfl := read alone
      obtain ⟨site, found, rfl⟩ := Option.map_eq_some_iff.1 built
      have lt := (List.getElem?_eq_some_iff.1 was).1
      have waits := List.getElem?_set_self
        (a := ⟨home, false, .acquire (.wait ⟨.zero, t.after? .zero⟩ site.pool.epoch)⟩) lt
      obtain ⟨r, first, second, quiet⟩ :=
        State.gives_up (s := s.recast s₀.calls.length _) connected connected' contended contended'
          waits found rfl began shown
      refine ⟨site, (r, .step s₀.calls.length connected' contended') ::
        (_, .step _ connected contended) :: since', found,
        .next (.next leads' trivial first) trivial ?_, ?_, ?_⟩
      · rw [second]
        simp only [State.recast, State.put, List.set_set]
      · rw [List.map_cons, List.map_cons, same]
      · rw [quiet, learned]

/-- A pool for a single session. -/
def narrow : List (Choice Nat) :=
  [.build { settings := { maxConnections := 1 }, source := some .server }]

theorem acquirers_agree_of_narrow :
    (∃ (s₀ s₁ s : State Nat) (since : List (State Nat × Choice Nat)) (call : Call Nat)
      (loan : Record Nat), s₀.act (.begin (.tryAcquire 0)) = some s₁ ∧ Leads s₁ since s ∧
      s.calls[s₀.calls.length]? = some call ∧ call.task = .acquire (.done (.value (some loan))) ∧
      ∃ s₁', s₀.act (.begin (.acquireWithin 0 (.ofSeconds 60))) = some s₁' ∧
        Agrees 0 (.ofSeconds 60) s₀.calls.length s₁' since s (.value (some loan))) ∧
    ∃ (s₀ s₁ s : State Nat) (since : List (State Nat × Choice Nat)) (call : Call Nat),
      s₀.act (.begin (.tryAcquire 0)) = some s₁ ∧ Leads s₁ since s ∧
      s.calls[s₀.calls.length]? = some call ∧ call.task = .acquire (.done (.value none)) ∧
      LeftAlone 0 s₀.calls.length since ∧ s.now.nanos < Instant.horizon ∧
      ∃ s₁', s₀.act (.begin (.acquireWithin 0 .zero)) = some s₁' ∧
        Agrees 0 .zero s₀.calls.length s₁' since s (.value none) := by
  constructor
  · have h : ((play narrow).any fun r => (r.2.act (.begin (.tryAcquire 0))).any fun s₁ =>
        (follow [] s₁ (steps 1 6 ++ [.answer 1 (.created (.value 10))] ++ steps 1 4)).any fun r' =>
          decide (∃ call ∈ r'.2.calls[r.2.calls.length]?,
            call.task = .acquire (.done (.value (some (.lent ⟨1⟩ 10 .start)))))) = true := by
      decide +kernel
    obtain ⟨⟨past, s₀⟩, -, h⟩ := (Option.any_eq_true _ _).1 h
    obtain ⟨s₁, begun, h⟩ := (Option.any_eq_true _ _).1 h
    obtain ⟨⟨since, s⟩, followed, h⟩ := (Option.any_eq_true _ _).1 h
    obtain ⟨call, was, task⟩ := of_decide_eq_true h
    obtain ⟨since', rfl, leads⟩ := leads_of_follow followed
    exact ⟨s₀, s₁, s, since', call, _, begun, leads, was, task,
      acquirers_agree begun leads was task (.ofSeconds 60)⟩
  · have h : ((play (narrow ++ lending 1 10)).any fun r =>
        (r.2.act (.begin (.tryAcquire 0))).any fun s₁ =>
        (follow [] s₁ (steps 2 5)).any fun r' =>
          decide (LeftAlone 0 r.2.calls.length r'.1 ∧ r'.2.now.nanos < Instant.horizon ∧
            ∃ call ∈ r'.2.calls[r.2.calls.length]?,
              call.task = .acquire (.done (.value none)))) = true := by
      decide +kernel
    obtain ⟨⟨past, s₀⟩, -, h⟩ := (Option.any_eq_true _ _).1 h
    obtain ⟨s₁, begun, h⟩ := (Option.any_eq_true _ _).1 h
    obtain ⟨⟨since, s⟩, followed, h⟩ := (Option.any_eq_true _ _).1 h
    obtain ⟨alone, shown, call, was, task⟩ := of_decide_eq_true h
    obtain ⟨since', same, leads⟩ := leads_of_follow followed
    obtain rfl : since = since' := by simpa using same
    exact ⟨s₀, s₁, s, since, call, begun, leads, was, task, alone, shown,
      acquirers_agree begun leads was task .zero⟩

end Interleaving

end ConnectionPool
