import ConnectionPool.Proofs.Conduct

set_option autoImplicit false

/-! # What is counted about requests

Only acquirers count requests that were met, and requests that have failed. An acquirer counts once,
however often it goes round: when it has been lent a session, or when it knows why it will get none.
Its phase tells what it has counted so far (`Acquire.counted`), so what its steps have added up to
is told by how it ends (`Run.answered`). -/

namespace ConnectionPool

variable {S : Type} {v : View S} {p p' : Pool S}

/-! ## Who counts requests -/

namespace Pool

/-- The requests that were met, and those that have failed. -/
def requests (p : Pool S) : UInt64 × UInt64 := (p.tally.checkouts, p.tally.checkoutFailures)

variable {now : Instant}

theorem requests_lend {cap : UInt32} {decision : Decision S} (h : p.lend cap now = (p', decision)) :
    p'.requests = p.requests := by
  cases decision with
  | reuse loan =>
    obtain ⟨key, record, -, -, -, rfl⟩ := lend_eq_reuse h
    rfl
  | reserve =>
    obtain ⟨-, rfl⟩ := lend_eq_reserve h
    rfl
  | full => rw [eq_of_lend_full h]

theorem requests_install (loan : Record S) : (p.install loan).1.requests = p.requests := by
  simp only [install]
  split <;> rfl

theorem requests_takeBack {key : SessionKey} {connected : S → Bool} {rejected : Option S}
    (h : p.takeBack key connected now = some (p', rejected)) : p'.requests = p.requests := by
  obtain ⟨record, idle, -, rfl, -⟩ := takeBack_eq_some h
  rfl

theorem requests_letGo {key : SessionKey} (h : p.letGo key = some p') :
    p'.requests = p.requests := by
  obtain ⟨record, -, rfl⟩ := letGo_eq_some h
  rfl

end Pool

theorem Release.requests_of_step {r r' : Release S} (h : r.step v p = some (p', r')) :
    p'.requests = p.requests := by
  cases r with
  | takeBack key =>
    simp only [step] at h
    split at h
    · cases h
      rfl
    · next taken =>
      cases h
      exact Pool.requests_takeBack taken
    · next taken =>
      cases h
      exact Pool.requests_takeBack taken
  | close | done => cases h
  | _ =>
    cases h
    rfl

theorem Return.requests_of_step {r r' : Return S} (h : r.step v p = some (p', r')) :
    p'.requests = p.requests := by
  cases r with
  | reach session key =>
    cases h
    rfl
  | release r =>
    rcases release_of_step h with ⟨outcome, -, rfl, -⟩ | ⟨u, hu, -⟩
    · rfl
    · exact Release.requests_of_step hu
  | close | done => cases h

theorem Transfer.requests_of_step {t t' : Transfer S} (h : t.step v p = some (p', t')) :
    p'.requests = p.requests := by
  cases steps_of_step h with
  | giving around did => exact Return.requests_of_step did
  | _ => rfl

theorem Surrender.requests_of_step {d d' : Surrender S} (h : d.step v p = some (p', d')) :
    p'.requests = p.requests := by
  cases d with
  | reach session key =>
    cases h
    rfl
  | detach session d =>
    rcases detach_of_step h with ⟨outcome, -, rfl, -⟩ | ⟨u, hu, -⟩
    · rfl
    · cases d with
      | letGo key =>
        simp only [Detach.step] at hu
        split at hu <;> cases hu
        · rfl
        · next gone => exact Pool.requests_letGo gone
      | announce =>
        cases hu
        rfl
      | done => cases hu
  | done => cases h

theorem Heartbeat.requests_of_step {b b' : Heartbeat S} (h : b.step v p = some (p', b')) :
    p'.requests = p.requests := by
  cases b with
  | select interval statement =>
    simp only [step] at h
    split at h
    · cases h
      rfl
    · split at h <;> cases h <;> rfl
  | probe statement todo verdicts =>
    cases todo <;> cases h
    rfl
  | credit todo verdicts =>
    cases todo <;> cases h
    · rfl
    · split <;> rfl
  | evict verdicts evicted todo =>
    cases todo <;> cases h
    rfl
  | done => cases h
  | _ =>
    cases h
    rfl

theorem Worker.requests_of_step {w w' : Worker S} (h : w.step v p = some (p', w')) :
    p'.requests = p.requests := by
  cases w with
  | asleep until? =>
    simp only [step] at h
    split at h
    · cases h
      rfl
    · split at h <;> cases h
      rfl
  | cycle nominal busy heartbeat =>
    rcases cycle_of_step h with ⟨outcome, -, rfl, -⟩ | ⟨b, hb, -⟩
    · rfl
    · exact Heartbeat.requests_of_step hb
  | done => cases h
  | _ =>
    cases h
    rfl

theorem Resize.requests_of_step {c c' : Resize} (h : c.step v p = some (p', c')) :
    p'.requests = p.requests := by
  cases c with
  | write count =>
    simp only [step] at h
    split at h <;> cases h
    · next set =>
      rw [Pool.setMaxConnections_eq_ok set]
      rfl
    · rfl
  | announce =>
    cases h
    rfl
  | done => cases h

theorem Shutdown.requests_of_step {d d' : Shutdown S} (h : d.step v p = some (p', d')) :
    p'.requests = p.requests := by
  cases d with
  | awaitFirst | asleep =>
    simp only [step] at h
    split at h <;> cases h
    rfl
  | awaitWorker =>
    simp only [step] at h
    split at h
    · cases h
      rfl
    · split at h <;> cases h
      rfl
  | closeIdle n todo =>
    cases todo <;> cases h
    rfl
  | done => cases h
  | _ =>
    cases h
    rfl

/-! ## What an acquirer has counted -/

/-- What an acquirer has counted so far: requests that were met, and requests that have failed. -/
def Acquire.counted : Acquire S → Nat × Nat
  | done (.value (some _)) => (1, 0)
  | giveBack (.error _) | announceSlot (.error _) | done (.error _) => (0, 1)
  | _ => (0, 0)

/-- An acquirer counts what its next phase says that it has counted. -/
theorem Acquire.requests_of_step {a a' : Acquire S} (h : a.step v p = some (p', a')) :
    (p'.requests = p.requests ∧ a'.counted = a.counted) ∨
      (p'.requests = (p.tally.checkouts + 1, p.tally.checkoutFailures) ∧ a.counted = (0, 0) ∧
        a'.counted = (1, 0)) ∨
      p'.requests = (p.tally.checkouts, p.tally.checkoutFailures + 1) ∧ a.counted = (0, 0) ∧
        a'.counted = (0, 1) := by
  cases a with
  | checkOpen patience =>
    cases h
    refine .inl ⟨rfl, ?_⟩
    split <;> rfl
  | choose patience epoch cap =>
    simp only [step] at h
    cases hd : p.lend cap v.now with
    | mk lent decision =>
      rw [hd] at h
      cases h
      refine .inl ⟨Pool.requests_lend hd, ?_⟩
      cases decision with
      | full => cases patience <;> rfl
      | _ => rfl
  | wait patience epoch =>
    simp only [step] at h
    split at h
    · cases h
      exact .inl ⟨rfl, rfl⟩
    · split at h <;> cases h
      exact .inl ⟨rfl, rfl⟩
  | readSource =>
    cases h
    refine .inl ⟨rfl, ?_⟩
    split <;> rfl
  | inspect session =>
    cases h
    refine .inl ⟨rfl, ?_⟩
    split <;> rfl
  | install loan =>
    cases h
    refine .inl ⟨Pool.requests_install loan, ?_⟩
    split <;> rfl
  | countReuse | countNew =>
    cases h
    exact .inr (.inl ⟨rfl, rfl, rfl⟩)
  | countUnused =>
    cases h
    exact .inr (.inr ⟨rfl, rfl, rfl⟩)
  | countFailure reason slot =>
    cases h
    refine .inr (.inr ⟨rfl, rfl, ?_⟩)
    cases slot <;> rfl
  | giveBack failure =>
    cases h
    exact .inl ⟨rfl, by cases failure <;> rfl⟩
  | announceSlot failure =>
    cases h
    refine .inl ⟨rfl, ?_⟩
    cases failure with
    | value none => exact none.elim
    | _ => rfl
  | create | openNew | closeUnused | done => cases h
  | _ =>
    cases h
    exact .inl ⟨rfl, rfl⟩

/-- No answer is counted. -/
theorem Acquire.counted_of_answer {a a' : Acquire S} {reply : Interleaving.Reply S}
    (h : a.status.answer reply = some a') : a.counted = (0, 0) ∧ a'.counted = (0, 0) := by
  cases a with
  | create source =>
    cases reply with
    | created outcome => cases outcome <;> cases h <;> exact ⟨rfl, rfl⟩
    | _ => cases h
  | openNew session =>
    cases reply with
    | opened outcome => cases outcome <;> cases h <;> exact ⟨rfl, rfl⟩
    | _ => cases h
  | closeUnused session =>
    cases reply with
    | closed outcome =>
      cases outcome with
      | error none => exact none.elim
      | _ =>
        cases h
        exact ⟨rfl, rfl⟩
    | _ => cases h
  | _ => cases h

namespace Interleaving

/-- A step of a call that is no acquirer counts no request. -/
theorem Task.requests_of_step {t t' : Task S} (h : t.step v p = some (p', t')) :
    (∃ a a', t = .acquire a ∧ t' = .acquire a' ∧ a.step v p = some (p', a')) ∨
      p'.requests = p.requests ∧ ∀ a, t ≠ .acquire a ∧ t' ≠ .acquire a := by
  cases t with
  | acquire a =>
    obtain ⟨u, hu, rfl⟩ := exists_of_map_step h
    exact .inl ⟨a, u, rfl, rfl, hu⟩
  | giveBack kept r =>
    obtain ⟨u, hu, rfl⟩ := exists_of_map_step h
    exact .inr ⟨Return.requests_of_step hu, by simp⟩
  | transfer t =>
    obtain ⟨u, hu, rfl⟩ := exists_of_map_step h
    exact .inr ⟨Transfer.requests_of_step hu, by simp⟩
  | surrender d =>
    obtain ⟨u, hu, rfl⟩ := exists_of_map_step h
    exact .inr ⟨Surrender.requests_of_step hu, by simp⟩
  | cycle b =>
    obtain ⟨u, hu, rfl⟩ := exists_of_map_step h
    exact .inr ⟨Heartbeat.requests_of_step hu, by simp⟩
  | work w =>
    obtain ⟨u, hu, rfl⟩ := exists_of_map_step h
    exact .inr ⟨Worker.requests_of_step hu, by simp⟩
  | resize c =>
    obtain ⟨u, hu, rfl⟩ := exists_of_map_step h
    exact .inr ⟨Resize.requests_of_step hu, by simp⟩
  | shutDown d | drop d =>
    obtain ⟨u, hu, rfl⟩ := exists_of_map_step h
    exact .inr ⟨Shutdown.requests_of_step hu, by simp⟩
  | returned => cases h

/-! ## What the steps of a call add up to -/

/-- Some steps have raised a counter by one this many times, and have left it alone otherwise. -/
def Raises (f : Tally → UInt64) (n : Nat) (es : List (Pool S × Pool S)) : Prop :=
  (∀ e ∈ es, f e.2.tally = f e.1.tally ∨ f e.2.tally = f e.1.tally + 1) ∧
    es.countP (fun e => f e.2.tally ≠ f e.1.tally) = n

theorem Raises.nil (f : Tally → UInt64) : Raises f 0 ([] : List (Pool S × Pool S)) := ⟨by simp, rfl⟩

section

variable {f : Tally → UInt64} {n : Nat} {es : List (Pool S × Pool S)}

theorem Raises.same (h : Raises f n es) (same : f p'.tally = f p.tally) :
    Raises f n ((p, p') :: es) := by
  refine ⟨fun e he => ?_, (List.countP_cons_of_neg (by simp [same])).trans h.2⟩
  rcases List.mem_cons.1 he with rfl | he
  · exact .inl same
  · exact h.1 e he

theorem Raises.more (h : Raises f n es) (more : f p'.tally = f p.tally + 1) :
    Raises f (n + 1) ((p, p') :: es) := by
  have changed : f p.tally + 1 ≠ f p.tally := fun same => by simp at same
  refine ⟨fun e he => ?_, (List.countP_cons_of_pos (by simp [more, changed])).trans
    (congrArg (· + 1) h.2)⟩
  rcases List.mem_cons.1 he with rfl | he
  · exact .inr more
  · exact h.1 e he

end

/-- What some steps of an acquirer have counted is so many requests met, and so many failed. -/
def Reckons (n : Nat × Nat) (es : List (Pool S × Pool S)) : Prop :=
  Raises (·.checkouts) n.1 es ∧ Raises (·.checkoutFailures) n.2 es

theorem Reckons.step {a a' : Acquire S} {es : List (Pool S × Pool S)} (h : Reckons a.counted es)
    (did : a.step v p = some (p', a')) : Reckons a'.counted ((p, p') :: es) := by
  rcases Acquire.requests_of_step did with
    ⟨same, counted⟩ | ⟨met, before, after⟩ | ⟨failed, before, after⟩
  · rw [counted]
    exact ⟨h.1.same (congrArg Prod.fst same), h.2.same (congrArg Prod.snd same)⟩
  · rw [before] at h
    rw [after]
    exact ⟨h.1.more (congrArg Prod.fst met), h.2.same (congrArg Prod.snd met)⟩
  · rw [before] at h
    rw [after]
    exact ⟨h.1.same (congrArg Prod.fst failed), h.2.more (congrArg Prod.snd failed)⟩

/-- What a request adds to the counters of its pool, by how it is answered. A request that breaks
off is not counted at all. -/
def Answered (es : List (Pool S × Pool S)) : Outcome Error (Option (Record S)) → Prop
  | .value (some _) => Raises (·.checkouts) 1 es ∧ Raises (·.checkoutFailures) 0 es
  | .error _ => Raises (·.checkouts) 0 es ∧ Raises (·.checkoutFailures) 1 es
  | .value none | .panic _ => Raises (·.checkouts) 0 es ∧ Raises (·.checkoutFailures) 0 es

theorem Reckons.answered {es : List (Pool S × Pool S)} {outcome : Outcome Error (Option (Record S))}
    (h : Reckons (Acquire.done outcome).counted es) : Answered es outcome := by
  cases outcome with
  | value loan? => cases loan? <;> exact h
  | _ => exact h

variable {past : List (State S × Choice S)} {s : State S} {i : Nat} {call : Call S}

theorem State.move?_of_unbegun (new : s.calls[i]? = none) (c : Choice S) : s.move? i c = none := by
  cases c with
  | step j connected contended | answer j reply => simp [State.move?, new]
  | _ => rfl

/-- A call that has not begun has done nothing. -/
theorem Run.moves_unbegun (run : Run past s) (new : s.calls[i]? = none) : moves i past = [] := by
  induction run with
  | start => rfl
  | @next past s s' c run fresh act ih =>
    have unbegun : s.calls[i]? = none := by
      cases was : s.calls[i]? with
      | none => rfl
      | some call =>
        obtain ⟨call', is⟩ := exists_call_of_act act was
        cases new.symm.trans is
    rw [moves_of_none (State.move?_of_unbegun unbegun c)]
    exact ih unbegun

/-- A call that takes no step has no effect, also if it is answered. -/
theorem effects_of_idle {c : Choice S} (was : s.calls[i]? = some call)
    (idle : stride? i past s c = none) :
    effects (moves i ((s, c) :: past)) = effects (moves i past) := by
  cases c with
  | step j connected contended =>
    refine congrArg effects (moves_of_none ?_)
    simp only [stride?, was, Option.map_some] at idle
    simp only [State.move?]
    split at idle
    · cases idle
    · next ne => exact if_neg ne
  | answer j reply =>
    unfold moves
    rw [List.filterMap_cons]
    split
    · rfl
    · next move made =>
      simp only [State.move?] at made
      split at made
      · simp only [was, bind, Option.bind_some, Option.map_eq_some_iff] at made
        obtain ⟨contact, -, rfl⟩ := made
        rfl
      · cases made
  | _ => rfl

/-- An acquirer has counted what its phase says. -/
theorem Run.counts (run : Run past s) {a : Acquire S} (was : s.calls[i]? = some call)
    (task : call.task = .acquire a) : Reckons a.counted (effects (moves i past)) := by
  induction run generalizing call a with
  | start => simp at was
  | @next past s s' c run fresh act ih =>
    cases came_of_act act was with
    | stays before idle =>
      rw [effects_of_idle before (idle past)]
      exact ih before task
    | begins new idle first =>
      rw [moves_of_none (State.move?_of_unbegun new c), run.moves_unbegun new]
      rcases first a task with rfl | ⟨limit, rfl⟩
      · exact ⟨.nil _, .nil _⟩
      · exact ⟨.nil _, .nil _⟩
    | steps before home found did =>
      rw [task] at did
      obtain ⟨a₀, task₀, did₀⟩ := Task.acquire_of_step did
      rw [moves_of_step before (State.pool?_of_site found) did]
      exact (ih before task₀).step did₀
    | hears before home did =>
      rw [task] at did
      obtain ⟨a₀, task₀, did₀⟩ := Task.acquire_of_answer did
      obtain ⟨contact, learned⟩ := Task.exists_contact did
      obtain ⟨zero, zero'⟩ := Acquire.counted_of_answer did₀
      rw [moves_of_answer before learned, effects_hear, zero', ← zero]
      exact ih before task₀
    | ends before ended last =>
      rw [task] at last
      cases last

/-- An acquirer that has ended has counted its request once: as met if it was lent a session, as
failed if it ends with an error, and else not at all. -/
theorem Run.answered (run : Run past s) {outcome : Outcome Error (Option (Record S))}
    (was : s.calls[i]? = some call) (task : call.task = .acquire (.done outcome)) :
    Answered (effects (moves i past)) outcome :=
  (run.counts was task).answered

end Interleaving

end ConnectionPool
