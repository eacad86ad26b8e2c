import ConnectionPool.Proofs.Role
import ConnectionPool.Proofs.Sections

set_option autoImplicit false

/-! # Every operation keeps to the list of moves

For each operation two inversion lemmas, over its phases: what a step of it does (`moves_of_step`)
and what an answer makes of it (`moves_of_answer`). They add up to those of a whole call. -/

namespace ConnectionPool

open Interleaving (Role Moves Alike Reply HandsOver Task)

variable {S : Type} {v : View S} {p p' : Pool S} {reply : Reply S}

/-! ## Acquiring -/

namespace Acquire

theorem moves_of_step {a a' : Acquire S} (h : a.step v p = some (p', a')) :
    Moves v none p a.role p' a'.role := by
  cases a with
  | choose patience epoch cap =>
    simp only [step] at h
    cases hd : p.lend cap v.now with
    | mk lent decision =>
      simp only [hd, Option.some.injEq, Prod.mk.injEq] at h
      obtain ⟨rfl, rfl⟩ := h
      cases decision with
      | reuse loan => exact .reuse hd
      | reserve => exact .reserve hd
      | full =>
        obtain rfl := Pool.eq_of_lend_full hd
        cases patience with
        | none => exact .resign
        | some patience => exact .queue hd
  | wait patience epoch =>
    simp only [step] at h
    split at h
    · cases h
      exact .leave
    · split at h
      · cases h
        exact .leave
      · cases h
  | checkOpen patience =>
    cases h
    split <;> exact .pass .rfl
  | readSource =>
    cases h
    split <;> exact .pass .rfl
  | inspect session =>
    cases h
    split
    · exact .accept
    · exact .pass .rfl
  | enrol session =>
    cases h
    exact .enrol
  | install loan =>
    simp only [step, Option.some.injEq, Prod.mk.injEq] at h
    obtain ⟨rfl, rfl⟩ := h
    -- the pool may have been closed while the session was made
    by_cases hc : p.closed = true
    · simp only [Pool.install, hc, if_true]
      exact .refuse hc
    · have ho : p.closed = false := by simpa using hc
      have hm : Moves v none p (.recruit loan) (p.install loan).1 (.loan loan) := .install ho
      simp only [Pool.install, ho] at hm ⊢
      exact hm
  | countFailure reason slot =>
    cases h
    cases slot <;> exact .pass ⟨rfl, rfl, rfl, rfl, rfl, rfl, rfl⟩
  | countReuse loan =>
    cases h
    exact .pass ⟨rfl, rfl, rfl, rfl, rfl, rfl, rfl⟩
  | countNew loan =>
    cases h
    exact .pass ⟨rfl, rfl, rfl, rfl, rfl, rfl, rfl⟩
  | countUnused =>
    cases h
    exact .pass ⟨rfl, rfl, rfl, rfl, rfl, rfl, rfl⟩
  | announceUnused session =>
    cases h
    exact .notify
  | giveBack failure =>
    cases h
    exact .unreserve
  | announceSlot failure =>
    cases h
    cases failure with
    | value e => exact e.elim
    | error reason => exact .notify
    | panic text => exact .notify
  | readTimeout | start =>
    cases h
    exact .pass .rfl
  | readEpoch patience =>
    cases h
    exact .readEpoch
  | readCap patience epoch =>
    cases h
    exact .readCap
  | create | openNew | closeUnused | done => cases h

theorem moves_of_answer {a a' : Acquire S} (h : a.status.answer reply = some a') :
    Moves v (some reply) p a.role p a'.role := by
  cases a with
  | create source =>
    cases reply with
    | created outcome =>
      cases h
      cases outcome with
      | value session => exact .receive rfl
      | error cause => exact .pass .rfl
      | panic text => exact .pass .rfl
    | _ => cases h
  | openNew session =>
    cases reply with
    | opened outcome =>
      cases h
      cases outcome with
      | value _ => exact .accept
      | error cause => exact .giveUp
      | panic text => exact .giveUp
    | _ => cases h
  | closeUnused session =>
    cases reply with
    | closed outcome =>
      cases h
      cases outcome with
      | value _ => exact .pass .rfl
      | error e => exact e.elim
      | panic text => exact .pass .rfl
    | _ => cases h
  | _ => cases h

end Acquire

/-! ## Giving back, letting go -/

namespace Release

theorem moves_of_step {r r' : Release S} (h : r.step v p = some (p', r')) :
    Moves v none p r.role p' r'.role := by
  cases r with
  | takeBack key =>
    simp only [step] at h
    split at h
    · next ht =>
      -- nobody has the session
      cases h
      exact .lose (.inr (Pool.find?_of_takeBack_eq_none ht))
    · next ht =>
      cases h
      exact .takeBack ht
    · next ht =>
      cases h
      exact .takeBack ht
  | readClosed session =>
    cases h
    exact .pass .rfl
  | count closing =>
    cases h
    exact .pass ⟨rfl, rfl, rfl, rfl, rfl, rfl, rfl⟩
  | announce =>
    cases h
    exact .notify
  | close | done => cases h

theorem moves_of_answer {r r' : Release S} (h : r.status.answer reply = some r') :
    Moves v (some reply) p r.role p r'.role := by
  cases r with
  | close session closing =>
    cases reply with
    | closed outcome =>
      cases h
      cases outcome with
      | value _ => exact .pass .rfl
      | error e => exact e.elim
      | panic text => exact .breakOff rfl
    | _ => cases h
  | _ => cases h

end Release

namespace Detach

theorem moves_of_step {d d' : Detach} (h : d.step v p = some (p', d')) :
    Moves v none p d.role p' d'.role := by
  cases d with
  | letGo key =>
    simp only [step] at h
    split at h
    · next ht =>
      cases h
      exact .lose (.inr (Pool.find?_of_letGo_eq_none ht))
    · next ht =>
      cases h
      exact .letGo ht
  | announce =>
    cases h
    exact .notify
  | done => cases h

end Detach

/-! ## Heartbeats -/

namespace Heartbeat

theorem moves_of_step {b b' : Heartbeat S} (h : b.step v p = some (p', b')) :
    Moves v none p b.role p' b'.role := by
  cases b with
  | select interval statement =>
    simp only [step] at h
    split at h
    · cases h
      exact .pass .rfl
    · split at h
      · cases h
        exact .pass .rfl
      · simp only [Option.some.injEq, Prod.mk.injEq] at h
        obtain ⟨rfl, rfl⟩ := h
        split <;> exact .beginProbes
  | probe statement todo verdicts =>
    cases todo with
    | nil =>
      cases h
      exact .pass .rfl
    | cons => cases h
  | credit todo verdicts =>
    cases todo with
    | nil =>
      cases h
      exact .pass .rfl
    | cons head rest =>
      cases h
      split <;> exact .pass ⟨rfl, rfl, rfl, rfl, rfl, rfl, rfl⟩
  | settle verdicts =>
    cases h
    exact .endProbes
  | evict verdicts evicted todo =>
    cases todo with
    | nil =>
      cases h
      exact .pass .rfl
    | cons => cases h
  | count verdicts evicted =>
    cases h
    exact .pass ⟨rfl, rfl, rfl, rfl, rfl, rfl, rfl⟩
  | announce probed evicted =>
    cases h
    exact .notify
  | done => cases h

theorem moves_of_answer {b b' : Heartbeat S} (h : b.status.answer reply = some b') :
    Moves v (some reply) p b.role p b'.role := by
  cases b with
  | probe statement todo verdicts =>
    cases todo with
    | nil => cases h
    | cons head rest =>
      cases reply with
      | queried outcome =>
        cases h
        exact .pass .rfl
      | _ => cases h
  | evict verdicts evicted todo =>
    cases todo with
    | nil => cases h
    | cons session rest =>
      cases reply with
      | closed outcome =>
        cases h
        cases outcome with
        | value _ => exact .pass .rfl
        | error e => exact e.elim
        | panic text => exact .breakOff rfl
      | _ => cases h
  | _ => cases h

end Heartbeat

/-! ## Changing the cap, shutting down -/

namespace Resize

theorem moves_of_step {c c' : Resize} (h : c.step v p = some (p', c')) :
    Moves v none p c.role p' c'.role := by
  cases c with
  | write count =>
    simp only [step] at h
    split at h
    · next hset =>
      cases h
      exact .resize hset
    · cases h
      exact .pass .rfl
  | announce =>
    cases h
    exact .notify
  | done => cases h

end Resize

namespace Shutdown

theorem moves_of_step {d d' : Shutdown S} (h : d.step v p = some (p', d')) :
    Moves v none p d.role p' d'.role := by
  cases d with
  | close =>
    -- only the shutdown that finds the pool open has a role from here on
    cases h
    split
    · next hc => exact .pass ⟨rfl, rfl, rfl, rfl, hc.symm, rfl, rfl⟩
    · next hc => exact .close (by simpa using hc)
  | announce =>
    cases h
    exact .proclaim
  | drain =>
    cases h
    exact .drain
  | awaitFirst =>
    simp only [step] at h
    split at h <;> cases h
    exact .pass .rfl
  | awaitWorker =>
    simp only [step] at h
    split at h
    · cases h
      exact .retire (.inl rfl)
    · split at h <;> cases h
      exact .pass .rfl
  | asleep =>
    simp only [step] at h
    split at h <;> cases h
    exact .pass .rfl
  | closeIdle n todo =>
    cases todo with
    | nil =>
      cases h
      exact .pass .rfl
    | cons => cases h
  | look since pause limit =>
    cases h
    split
    · exact .retire (.inr rfl)
    · split
      · exact .retire (.inr rfl)
      · exact .pass .rfl
  | stopWorker | count | readPauses | finish =>
    cases h
    exact .pass ⟨rfl, rfl, rfl, rfl, rfl, rfl, rfl⟩
  | done => cases h

theorem moves_of_answer {d d' : Shutdown S} (h : d.status.answer reply = some d') :
    Moves v (some reply) p d.role p d'.role := by
  cases d with
  | closeIdle n todo =>
    cases todo with
    | nil => cases h
    | cons session rest =>
      cases reply with
      | closed outcome =>
        cases h
        cases outcome with
        | value _ => exact .pass .rfl
        | error e => exact e.elim
        | panic text => exact .retire (.inr rfl)
      | _ => cases h
  | _ => cases h

end Shutdown

/-! ## Operations with another one inside

While the inner operation goes on the outer one does what that does, and has its role. -/

/-- An answer to an operation with another one inside is an answer to the inner one. -/
theorem Status.answer_embed {τ σ ε ε' α α' : Type} {inside : τ → σ}
    {status : Status S τ ε α} {t : σ}
    (h : (status.embed inside fun _ => (.running : Status S σ ε' α')).answer reply = some t) :
    ∃ u, status.answer reply = some u ∧ t = inside u := by
  cases status with
  | running | ended => cases h
  | creating | opening | querying | closing =>
    cases reply <;> cases h
    exact ⟨_, rfl, rfl⟩

/-- A step of the inner operation is one of the outer one. -/
theorem exists_of_map_step {τ σ : Type} {inside : τ → σ} {result : Option (Pool S × τ)} {t : σ}
    (h : result.map (Prod.map id inside) = some (p', t)) :
    ∃ u, result = some (p', u) ∧ t = inside u := by
  obtain ⟨⟨q, u⟩, hr, he⟩ := Option.map_eq_some_iff.1 h
  cases he
  exact ⟨u, hr, rfl⟩

/-- A worker in a cycle goes on with the cycle, until that has ended. -/
theorem Worker.cycle_of_step {nominal busy : Duration} {b : Heartbeat S} {w' : Worker S}
    (h : (cycle nominal busy b).step v p = some (p', w')) :
    (∃ outcome, b = .done outcome ∧ p' = p ∧ w' = afterCycle nominal busy outcome) ∨
      ∃ b', b.step v p = some (p', b') ∧ w' = cycle nominal busy b' := by
  cases b with
  | done outcome =>
    cases h
    exact .inl ⟨outcome, rfl, rfl, rfl⟩
  | _ => exact .inr (exists_of_map_step h)

theorem Return.release_of_step {r : Release S} {r' : Return S}
    (h : (release r).step v p = some (p', r')) :
    (∃ outcome, r = .done outcome ∧ p' = p ∧ r' = done outcome) ∨
      ∃ u, r.step v p = some (p', u) ∧ r' = release u := by
  cases r with
  | done outcome =>
    cases h
    exact .inl ⟨outcome, rfl, rfl, rfl⟩
  | _ => exact .inr (exists_of_map_step h)

theorem Surrender.detach_of_step {session : S} {d : Detach} {d' : Surrender S}
    (h : (detach session d).step v p = some (p', d')) :
    (∃ outcome, d = .done outcome ∧ p' = p ∧ d' = done (outcome.map fun _ => session)) ∨
      ∃ u, d.step v p = some (p', u) ∧ d' = detach session u := by
  cases d with
  | done outcome =>
    cases h
    exact .inl ⟨outcome, rfl, rfl, rfl⟩
  | _ => exact .inr (exists_of_map_step h)

namespace Worker

theorem moves_of_step {w w' : Worker S} (h : w.step v p = some (p', w')) :
    Moves v none p w.role p' w'.role := by
  cases w with
  | start | reach | checkOpen | pause =>
    cases h
    split <;> exact .pass .rfl
  | asleep until? =>
    simp only [step] at h
    split at h
    · cases h
      exact .pass .rfl
    · split at h <;> cases h
      exact .pass .rfl
  | readSettings =>
    cases h
    exact .pass .rfl
  | cycle nominal busy heartbeat =>
    rcases cycle_of_step h with ⟨outcome, rfl, rfl, rfl⟩ | ⟨b, hb, rfl⟩
    · cases outcome with
      | error e => exact e.elim
      | _ => exact .pass .rfl
    · exact Heartbeat.moves_of_step hb
  | stop =>
    cases h
    exact .pass ⟨rfl, rfl, rfl, rfl, rfl, rfl, rfl⟩
  | done => cases h

theorem moves_of_answer {w w' : Worker S} (h : w.status.answer reply = some w') :
    Moves v (some reply) p w.role p w'.role := by
  cases w with
  | cycle nominal busy heartbeat =>
    obtain ⟨b, hb, rfl⟩ := Status.answer_embed h
    exact Heartbeat.moves_of_answer hb
  | _ => cases h

end Worker

namespace Return

theorem moves_of_step {r r' : Return S} (h : r.step v p = some (p', r')) :
    Moves v none p r.role p' r'.role := by
  cases r with
  | reach session key =>
    cases h
    split
    · exact .pass .rfl
    · next hgone => exact .lose (.inl (by simpa using hgone))
  | release r =>
    rcases release_of_step h with ⟨outcome, rfl, rfl, rfl⟩ | ⟨u, hu, rfl⟩
    · exact .pass .rfl
    · exact Release.moves_of_step hu
  | close | done => cases h

theorem moves_of_answer {r r' : Return S} (h : r.status.answer reply = some r') :
    Moves v (some reply) p r.role p r'.role := by
  cases r with
  | release r =>
    obtain ⟨u, hu, rfl⟩ := Status.answer_embed h
    exact Release.moves_of_answer hu
  | close session =>
    cases reply with
    | closed outcome =>
      cases h
      cases outcome with
      | value _ => exact .pass .rfl
      | error e => exact e.elim
      | panic text => exact .pass .rfl
    | _ => cases h
  | _ => cases h

end Return

namespace Surrender

theorem moves_of_step {d d' : Surrender S} (h : d.step v p = some (p', d')) :
    Moves v none p d.role p' d'.role := by
  cases d with
  | reach session key =>
    cases h
    split
    · exact .pass .rfl
    · next hgone => exact .lose (.inl (by simpa using hgone))
  | detach session d =>
    rcases detach_of_step h with ⟨outcome, rfl, rfl, rfl⟩ | ⟨u, hu, rfl⟩
    · exact .pass .rfl
    · exact Detach.moves_of_step hu
  | done => cases h

theorem not_answer {d d' : Surrender S} (h : d.status.answer reply = some d') : False := by
  cases d with
  | detach session d => cases d <;> cases h
  | _ => cases h

end Surrender

/-! ## Transfers -/

namespace Transfer

/-- The phases of a transfer in which a session is given back. -/
inductive Around : (Return S → Transfer S) → Prop
  | replace (old : Metadata) (source : Lease S) : Around (replace old source)
  | refuse (target : Lease S) : Around (refuse target)
  | abandon (target : Lease S) (text : String) : Around (abandon target text)

/-- What a step of a transfer may be. -/
inductive Steps (v : View S) (p : Pool S) : Transfer S → Pool S → Transfer S → Prop
  | giving {inside : Return S → Transfer S} {r r' : Return S} {p' : Pool S} (around : Around inside)
      (did : r.step v p = some (p', r')) : Steps v p (inside r) p' (inside r')
  | replaced {old : Metadata} {source : Lease S} {given : Outcome Error Unit} :
      Steps v p (replace old source (.done given)) p (afterReplace old source given)
  | refused {target : Lease S} {given : Outcome Error Unit} :
      Steps v p (refuse target (.done given)) p (afterRefuse target given)
  | abandoned {target : Lease S} {text : String} {given : Outcome Error Unit} :
      Steps v p (abandon target text (.done given)) p (done target (.panic text))

theorem steps_of_step {t t' : Transfer S} (h : t.step v p = some (p', t')) : Steps v p t p' t' := by
  have giving {inside : Return S → Transfer S} {r : Return S} (around : Around inside)
      (h : (r.step v p).map (Prod.map id inside) = some (p', t')) : Steps v p (inside r) p' t' := by
    obtain ⟨u, hu, rfl⟩ := exists_of_map_step h
    exact .giving around hu
  cases t with
  | replace old source r =>
    cases r with
    | done given =>
      cases h
      exact .replaced
    | _ => exact giving (.replace old source) h
  | refuse target r =>
    cases r with
    | done given =>
      cases h
      exact .refused
    | _ => exact giving (.refuse target) h
  | abandon target text r =>
    cases r with
    | done given =>
      cases h
      exact .abandoned
    | _ => exact giving (.abandon target text) h
  | done => cases h

theorem moves_of_step {t t' : Transfer S} (h : t.step v p = some (p', t')) :
    ((Task.transfer t').leases = (Task.transfer t).leases ∧ Moves v none p t.role p' t'.role) ∨
      (p' = p ∧ HandsOver (.transfer t) (.transfer t')) := by
  cases steps_of_step h with
  | giving around did => cases around <;> exact .inl ⟨rfl, Return.moves_of_step did⟩
  | @replaced old source given =>
    refine .inr ⟨rfl, ?_⟩
    cases given with
    | panic text => exact .abandoned
    | _ => exact .settled
  | @refused target given => cases given <;> exact .inl ⟨rfl, .pass .rfl⟩
  | abandoned => exact .inl ⟨rfl, .pass .rfl⟩

theorem moves_of_answer {t t' : Transfer S} (h : t.status.answer reply = some t') :
    (Task.transfer t').leases = (Task.transfer t).leases ∧
      Moves v (some reply) p t.role p t'.role := by
  cases t with
  | done => cases reply <;> cases h
  | _ =>
    obtain ⟨u, hu, rfl⟩ := Status.answer_embed h
    exact ⟨rfl, Return.moves_of_answer hu⟩

end Transfer

/-! ## Calls -/

namespace Interleaving

namespace Task

theorem moves_of_step {t t' : Task S} (h : t.step v p = some (p', t')) :
    (t'.leases = t.leases ∧ Moves v none p t.role p' t'.role) ∨ (p' = p ∧ HandsOver t t') := by
  cases t with
  | transfer t =>
    obtain ⟨u, hu, rfl⟩ := exists_of_map_step h
    exact Transfer.moves_of_step hu
  | acquire a =>
    obtain ⟨u, hu, rfl⟩ := exists_of_map_step h
    exact .inl ⟨rfl, Acquire.moves_of_step hu⟩
  | giveBack kept r =>
    obtain ⟨u, hu, rfl⟩ := exists_of_map_step h
    exact .inl ⟨rfl, Return.moves_of_step hu⟩
  | surrender d =>
    obtain ⟨u, hu, rfl⟩ := exists_of_map_step h
    exact .inl ⟨rfl, Surrender.moves_of_step hu⟩
  | cycle b =>
    obtain ⟨u, hu, rfl⟩ := exists_of_map_step h
    exact .inl ⟨rfl, Heartbeat.moves_of_step hu⟩
  | work w =>
    obtain ⟨u, hu, rfl⟩ := exists_of_map_step h
    exact .inl ⟨rfl, Worker.moves_of_step hu⟩
  | resize c =>
    obtain ⟨u, hu, rfl⟩ := exists_of_map_step h
    exact .inl ⟨rfl, Resize.moves_of_step hu⟩
  | shutDown d | drop d =>
    obtain ⟨u, hu, rfl⟩ := exists_of_map_step h
    exact .inl ⟨rfl, Shutdown.moves_of_step hu⟩
  | returned => cases h

theorem moves_of_answer {t t' : Task S} (h : t.answer reply = some t') :
    t'.leases = t.leases ∧ Moves v (some reply) p t.role p t'.role := by
  cases t with
  | transfer t =>
    obtain ⟨u, hu, rfl⟩ := Option.map_eq_some_iff.1 h
    exact Transfer.moves_of_answer hu
  | acquire a =>
    obtain ⟨u, hu, rfl⟩ := Option.map_eq_some_iff.1 h
    exact ⟨rfl, Acquire.moves_of_answer hu⟩
  | giveBack kept r =>
    obtain ⟨u, hu, rfl⟩ := Option.map_eq_some_iff.1 h
    exact ⟨rfl, Return.moves_of_answer hu⟩
  | surrender d =>
    obtain ⟨u, hu, rfl⟩ := Option.map_eq_some_iff.1 h
    exact (Surrender.not_answer hu).elim
  | cycle b =>
    obtain ⟨u, hu, rfl⟩ := Option.map_eq_some_iff.1 h
    exact ⟨rfl, Heartbeat.moves_of_answer hu⟩
  | work w =>
    obtain ⟨u, hu, rfl⟩ := Option.map_eq_some_iff.1 h
    exact ⟨rfl, Worker.moves_of_answer hu⟩
  | shutDown d | drop d =>
    obtain ⟨u, hu, rfl⟩ := Option.map_eq_some_iff.1 h
    exact ⟨rfl, Shutdown.moves_of_answer hu⟩
  | resize c | returned => cases h

/-- Only an acquirer becomes one by a step. -/
theorem acquire_of_step {t : Task S} {a' : Acquire S} (h : t.step v p = some (p', .acquire a')) :
    ∃ a, t = .acquire a ∧ a.step v p = some (p', a') := by
  cases t with
  | acquire a =>
    obtain ⟨u, hu, same⟩ := exists_of_map_step h
    cases same
    exact ⟨a, rfl, hu⟩
  | returned => cases h
  | _ =>
    obtain ⟨u, -, same⟩ := exists_of_map_step h
    cases same

theorem acquire_of_answer {t : Task S} {a' : Acquire S} (h : t.answer reply = some (.acquire a')) :
    ∃ a, t = .acquire a ∧ a.status.answer reply = some a' := by
  cases t with
  | acquire a =>
    obtain ⟨u, hu, same⟩ := Option.map_eq_some_iff.1 h
    cases same
    exact ⟨a, rfl, hu⟩
  | resize | returned => cases h
  | _ =>
    obtain ⟨u, -, same⟩ := Option.map_eq_some_iff.1 h
    cases same

end Task

end Interleaving

end ConnectionPool
