import ConnectionPool.Proofs.Custody

set_option autoImplicit false

/-! # Sessions on their way out

A session leaves its pool in a section, and is closed in a later step of the same call, or handed to
the caller. In between it belongs to nobody but the call (`spoils`, `freed`), and so does a session
whose pool is gone.

A step of a call makes an exchange (`Trade`): keys that the call has in its hands, or that the
roster of idle sessions lists, against others, and against the sessions that leave. Nothing else
happens to either: what a call does not take out stays, and what it takes out it has in its hands
(`Task.trade_of_step`) until it has called for its end (`Task.settled_of_answer`). -/

namespace ConnectionPool

/-! ## What a call has taken out -/

/-- The session that is being closed. -/
def Status.closing? {S τ ε α : Type} : Status S τ ε α → Option S
  | .closing session _ => some session
  | _ => none

variable {S : Type}

/-- The sessions that an acquirer found no place for, and is to close. -/
def Acquire.spoils : Acquire S → List S
  | announceUnused session | closeUnused session => [session]
  | _ => []

def Release.spoils : Release S → List S
  | readClosed session | close session _ => [session]
  | _ => []

def Return.spoils : Return S → List S
  | release r => r.spoils
  | close session => [session]
  | _ => []

def Transfer.spoils : Transfer S → List S
  | replace _ _ giving | refuse _ giving | abandon _ _ giving => giving.spoils
  | done _ _ => []

def Heartbeat.spoils : Heartbeat S → List S
  | evict _ _ todo => todo
  | _ => []

def Worker.spoils : Worker S → List S
  | cycle _ _ heartbeat => heartbeat.spoils
  | _ => []

def Shutdown.spoils : Shutdown S → List S
  | closeIdle _ todo => todo
  | _ => []

/-- The session that was taken out of the pool for the caller. -/
def Surrender.freed : Surrender S → List S
  | detach session .announce | detach session (.done (.value _)) | done (.value session) =>
    [session]
  | _ => []

/-- The session that is to be given back, with the key under which it was lent. -/
def Return.vouched? : Return S → Option (SessionKey × S)
  | reach session key => some (key, session)
  | _ => none

def Surrender.vouched? : Surrender S → Option (SessionKey × S)
  | reach session key | detach session (.letGo key) => some (key, session)
  | _ => none

namespace Interleaving

/-- The keys that a call has in its hands, of sessions with a record. -/
def Role.keys (r : Role S) : List SessionKey := r.recruits ++ r.stakes

namespace Task

/-- The sessions that a call is to close, the one that it is closing included. -/
def spoils : Task S → List S
  | acquire a => a.spoils
  | giveBack _ r => r.spoils
  | transfer t => t.spoils
  | cycle b => b.spoils
  | work w => w.spoils
  | shutDown d | drop d => d.spoils
  | surrender _ | resize _ | returned => []

/-- The session that a call has taken out for its caller. -/
def freed : Task S → List S
  | surrender d => d.freed
  | _ => []

/-- The sessions that have left the pool, or were never in it, and are in the hands of the call
alone. -/
def settled (t : Task S) : List S := t.spoils ++ t.freed

/-- The session that a call is closing. -/
def closing? : Task S → Option S
  | acquire a => a.status.closing?
  | giveBack _ r => r.status.closing?
  | transfer t => t.status.closing?
  | surrender d => d.status.closing?
  | cycle b => b.status.closing?
  | work w => w.status.closing?
  | shutDown d | drop d => d.status.closing?
  | resize _ | returned => none

/-- The session that a call has been handed by a lease, with the key under which it was lent. -/
def vouched? : Task S → Option (SessionKey × S)
  | giveBack _ r => r.vouched?
  | transfer (.replace _ _ giving) | transfer (.refuse _ giving) | transfer (.abandon _ _ giving) =>
    giving.vouched?
  | surrender d => d.vouched?
  | _ => none

end Task

end Interleaving

/-! ## Rosters of records -/

/-- The sessions of a roster, with their keys. -/
def Roster.holdings (r : Roster (Record S)) : List (SessionKey × S) :=
  r.entries.map fun e => (e.1, e.2.session)

namespace Roster

variable {r : Roster (Record S)}

@[simp] theorem map_fst_holdings : r.holdings.map (·.1) = r.keys := by
  simp [holdings, keys]

@[simp] theorem map_snd_holdings : r.holdings.map (·.2) = r.values.map (·.session) := by
  simp [holdings, values]

theorem mem_holdings {key : SessionKey} {record : Record S} (found : r.find? key = some record) :
    (key, record.session) ∈ r.holdings :=
  List.mem_map.2 ⟨(key, record), mem_entries_iff.2 found, rfl⟩

theorem exists_of_mem_holdings {e : SessionKey × S} (h : e ∈ r.holdings) :
    ∃ record, r.find? e.1 = some record ∧ record.session = e.2 := by
  obtain ⟨⟨key, record⟩, hmem, rfl⟩ := List.mem_map.1 h
  exact ⟨record, mem_entries_iff.1 hmem, rfl⟩

end Roster

namespace Interleaving

variable {v : View S} {p p' : Pool S} {x y : Role S} {en shed : List (SessionKey × S)}

/-- A session that a roster lists is known under its key, as far as the roster is filed
correctly. -/
theorem Filed.known_idle (h : Filed en p) {e : SessionKey × S} (he : e ∈ p.idle.holdings) :
    e ∈ en := by
  obtain ⟨record, found, same⟩ := Roster.exists_of_mem_holdings he
  have known := (h.idle e.1 record found).known
  rw [same] at known
  exact known

/-! ## The exchange -/

/-- What a step takes and gives, told by keys: the call has other keys in its hands, the idle
sessions are others, and some sessions have left. -/
structure Trade (en : List (SessionKey × S)) (p : Pool S) (x : Role S) (p' : Pool S) (y : Role S)
    (shed : List (SessionKey × S)) : Prop where
  known : ∀ e ∈ shed, e ∈ en
  keys : ∀ key, x.keys.count key + p.idle.keys.count key + ((x.enrolment y).map (·.1)).count key =
    y.keys.count key + p'.idle.keys.count key + (shed.map (·.1)).count key

/-- Nothing leaves, and nothing changes hands. -/
theorem Trade.still (idle : p'.idle = p.idle) (keys : y.keys = x.keys) (none : x.enrolment y = []) :
    Trade en p x p' y [] := by
  refine ⟨by simp, fun key => ?_⟩
  rw [idle, keys, none]

/-- A session that the call has in its hands goes out. -/
theorem Trade.out {key : SessionKey} {session : S} (known : (key, session) ∈ en)
    (idle : p'.idle = p.idle) (before : x.keys = [key]) (after : y.keys = [])
    (none : x.enrolment y = []) :
    Trade en p x p' y [(key, session)] := by
  refine ⟨by simpa using known, fun k => ?_⟩
  rw [idle, before, after, none]
  simp only [List.map_cons, List.map_nil, List.count_nil]
  omega

/-- An idle session is lent. -/
theorem Trade.reuse {epoch : UInt64} {cap : UInt32} {now : Instant} {loan : Record S}
    (filed : Filed en p) (lend : p.lend cap now = (p', .reuse loan)) :
    Trade en p (.poised epoch cap) p' (.loan loan) [] := by
  obtain ⟨key, record, found, -, rfl, rfl⟩ := Pool.lend_eq_reuse lend
  refine ⟨by simp, fun k => ?_⟩
  have one := Roster.count_keys_of_some found
  simp only [Role.keys, Role.recruits, Role.stakes, Role.enrolment, List.nil_append, List.map_nil,
    List.count_nil, Record.key_checkOut, (filed.idle key record found).own, Roster.count_keys_erase]
  by_cases hk : k = key
  · subst hk
    simp [one]
  · rw [if_neg hk, List.count_cons_of_ne (Ne.symm hk)]
    simp

/-- All idle sessions go out. -/
theorem Trade.drain (filed : Filed en p) (same : y = x) (none : x.enrolment y = []) :
    Trade en p x p.drain.1 y p.idle.holdings := by
  refine ⟨fun e he => filed.known_idle he, fun key => ?_⟩
  rw [same] at none ⊢
  rw [none, Roster.map_fst_holdings]
  show _ = x.keys.count key + (Roster.empty : Roster (Record S)).keys.count key + _
  rw [Roster.keys_empty]
  simp only [List.map_nil, List.count_nil]
  omega

/-- The idle sessions whose probes have failed. -/
def thrown (p : Pool S) (verdicts : List (SessionKey × Verdict))
    (now : Instant) : Roster (Record S) :=
  (p.idle.map (Pool.judge verdicts now)).filter fun _ r => r.standing == .canceled

/-- The sessions whose probes have failed go out. -/
theorem Trade.evict {verdicts : List (SessionKey × Verdict)} {now : Instant} (filed : Filed en p) :
    Trade en p .none (p.endProbes verdicts now).1 .notice (thrown p verdicts now).holdings := by
  refine ⟨fun e he => ?_, fun key => ?_⟩
  · obtain ⟨record, found, same⟩ := Roster.exists_of_mem_holdings he
    obtain ⟨judged, -⟩ := Roster.find?_of_filter found
    rw [Roster.find?_map, Option.map_eq_some_iff] at judged
    obtain ⟨old, hold, rfl⟩ := judged
    have m := (filed.idle e.1 old hold).known
    rw [← Pool.session_judge verdicts e.1 old, same] at m
    exact m
  · have split := Roster.count_keys_filter_add (p.idle.map (Pool.judge verdicts now))
      (fun _ r => r.standing == .canceled) key
    rw [Roster.keys_map] at split
    have kept : (p.endProbes verdicts now).1.idle =
        (p.idle.map (Pool.judge verdicts now)).filter fun _ r => !(r.standing == .canceled) := rfl
    rw [kept, Roster.map_fst_holdings, thrown]
    simp only [Role.keys, Role.recruits, Role.stakes, Role.enrolment, List.append_nil, List.map_nil,
      List.count_nil]
    omega

/-- A session that is given back becomes idle, and was not idle before. -/
theorem Trade.shelve {key : SessionKey} {connected : S → Bool} {now : Instant}
    (apart : p.places key ≤ 1) (taken : p.takeBack key connected now = some (p', none)) :
    Trade en p (.claim key) p' .notice [] := by
  obtain ⟨record, found, rfl⟩ := Pool.takeBack_eq_shelved taken
  refine ⟨by simp, fun k => ?_⟩
  have one := Roster.count_keys_of_some found
  unfold Pool.places at apart
  simp only [Role.keys, Role.recruits, Role.stakes, Role.enrolment, List.nil_append, List.map_nil,
    List.count_nil, Roster.count_keys_insert]
  by_cases hk : k = key
  · subst hk
    rw [if_pos rfl, List.count_cons_self, List.count_nil]
    omega
  · rw [if_neg hk, List.count_cons_of_ne (Ne.symm hk), List.count_nil]

end Interleaving

open Interleaving (Trade Filed Reply Role HandsOver Task)

variable {v : View S} {p p' : Pool S} {en : List (SessionKey × S)} {reply : Reply S}

/-! ## What the operations exchange -/

theorem Acquire.trade_of_step {a a' : Acquire S} (filed : Filed en p)
    (ready : ∀ r, a.role = .recruit r → (r.info.key, r.session) ∈ en)
    (h : a.step v p = some (p', a')) :
    ∃ shed, Trade en p a.role p' a'.role shed ∧ a'.spoils = shed.map (·.2) ++ a.spoils := by
  cases a with
  | choose patience epoch cap =>
    simp only [step] at h
    cases hd : p.lend cap v.now with
    | mk lent decision =>
      rw [hd] at h
      cases h
      cases decision with
      | reuse loan => exact ⟨[], .reuse filed hd, rfl⟩
      | reserve =>
        obtain ⟨-, rfl⟩ := Pool.lend_eq_reserve hd
        exact ⟨[], .still rfl rfl rfl, rfl⟩
      | full =>
        obtain rfl := Pool.eq_of_lend_full hd
        cases patience <;> exact ⟨[], .still rfl rfl rfl, rfl⟩
  | wait patience epoch =>
    simp only [step] at h
    split at h
    · cases h
      exact ⟨[], .still rfl rfl rfl, rfl⟩
    · split at h <;> cases h
      exact ⟨[], .still rfl rfl rfl, rfl⟩
  | enrol session =>
    -- the key that is drawn is one that the acquirer has in its hands from now on
    cases h
    refine ⟨[], ⟨by simp, fun key => ?_⟩, rfl⟩
    simp only [role, Role.keys, Role.recruits, Role.stakes, Role.enrolment,
      List.append_nil, List.map_cons, List.map_nil, List.count_nil]
    omega
  | install loan =>
    simp only [step, Option.some.injEq, Prod.mk.injEq] at h
    obtain ⟨rfl, rfl⟩ := h
    by_cases closed : p.closed = true
    · simp only [Pool.install, closed, if_true]
      exact ⟨_, .out (ready loan rfl) rfl rfl rfl rfl, rfl⟩
    · simp only [Pool.install, closed, Bool.false_eq_true, if_false]
      exact ⟨[], .still rfl rfl rfl, rfl⟩
  | checkOpen | readSource | inspect =>
    cases h
    split <;> exact ⟨[], .still rfl rfl rfl, rfl⟩
  | countFailure reason slot =>
    cases h
    cases slot <;> exact ⟨[], .still rfl rfl rfl, rfl⟩
  | announceSlot failure =>
    cases h
    cases failure with
    | value e => exact e.elim
    | error reason => exact ⟨[], .still rfl rfl rfl, rfl⟩
    | panic text => exact ⟨[], .still rfl rfl rfl, rfl⟩
  | create | openNew | closeUnused | done => cases h
  | _ =>
    cases h
    exact ⟨[], .still rfl rfl rfl, rfl⟩

theorem Release.trade_of_step {r r' : Release S} (filed : Filed en p)
    (apart : ∀ key, p.places key ≤ 1)
    (mine : ∀ key, r.role = .claim key → ∃ record, p.active.find? key = some record)
    (h : r.step v p = some (p', r')) :
    ∃ shed, Trade en p r.role p' r'.role shed ∧ r'.spoils = shed.map (·.2) ++ r.spoils := by
  cases r with
  | takeBack key =>
    obtain ⟨record, found⟩ := mine key rfl
    simp only [step] at h
    split at h
    · next none =>
      -- the session is lent, so it is there to be taken
      rw [Pool.find?_of_takeBack_eq_none none] at found
      cases found
    · next taken =>
      cases h
      exact ⟨[], .shelve (apart key) taken, rfl⟩
    · next session taken =>
      cases h
      obtain ⟨record, found, rfl, rfl⟩ := Pool.takeBack_eq_rejected taken
      exact ⟨[(key, record.session)], .out (filed.active key record found).known rfl rfl rfl rfl,
        rfl⟩
  | close | done => cases h
  | _ =>
    cases h
    exact ⟨[], .still rfl rfl rfl, rfl⟩

theorem Heartbeat.trade_of_step {b b' : Heartbeat S} (filed : Filed en p)
    (h : b.step v p = some (p', b')) :
    ∃ shed, Trade en p b.role p' b'.role shed ∧ b'.spoils = shed.map (·.2) ++ b.spoils := by
  cases b with
  | select interval statement =>
    simp only [step] at h
    split at h
    · cases h
      exact ⟨[], .still rfl rfl rfl, rfl⟩
    · split at h
      · cases h
        exact ⟨[], .still rfl rfl rfl, rfl⟩
      · cases h
        -- marking the sessions that are due changes no key
        have keys : (p.beginProbes interval v.now).1.idle.keys = p.idle.keys := by
          simp only [Pool.beginProbes, Roster.keys_map]
        split <;> exact ⟨[], ⟨by simp, fun key => by rw [keys]; rfl⟩, rfl⟩
  | probe statement todo verdicts =>
    cases todo <;> cases h
    exact ⟨[], .still rfl rfl rfl, rfl⟩
  | credit todo verdicts =>
    cases todo <;> cases h
    · exact ⟨[], .still rfl rfl rfl, rfl⟩
    · split <;> exact ⟨[], .still rfl rfl rfl, rfl⟩
  | settle verdicts =>
    cases h
    refine ⟨_, .evict filed, ?_⟩
    rw [Roster.map_snd_holdings]
    exact (List.append_nil _).symm
  | evict verdicts evicted todo =>
    cases todo <;> cases h
    exact ⟨[], .still rfl rfl rfl, rfl⟩
  | done => cases h
  | _ =>
    cases h
    exact ⟨[], .still rfl rfl rfl, rfl⟩

theorem Shutdown.trade_of_step {d d' : Shutdown S} (filed : Filed en p)
    (h : d.step v p = some (p', d')) :
    ∃ shed, Trade en p d.role p' d'.role shed ∧ d'.spoils = shed.map (·.2) ++ d.spoils := by
  cases d with
  | close | look =>
    cases h
    split
    · exact ⟨[], .still rfl rfl rfl, rfl⟩
    · try split
      all_goals exact ⟨[], .still rfl rfl rfl, rfl⟩
  | awaitFirst | asleep =>
    simp only [step] at h
    split at h <;> cases h
    exact ⟨[], .still rfl rfl rfl, rfl⟩
  | awaitWorker =>
    simp only [step] at h
    split at h
    · cases h
      exact ⟨[], .still rfl rfl rfl, rfl⟩
    · split at h <;> cases h
      exact ⟨[], .still rfl rfl rfl, rfl⟩
  | drain =>
    cases h
    refine ⟨_, .drain filed rfl rfl, ?_⟩
    rw [Roster.map_snd_holdings]
    exact (List.append_nil _).symm
  | closeIdle n todo =>
    cases todo <;> cases h
    exact ⟨[], .still rfl rfl rfl, rfl⟩
  | done => cases h
  | _ =>
    cases h
    exact ⟨[], .still rfl rfl rfl, rfl⟩

theorem Resize.trade_of_step {c c' : Resize} (h : c.step v p = some (p', c')) :
    Trade en p c.role p' c'.role [] := by
  cases c with
  | write count =>
    simp only [step] at h
    split at h
    · next set =>
      cases h
      rw [Pool.setMaxConnections_eq_ok set]
      exact .still rfl rfl rfl
    · cases h
      exact .still rfl rfl rfl
  | announce =>
    cases h
    exact .still rfl rfl rfl
  | done => cases h

theorem Worker.trade_of_step {w w' : Worker S} (filed : Filed en p)
    (h : w.step v p = some (p', w')) :
    ∃ shed, Trade en p w.role p' w'.role shed ∧ w'.spoils = shed.map (·.2) ++ w.spoils := by
  cases w with
  | cycle nominal busy heartbeat =>
    rcases cycle_of_step h with ⟨outcome, rfl, rfl, rfl⟩ | ⟨b, hb, rfl⟩
    · cases outcome with
      | error e => exact e.elim
      | _ => exact ⟨[], .still rfl rfl rfl, rfl⟩
    · exact Heartbeat.trade_of_step filed hb
  | asleep until? =>
    simp only [step] at h
    split at h
    · cases h
      exact ⟨[], .still rfl rfl rfl, rfl⟩
    · split at h <;> cases h
      exact ⟨[], .still rfl rfl rfl, rfl⟩
  | readSettings | stop =>
    cases h
    exact ⟨[], .still rfl rfl rfl, rfl⟩
  | done => cases h
  | _ =>
    cases h
    split <;> exact ⟨[], .still rfl rfl rfl, rfl⟩

theorem Return.trade_of_step {r r' : Return S} (filed : Filed en p)
    (apart : ∀ key, p.places key ≤ 1)
    (mine : ∀ key, r.role = .claim key → ∃ record, p.active.find? key = some record)
    (vouched : ∀ e, r.vouched? = some e → e ∈ en) (h : r.step v p = some (p', r')) :
    ∃ shed, Trade en p r.role p' r'.role shed ∧ r'.spoils = shed.map (·.2) ++ r.spoils := by
  cases r with
  | reach session key =>
    cases h
    split
    · exact ⟨[], .still rfl rfl rfl, rfl⟩
    · exact ⟨_, .out (vouched (key, session) rfl) rfl rfl rfl rfl, rfl⟩
  | release r =>
    rcases release_of_step h with ⟨outcome, rfl, rfl, rfl⟩ | ⟨u, hu, rfl⟩
    · exact ⟨[], .still rfl rfl rfl, rfl⟩
    · exact Release.trade_of_step filed apart mine hu
  | close | done => cases h

theorem Surrender.trade_of_step {d d' : Surrender S}
    (mine : ∀ key, d.role = .claim key → ∃ record, p.active.find? key = some record)
    (vouched : ∀ e, d.vouched? = some e → e ∈ en) (h : d.step v p = some (p', d')) :
    ∃ shed, Trade en p d.role p' d'.role shed ∧ d'.freed = shed.map (·.2) ++ d.freed := by
  cases d with
  | reach session key =>
    cases h
    split
    · exact ⟨[], .still rfl rfl rfl, rfl⟩
    · exact ⟨_, .out (vouched (key, session) rfl) rfl rfl rfl rfl, rfl⟩
  | detach session d =>
    rcases detach_of_step h with ⟨outcome, rfl, rfl, rfl⟩ | ⟨u, hu, rfl⟩
    · cases outcome <;> exact ⟨[], .still rfl rfl rfl, rfl⟩
    · cases d with
      | letGo key =>
        obtain ⟨record, found⟩ := mine key rfl
        simp only [Detach.step] at hu
        split at hu
        · next none =>
          rw [Pool.find?_of_letGo_eq_none none] at found
          cases found
        · next taken =>
          cases hu
          obtain ⟨record, -, rfl⟩ := Pool.letGo_eq_some taken
          exact ⟨_, .out (vouched (key, session) rfl) rfl rfl rfl rfl, rfl⟩
      | announce =>
        cases hu
        exact ⟨[], .still rfl rfl rfl, rfl⟩
      | done => cases hu
  | done => cases h

namespace Interleaving

/-- What a call knows to be true when it takes a step. -/
structure Sound (en : List (SessionKey × S)) (p : Pool S) (t : Task S) : Prop where
  filed : Filed en p
  apart : ∀ key, p.places key ≤ 1
  ready : ∀ r, t.role = .recruit r → (r.info.key, r.session) ∈ en
  mine : ∀ key, t.role = .claim key → ∃ record, p.active.find? key = some record
  vouched : ∀ e, t.vouched? = some e → e ∈ en

/-- A step of a call is an exchange, and what goes out is in the hands of the call alone; or the
call passes the source of a transfer on. -/
theorem Task.trade_of_step {t t' : Task S} (sound : Sound en p t) (h : t.step v p = some (p', t')) :
    (p' = p ∧ HandsOver t t' ∧ t.settled = [] ∧ t'.settled = []) ∨
      t'.leases = t.leases ∧
        ∃ shed, Trade en p t.role p' t'.role shed ∧ t'.settled = shed.map (·.2) ++ t.settled := by
  -- most calls free no session, so what is settled are the spoils
  have spoiled {t t' : Task S} {shed : List (SessionKey × S)} (none : t.freed = [])
      (none' : t'.freed = []) (same : t'.spoils = shed.map (·.2) ++ t.spoils) :
      t'.settled = shed.map (·.2) ++ t.settled := by
    rw [settled, settled, none, none', List.append_nil, List.append_nil, same]
  cases t with
  | acquire a =>
    obtain ⟨u, hu, rfl⟩ := exists_of_map_step h
    obtain ⟨shed, trade, spoils⟩ := Acquire.trade_of_step sound.filed sound.ready hu
    exact .inr ⟨rfl, shed, trade, spoiled rfl rfl spoils⟩
  | giveBack kept r =>
    obtain ⟨u, hu, rfl⟩ := exists_of_map_step h
    obtain ⟨shed, trade, spoils⟩ :=
      Return.trade_of_step sound.filed sound.apart sound.mine sound.vouched hu
    exact .inr ⟨rfl, shed, trade, spoiled rfl rfl spoils⟩
  | transfer t =>
    obtain ⟨u, hu, rfl⟩ := exists_of_map_step h
    cases Transfer.steps_of_step hu with
    | giving around did =>
      -- what a transfer does to the pool is what its return of a lease does
      right
      cases around <;>
        obtain ⟨shed, trade, spoils⟩ :=
          Return.trade_of_step sound.filed sound.apart sound.mine sound.vouched did
      all_goals exact ⟨rfl, shed, trade, spoiled rfl rfl spoils⟩
    | @replaced old source given =>
      left
      cases given with
      | panic text =>
        refine ⟨rfl, .abandoned, rfl, ?_⟩
        obtain ⟨home, session, info⟩ := source
        cases session <;> rfl
      | _ => exact ⟨rfl, .settled, rfl, rfl⟩
    | @refused target given =>
      right
      cases given <;> exact ⟨rfl, [], .still rfl rfl rfl, rfl⟩
    | abandoned => exact .inr ⟨rfl, [], .still rfl rfl rfl, rfl⟩
  | surrender d =>
    obtain ⟨u, hu, rfl⟩ := exists_of_map_step h
    obtain ⟨shed, trade, freed⟩ := Surrender.trade_of_step sound.mine sound.vouched hu
    exact .inr ⟨rfl, shed, trade, freed⟩
  | cycle b =>
    obtain ⟨u, hu, rfl⟩ := exists_of_map_step h
    obtain ⟨shed, trade, spoils⟩ := Heartbeat.trade_of_step sound.filed hu
    exact .inr ⟨rfl, shed, trade, spoiled rfl rfl spoils⟩
  | work w =>
    obtain ⟨u, hu, rfl⟩ := exists_of_map_step h
    obtain ⟨shed, trade, spoils⟩ := Worker.trade_of_step sound.filed hu
    exact .inr ⟨rfl, shed, trade, spoiled rfl rfl spoils⟩
  | resize c =>
    obtain ⟨u, hu, rfl⟩ := exists_of_map_step h
    exact .inr ⟨rfl, [], Resize.trade_of_step hu, rfl⟩
  | shutDown d | drop d =>
    obtain ⟨u, hu, rfl⟩ := exists_of_map_step h
    obtain ⟨shed, trade, spoils⟩ := Shutdown.trade_of_step sound.filed hu
    exact .inr ⟨rfl, shed, trade, spoiled rfl rfl spoils⟩
  | returned => cases h

end Interleaving

/-! ## What the operations hear -/

theorem Status.closing?_embed {τ σ ε ε' α α' : Type} (inside : τ → σ) (status : Status S τ ε α) :
    (status.embed inside fun _ => (.running : Status S σ ε' α')).closing? = status.closing? := by
  cases status <;> rfl

theorem Acquire.spoils_of_answer {a a' : Acquire S} (h : a.status.answer reply = some a') :
    a.role.keys = [] ∧ a'.role.keys = [] ∧ a.spoils = a.status.closing?.toList ++ a'.spoils := by
  cases a with
  | create source =>
    cases reply with
    | created outcome =>
      cases h
      cases outcome <;> exact ⟨rfl, rfl, rfl⟩
    | _ => cases h
  | openNew session =>
    cases reply with
    | opened outcome =>
      cases h
      cases outcome <;> exact ⟨rfl, rfl, rfl⟩
    | _ => cases h
  | closeUnused session =>
    cases reply with
    | closed outcome =>
      cases h
      cases outcome with
      | value _ => exact ⟨rfl, rfl, rfl⟩
      | error e => exact e.elim
      | panic text => exact ⟨rfl, rfl, rfl⟩
    | _ => cases h
  | _ => cases h

theorem Release.spoils_of_answer {r r' : Release S} (h : r.status.answer reply = some r') :
    r.role.keys = [] ∧ r'.role.keys = [] ∧ r.spoils = r.status.closing?.toList ++ r'.spoils := by
  cases r with
  | close session closing =>
    cases reply with
    | closed outcome =>
      cases h
      cases outcome with
      | value _ => exact ⟨rfl, rfl, rfl⟩
      | error e => exact e.elim
      | panic text => exact ⟨rfl, rfl, rfl⟩
    | _ => cases h
  | _ => cases h

theorem Return.spoils_of_answer {r r' : Return S} (h : r.status.answer reply = some r') :
    r.role.keys = [] ∧ r'.role.keys = [] ∧ r.spoils = r.status.closing?.toList ++ r'.spoils := by
  cases r with
  | release r =>
    obtain ⟨u, hu, rfl⟩ := Status.answer_embed h
    rw [status, Status.closing?_embed]
    exact Release.spoils_of_answer hu
  | close session =>
    cases reply with
    | closed outcome =>
      cases h
      cases outcome with
      | value _ => exact ⟨rfl, rfl, rfl⟩
      | error e => exact e.elim
      | panic text => exact ⟨rfl, rfl, rfl⟩
    | _ => cases h
  | _ => cases h

theorem Transfer.spoils_of_answer {t t' : Transfer S} (h : t.status.answer reply = some t') :
    t.role.keys = [] ∧ t'.role.keys = [] ∧ t.spoils = t.status.closing?.toList ++ t'.spoils := by
  cases t with
  | done => cases reply <;> cases h
  | _ =>
    obtain ⟨u, hu, rfl⟩ := Status.answer_embed h
    rw [status, Status.closing?_embed]
    exact Return.spoils_of_answer hu

/-- A call that closes several sessions goes on with the next one, unless one breaks off. -/
theorem Heartbeat.spoils_of_answer {b b' : Heartbeat S} (h : b.status.answer reply = some b')
    (calm : ∀ text, reply ≠ .closed (.panic text)) :
    b.role.keys = [] ∧ b'.role.keys = [] ∧ b.spoils = b.status.closing?.toList ++ b'.spoils := by
  cases b with
  | probe statement todo verdicts =>
    cases todo with
    | nil => cases h
    | cons head rest =>
      cases reply with
      | queried outcome =>
        cases h
        exact ⟨rfl, rfl, rfl⟩
      | _ => cases h
  | evict verdicts evicted todo =>
    cases todo with
    | nil => cases h
    | cons session rest =>
      cases reply with
      | closed outcome =>
        cases h
        cases outcome with
        | value _ => exact ⟨rfl, rfl, rfl⟩
        | error e => exact e.elim
        | panic text => exact absurd rfl (calm text)
      | _ => cases h
  | _ => cases h

theorem Worker.spoils_of_answer {w w' : Worker S} (h : w.status.answer reply = some w')
    (calm : ∀ text, reply ≠ .closed (.panic text)) :
    w.role.keys = [] ∧ w'.role.keys = [] ∧ w.spoils = w.status.closing?.toList ++ w'.spoils := by
  cases w with
  | cycle nominal busy heartbeat =>
    obtain ⟨u, hu, rfl⟩ := Status.answer_embed h
    rw [status, Status.closing?_embed]
    exact Heartbeat.spoils_of_answer hu calm
  | _ => cases h

theorem Shutdown.spoils_of_answer {d d' : Shutdown S} (h : d.status.answer reply = some d')
    (calm : ∀ text, reply ≠ .closed (.panic text)) :
    d.role.keys = [] ∧ d'.role.keys = [] ∧ d.spoils = d.status.closing?.toList ++ d'.spoils := by
  cases d with
  | closeIdle n todo =>
    cases todo with
    | nil => cases h
    | cons session rest =>
      cases reply with
      | closed outcome =>
        cases h
        cases outcome with
        | value _ => exact ⟨rfl, rfl, rfl⟩
        | error e => exact e.elim
        | panic text => exact absurd rfl (calm text)
      | _ => cases h
  | _ => cases h

namespace Interleaving

/-- A call that hears from a session it was closing has that session off its hands, and no other
one. -/
theorem Task.settled_of_answer {t t' : Task S} (h : t.answer reply = some t')
    (calm : ∀ text, reply ≠ .closed (.panic text)) :
    t.role.keys = [] ∧ t'.role.keys = [] ∧ t.settled = t.closing?.toList ++ t'.settled := by
  have spoiled {t t' : Task S} (none : t.freed = []) (none' : t'.freed = [])
      (kept : t.role.keys = [] ∧ t'.role.keys = [] ∧ t.spoils = t.closing?.toList ++ t'.spoils) :
      t.role.keys = [] ∧ t'.role.keys = [] ∧ t.settled = t.closing?.toList ++ t'.settled := by
    refine ⟨kept.1, kept.2.1, ?_⟩
    rw [settled, settled, none, none', List.append_nil, List.append_nil, kept.2.2]
  cases t with
  | acquire a =>
    obtain ⟨u, hu, rfl⟩ := Option.map_eq_some_iff.1 h
    exact spoiled rfl rfl (Acquire.spoils_of_answer hu)
  | giveBack kept r =>
    obtain ⟨u, hu, rfl⟩ := Option.map_eq_some_iff.1 h
    exact spoiled rfl rfl (Return.spoils_of_answer hu)
  | transfer t =>
    obtain ⟨u, hu, rfl⟩ := Option.map_eq_some_iff.1 h
    exact spoiled rfl rfl (Transfer.spoils_of_answer hu)
  | surrender d =>
    obtain ⟨u, hu, rfl⟩ := Option.map_eq_some_iff.1 h
    exact (Surrender.not_answer hu).elim
  | cycle b =>
    obtain ⟨u, hu, rfl⟩ := Option.map_eq_some_iff.1 h
    exact spoiled rfl rfl (Heartbeat.spoils_of_answer hu calm)
  | work w =>
    obtain ⟨u, hu, rfl⟩ := Option.map_eq_some_iff.1 h
    exact spoiled rfl rfl (Worker.spoils_of_answer hu calm)
  | shutDown d | drop d =>
    obtain ⟨u, hu, rfl⟩ := Option.map_eq_some_iff.1 h
    exact spoiled rfl rfl (Shutdown.spoils_of_answer hu calm)
  | resize | returned => cases h

/-- Only a call that is closing a session hears that one is closed. -/
theorem Task.closing?_of_answer {t t' : Task S} (h : t.answer reply = some t') :
    (∃ outcome, reply = .closed outcome) ∨ t.closing? = none := by
  have apart {τ ε α : Type} {status : Status S τ ε α} {u : τ} (h : status.answer reply = some u) :
      (∃ outcome, reply = .closed outcome) ∨ status.closing? = none := by
    cases reply with
    | closed outcome => exact .inl ⟨outcome, rfl⟩
    | _ =>
      right
      cases status with
      | closing => cases h
      | _ => rfl
  cases t with
  | resize | returned => cases h
  | _ =>
    obtain ⟨u, hu, -⟩ := Option.map_eq_some_iff.1 h
    exact apart hu

/-- What a call is closing is one of the sessions that it is to close. -/
theorem Task.settled_of_closing? {t : Task S} {session : S} (h : t.closing? = some session) :
    ∃ rest, t.settled = session :: rest := by
  -- the session would be off its hands if it were closed now
  have hears {τ ε α : Type} {status : Status S τ ε α} (h : status.closing? = some session) :
      ∃ u, status.answer (.closed (.value ())) = some u := by
    cases status with
    | closing => exact ⟨_, rfl⟩
    | _ => cases h
  have answered : ∃ t', t.answer (.closed (.value ())) = some t' := by
    cases t with
    | resize | returned => cases h
    | _ =>
      obtain ⟨u, hu⟩ := hears h
      exact ⟨_, Option.map_eq_some_iff.2 ⟨u, hu, rfl⟩⟩
  obtain ⟨t', answered⟩ := answered
  obtain ⟨-, -, settled⟩ := Task.settled_of_answer answered (by simp)
  rw [h] at settled
  exact ⟨t'.settled, settled⟩

end Interleaving

end ConnectionPool
