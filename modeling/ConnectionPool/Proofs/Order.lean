import ConnectionPool.Trial.Walk
import ConnectionPool.Proofs.Books
import ConnectionPool.Proofs.Rows
import ConnectionPool.Proofs.Serials
import ConnectionPool.Proofs.Solo

set_option autoImplicit false

/-! # Walks in order

A walk is in order (`Walk.InOrder`) if its pool, its row, the sessions of the server and the counts
of both fit together, given what the walk has seen so far (`Walk.Log`). What carries the rest is
that every session has one place: the pool has it, a caller took it out, or it was closed
(`Walk.Kept.place`). A key stands for the session of the same number, since the pool is the only one
to ask the server.

One lemma for each thing that can happen to the pool and its server says that a walk stays in
order. -/

namespace ConnectionPool

open Interleaving (Filed Lent Moves Role)

/-! ## Places -/

namespace Pool

variable {S : Type} {p p' : Pool S} {cap : UInt32} {now : Instant} {key : SessionKey}
  {connected : S → Bool}

/-- A session that is lent has one place before and after. -/
theorem places_reuse {en : List (SessionKey × S)} {loan : Record S} (filed : Filed en p)
    (apart : ∀ key, p.places key ≤ 1) (lend : p.lend cap now = (p', .reuse loan)) (k : SessionKey) :
    p'.places k = p.places k := by
  obtain ⟨key, record, found, -, rfl, rfl⟩ := lend_eq_reuse lend
  have one := Roster.count_keys_of_some found
  have once := apart key
  simp only [places, (filed.idle key record found).own, Roster.count_keys_insert,
    Roster.count_keys_erase] at once ⊢
  split
  · next same =>
    subst same
    omega
  · rfl

/-- So has one that is taken back and is wanted. -/
theorem places_shelved (apart : p.places key ≤ 1)
    (taken : p.takeBack key connected now = some (p', none)) (k : SessionKey) :
    p'.places k = p.places k := by
  obtain ⟨record, found, rfl⟩ := takeBack_eq_shelved taken
  have one := Roster.count_keys_of_some found
  simp only [places, Roster.count_keys_insert, Roster.count_keys_erase] at apart ⊢
  split
  · next same =>
    subst same
    omega
  · rfl

/-- A session that is put into the pool gets its place. -/
theorem places_insert (record : Record S) (vacant : p.places key = 0) (k : SessionKey) :
    ({ p with active := p.active.insert key record } : Pool S).places k = p.places k + if k =
      key then 1 else 0 := by
  simp only [places, Roster.count_keys_insert] at vacant ⊢
  split
  · next same =>
    rw [same]
    omega
  · omega

/-- An active session that is taken out has no place any more. -/
theorem places_erase {record : Record S} (found : p.active.find? key = some record)
    (k : SessionKey) :
    ({ p with active := p.active.erase key } : Pool S).places k +
      (if k = key then 1 else 0) = p.places k := by
  have one := Roster.count_keys_of_some found
  simp only [places, Roster.count_keys_erase]
  split
  · next same =>
    subst same
    omega
  · rfl

end Pool

namespace Walk

/-! ## What a walk has seen -/

/-- The session that was taken out with an answer. -/
def Answer.detaches : Answer → List Serial
  | .detached session => [session]
  | _ => []

/-- Whether the server has refused a session. -/
def Answer.isRefusal : Answer → Bool
  | .failed (.creationFailed _) => true
  | _ => false

/-- The session that a step opens again. -/
def reopens (w : Walk) : Step → List Serial
  | .reopen n => (w.held[n % w.held.length]?).toList.flatMap (·.session.toList)
  | _ => []

/-- What a walk has seen so far, the latest first. -/
structure Log where
  detached : List Serial := []
  /-- How many requests the server has refused. -/
  refused : Nat := 0
  reopened : List Serial := []

def Log.after (g : Log) (w : Walk) (step : Step) : Log :=
  { detached := (w.step step).2.detaches ++ g.detached
    refused := g.refused + if (w.step step).2.isRefusal then 1 else 0
    reopened := w.reopens step ++ g.reopened }

/-- What is seen on a walk that goes on from here. -/
def log (g : Log) (w : Walk) : List Step → Log
  | [] => g
  | step :: rest => log (g.after w step) (w.step step).1 rest

/-! ## The invariant -/

/-- Where a session is, and how often it was opened and closed: the pool has it, or it was taken
out, or it was closed. -/
structure Kept (p : Pool Serial) (g : Log) (x : ServerSession) : Prop where
  place : p.places (Serial.key x.serial) + g.detached.count x.serial + x.closes.toNat = 1
  shelved : Serial.key x.serial ∈ p.idle.keys → x.connected = true
  dead : x.closes ≠ 0 → x.connected = false
  opens : x.opens = .ofNat (1 + g.reopened.count x.serial)

/-- What does not change about the pool of a walk. -/
structure Steady (p : Pool Serial) : Prop where
  isOpen : p.closed = false
  sourced : p.source = some .server
  silent : p.settings.heartbeatInterval.isZero = true
  running : p.stopRequested = false

/-- How many sessions were closed. -/
def discarded (srv : Server) : Nat := srv.sessions.countP fun x => x.closes != 0

/-- The counts of a pool and its server. -/
structure Counts (g : Log) (s : Solo) : Prop where
  reserved : s.pool.reserved = 0
  attempts : s.server.attempts = .ofNat (s.server.sessions.length + g.refused)
  created : s.pool.tally.created = .ofNat s.server.sessions.length
  closed : s.pool.tally.closed = .ofNat (discarded s.server)
  evictions : s.pool.tally.evictions = .ofNat (discarded s.server)
  total : s.pool.total + g.detached.length + discarded s.server = s.server.sessions.length

/-- A walk is in order, given what it has seen. -/
structure InOrder (g : Log) (s : Solo) (held : List (Lease Serial)) : Prop where
  steady : Steady s.pool
  counts : Counts g s
  numbered : s.server.Numbered
  counter : s.pool.nextKey = ⟨.ofNat (s.server.sessions.length + 1)⟩
  filed : Filed s.server.issued s.pool
  rested : ∀ key r, s.pool.idle.find? key = some r → r.standing = .idle
  row : Row s.pool held
  kept : ∀ x ∈ s.server.sessions, Kept s.pool g x
  known : ∀ serial ∈ g.detached ++ g.reopened, serial ∈ s.server.sessions.map (·.serial)

variable {g : Log} {s : Solo} {held rest : List (Lease Serial)} {l : Lease Serial}

theorem exists_session {srv : Server} {key : SessionKey} {session : Serial}
    (known : (key, session) ∈ srv.issued) :
    ∃ x ∈ srv.sessions, x.serial = session ∧ Serial.key x.serial = key := by
  obtain ⟨serial, drawn, same⟩ := List.mem_map.1 known
  obtain ⟨x, hx, rfl⟩ := List.mem_map.1 drawn
  cases same
  exact ⟨x, hx, rfl, rfl⟩

namespace InOrder

variable (h : InOrder g s held)
include h

/-- A key that has a place is that of a session. -/
theorem exists_session_of_places {key : SessionKey} (placed : 0 < s.pool.places key) :
    ∃ x ∈ s.server.sessions, Serial.key x.serial = key := by
  unfold Pool.places at placed
  by_cases active : 0 < s.pool.active.keys.count key
  · obtain ⟨r, found⟩ := Roster.find?_isSome_of_count active
    obtain ⟨x, hx, -, same⟩ := exists_session (h.filed.active key r found).known
    exact ⟨x, hx, same⟩
  · obtain ⟨r, found⟩ := Roster.find?_isSome_of_count (r := s.pool.idle) (k := key) (by omega)
    obtain ⟨x, hx, -, same⟩ := exists_session (h.filed.idle key r found).known
    exact ⟨x, hx, same⟩

theorem apart (key : SessionKey) : s.pool.places key ≤ 1 := by
  by_cases placed : 0 < s.pool.places key
  · obtain ⟨x, hx, rfl⟩ := h.exists_session_of_places placed
    have place := (h.kept x hx).place
    omega
  · omega

/-- A lent session has neither been taken out nor closed. -/
theorem exists_session_of_lent {key : SessionKey} {record : Record Serial}
    (found : s.pool.active.find? key = some record) :
    ∃ x ∈ s.server.sessions, x.serial = record.session ∧ Serial.key x.serial = key ∧ x.closes = 0 ∧
      g.detached.count x.serial = 0 ∧ s.pool.places key = 1 := by
  obtain ⟨x, hx, same, rfl⟩ := exists_session (h.filed.active key record found).known
  have place := (h.kept x hx).place
  have one := Roster.count_keys_of_some found
  have placed : 0 < s.pool.places (Serial.key x.serial) := by
    unfold Pool.places
    omega
  exact ⟨x, hx, same, rfl, UInt32.toNat_inj.1 (by simpa using by omega), by omega, by omega⟩

end InOrder

/-! ## Sessions that stay where they are -/

/-- A session is kept as it was if its place is the same. -/
theorem Kept.congr {p p' : Pool Serial} {x : ServerSession} (h : Kept p g x)
    (same : p'.places (Serial.key x.serial) = p.places (Serial.key x.serial))
    (idle : Serial.key x.serial ∈ p'.idle.keys → Serial.key x.serial ∈ p.idle.keys) : Kept p' g x :=
  ⟨same ▸ h.place, fun shelved => h.shelved (idle shelved), h.dead, h.opens⟩

/-- Nothing happens to any session, but the settings may change, and requests may be counted. -/
theorem InOrder.aside (h : InOrder g s held) {g' : Log} {s' : Solo} (steady : Steady s'.pool)
    (active : s'.pool.active = s.pool.active) (idle : s'.pool.idle = s.pool.idle)
    (counter : s'.pool.nextKey = s.pool.nextKey) (sessions : s'.server.sessions = s.server.sessions)
    (created : s'.server.created = s.server.created) (detached : g'.detached = g.detached)
    (reopened : g'.reopened = g.reopened) (counts : Counts g' s') : InOrder g' s' held where
  steady := steady
  counts := counts
  numbered :=
    ⟨by rw [sessions]; exact h.numbered.serials,
      by rw [sessions, created]; exact h.numbered.created⟩
  counter := by rw [counter, sessions]; exact h.counter
  filed := by
    have issued : s'.server.issued = s.server.issued := by rw [Server.issued, sessions]; rfl
    rw [issued]
    exact ⟨active ▸ h.filed.active, idle ▸ h.filed.idle⟩
  rested := idle ▸ h.rested
  row := h.row.congr active
  kept x hx := by
    have old := h.kept x (sessions ▸ hx)
    refine ⟨?_, ?_, old.dead, ?_⟩
    · rw [Pool.places, active, idle, detached]
      exact old.place
    · rw [idle]
      exact old.shelved
    · rw [reopened]
      exact old.opens
  known := by rw [detached, reopened, sessions]; exact h.known

/-- An idle session is lent. -/
theorem InOrder.reuse (h : InOrder g s held) {p' : Pool Serial}
    {loan : Record Serial} {cap : UInt32} {now now' : Instant}
    (lends : s.pool.lend cap now = (p', .reuse loan)) :
    InOrder g
      { s with
        pool := p'.count fun t => { t with checkouts := t.checkouts + 1 }
        now := now' } (held ++ [.issue 0 loan]) := by
  have moves : Moves ({ s with now } : Solo).view none s.pool (.poised 0 cap) p' (.loan loan) :=
    .reuse lends
  have filed := moves.filed h.filed (fun r hr => nomatch hr)
  have row := h.row.lend h.filed moves rfl rfl
    (fun key => by simpa [Role.recruits] using h.apart key) 0
  have places := Pool.places_reuse h.filed h.apart lends
  have total := Pool.total_reuse h.filed h.apart lends
  obtain ⟨key, record, found, -, rfl, rfl⟩ := Pool.lend_eq_reuse lends
  exact {
    steady := { h.steady with }
    counts := { h.counts with total := by rw [← h.counts.total]; exact congrArg (· + _ + _) total }
    numbered := h.numbered
    counter := h.counter
    filed := ⟨filed.active, filed.idle⟩
    rested := fun k r hr => by
      simp only [Pool.count, Roster.find?_erase] at hr
      split at hr
      · cases hr
      · exact h.rested k r hr
    row := row.congr rfl
    kept := fun x hx => (h.kept x hx).congr (places _) fun shelved => by
      rw [Pool.count, Roster.keys_filter_key] at shelved
      exact (List.mem_filter.1 shelved).1
    known := h.known }

/-- An active session is given back, and is wanted. -/
theorem InOrder.shelve (h : InOrder g s (l :: rest)) (few : s.server.sessions.length < UInt32.size)
    {p' : Pool Serial} {now now' : Instant}
    (taken : s.pool.takeBack l.info.key s.server.connected now = some (p', none)) :
    InOrder g { s with pool := p'.notify, now := now' } rest := by
  have moves : Moves ({ s with now } : Solo).view none s.pool (.claim l.info.key) p' .notice :=
    .takeBack taken
  have filed := moves.filed h.filed (fun r hr => nomatch hr)
  have row := h.row.giveUp h.filed moves rfl h.apart
  have places := Pool.places_shelved (h.apart _) taken
  have total := Pool.total_shelved (h.apart _) taken
  obtain ⟨record, found, rfl⟩ := Pool.takeBack_eq_shelved taken
  have connected := ((Pool.wanted_iff taken found).1 rfl).2
  obtain ⟨y, hy, same, own⟩ := exists_session (h.filed.active _ _ found).known
  rw [← same, h.numbered.connected_eq few hy] at connected
  exact {
    steady := { h.steady with }
    counts := { h.counts with total := by rw [← h.counts.total]; exact congrArg (· + _ + _) total }
    numbered := h.numbered
    counter := h.counter
    filed := ⟨filed.active, filed.idle⟩
    rested := fun k r hr => by
      simp only [Pool.notify, Roster.find?_insert] at hr
      split at hr
      · cases hr
        rfl
      · exact h.rested k r hr
    row := row.congr rfl
    kept := fun x hx => by
      have old := h.kept x hx
      refine ⟨?_, fun shelved => ?_, old.dead, old.opens⟩
      · rw [← old.place]
        exact congrArg (· + _ + _) (places _)
      · simp only [Pool.notify, Roster.mem_keys_iff, Roster.find?_insert] at shelved
        split at shelved
        · next hk =>
          have self : x = y :=
            h.numbered.eq_of_serial few hx hy (Serial.key_inj (hk.trans own.symm))
          rw [self]
          exact connected
        · exact old.shelved (Roster.mem_keys_iff.2 shelved)
    known := h.known }

/-- An active session is given back, and is closed because it is not connected. -/
theorem InOrder.discard (h : InOrder g s (l :: rest)) (few : s.server.sessions.length < UInt32.size)
    {p' : Pool Serial} {session : Serial} {now now' : Instant}
    (taken : s.pool.takeBack l.info.key s.server.connected now = some (p', some session)) :
    InOrder g
      { pool := (p'.count fun t => { t with
          closed := t.closed + 1, evictions := t.evictions + 1 }).notify
        server := s.server.modify session .disconnect
        now := now' } rest := by
  have moves : Moves ({ s with now } : Solo).view none s.pool (.claim l.info.key) p' .notice :=
    .takeBack taken
  have filed := moves.filed h.filed (fun r hr => nomatch hr)
  have row := h.row.giveUp h.filed moves rfl h.apart
  have total := Pool.total_rejected taken
  obtain ⟨record, found, rfl, rfl⟩ := Pool.takeBack_eq_rejected taken
  obtain ⟨y, hy, same, own, unclosed, undetached, placed⟩ := h.exists_session_of_lent found
  have places := Pool.places_erase found
  have keeps : ∀ x : ServerSession, x.disconnect.serial = x.serial := fun _ => rfl
  rw [← same]
  have length : (s.server.modify y.serial .disconnect).sessions.length = s.server.sessions.length :=
    List.length_map _
  have more : discarded (s.server.modify y.serial .disconnect) = discarded s.server + 1 := by
    obtain ⟨before, after, sessions, modified⟩ := h.numbered.exists_sessions_modify few hy
    rw [discarded, discarded, modified, sessions]
    simp only [List.countP_append, List.countP_cons, ServerSession.disconnect, unclosed]
    simp
    omega
  exact {
    steady := { h.steady with }
    counts := {
      reserved := h.counts.reserved
      attempts := by rw [length]; exact h.counts.attempts
      created := by rw [length]; exact h.counts.created
      closed := by
        rw [more, UInt64.ofNat_add, ← h.counts.closed]
        rfl
      evictions := by
        rw [more, UInt64.ofNat_add, ← h.counts.evictions]
        rfl
      total := by
        have old := h.counts.total
        rw [more, length]
        simp only [Pool.total, Pool.count, Pool.notify] at old total ⊢
        omega }
    numbered := h.numbered.modify keeps
    counter := by rw [length]; exact h.counter
    filed := by rw [Server.issued_modify keeps]; exact ⟨filed.active, filed.idle⟩
    rested := h.rested
    row := row.congr rfl
    kept := by
      have gone := places l.info.key
      rw [if_pos rfl, placed] at gone
      refine h.numbered.forall_modify few hy ⟨?_, fun shelved => ?_, fun _ => rfl,
        (h.kept y hy).opens⟩ fun x hx other => (h.kept x hx).congr ?_ id
      · have closes : y.disconnect.closes.toNat = 1 := by simp [ServerSession.disconnect, unclosed]
        show ({ s.pool with active := s.pool.active.erase l.info.key } : Pool Serial).places
          (Serial.key y.serial) + g.detached.count y.serial + _ = 1
        rw [own, undetached, closes]
        omega
      · have idle : 0 < s.pool.idle.keys.count (Serial.key y.serial) := List.count_pos_iff.2 shelved
        rw [own] at idle
        unfold Pool.places at gone
        simp only at gone
        omega
      · have stays := places (Serial.key x.serial)
        rw [if_neg fun at_ => other (Serial.key_inj (at_.trans own.symm))] at stays
        exact stays
    known := by rw [Server.serials_modify keeps]; exact h.known }

/-- An active session is taken out. -/
theorem InOrder.letGo (h : InOrder g s (l :: rest)) {p' : Pool Serial}
    {record : Record Serial} {now' : Instant} (found : s.pool.active.find? l.info.key = some record)
    (gone : s.pool.letGo l.info.key = some p') :
    InOrder { g with detached := record.session :: g.detached } { s with
      pool := p'.notify, now := now' } rest := by
  have moves : Moves s.view none s.pool (.claim l.info.key) p' .notice := .letGo gone
  have filed := moves.filed h.filed (fun r hr => nomatch hr)
  have row := h.row.giveUp h.filed moves rfl h.apart
  have total : p'.total + 1 = s.pool.total := Pool.total_letGo gone
  obtain ⟨y, hy, same, own, -⟩ := h.exists_session_of_lent found
  obtain ⟨-, -, rfl⟩ := Pool.letGo_eq_some gone
  have places (k : SessionKey) :
      ({ s.pool with active := s.pool.active.erase l.info.key } : Pool Serial).notify.places k +
        (if k = l.info.key then 1 else 0) = s.pool.places k := Pool.places_erase found k
  exact {
    steady := { h.steady with }
    counts := { h.counts with
      total := by
        have old := h.counts.total
        simp only [Pool.total, Pool.notify, List.length_cons] at old total ⊢
        omega }
    numbered := h.numbered
    counter := h.counter
    filed := ⟨filed.active, filed.idle⟩
    rested := h.rested
    row := row.congr rfl
    kept := fun x hx => by
      have old := h.kept x hx
      refine ⟨?_, old.shelved, old.dead, old.opens⟩
      have place := old.place
      rw [← places (Serial.key x.serial), ← own] at place
      rw [List.count_cons, ← same, ← own]
      by_cases at_ : x.serial = y.serial
      · rw [at_] at place ⊢
        simp only [if_true, beq_self_eq_true] at place ⊢
        omega
      · have other : ¬ Serial.key x.serial = Serial.key y.serial :=
          fun hk => at_ (Serial.key_inj hk)
        simpa [other, Ne.symm at_] using place
    known := fun serial hs => by
      rcases List.mem_cons.1 hs with rfl | hs
      · exact same ▸ List.mem_map_of_mem hy
      · exact h.known serial hs }

/-- A lent session has no place on the shelf. -/
theorem InOrder.not_shelved (h : InOrder g s held) {key : SessionKey} {record : Record Serial}
    (found : s.pool.active.find? key = some record) : key ∉ s.pool.idle.keys := by
  intro shelved
  have apart := h.apart key
  have one := Roster.count_keys_of_some found
  have idle := List.count_pos_iff.2 shelved
  unfold Pool.places at apart
  omega

/-- A lent session is killed, or opened again. -/
theorem InOrder.touch (h : InOrder g s held) (few : s.server.sessions.length < UInt32.size)
    {key : SessionKey} {record : Record Serial} (found : s.pool.active.find? key = some record)
    (f : ServerSession → ServerSession)
    (again : List Serial) (keeps : ∀ x, (f x).serial = x.serial)
    (closes : ∀ x, (f x).closes = x.closes)
    (own : ∀ serial ∈ again, serial = record.session)
    (opens : ∀ x, x.serial = record.session →
      (f x).opens = x.opens + .ofNat (again.count record.session)) :
    InOrder { g with reopened := again ++ g.reopened }
      { s with server := s.server.modify record.session f } held := by
  obtain ⟨y, hy, same, rfl, unclosed, -⟩ := h.exists_session_of_lent found
  rw [← same]
  have length : (s.server.modify y.serial f).sessions.length = s.server.sessions.length :=
    List.length_map _
  have equal : discarded (s.server.modify y.serial f) = discarded s.server := by
    rw [discarded, discarded, Server.modify, List.countP_map]
    refine List.countP_congr fun x _ => ?_
    simp only [Function.comp_apply]
    split
    · rw [closes]
    · rfl
  exact {
    steady := h.steady
    counts := by
      refine ⟨h.counts.reserved, ?_, ?_, ?_, ?_, ?_⟩ <;> simp only [length, equal]
      exacts [h.counts.attempts, h.counts.created, h.counts.closed,
        h.counts.evictions, h.counts.total]
    numbered := h.numbered.modify keeps
    counter := by rw [length]; exact h.counter
    filed := by rw [Server.issued_modify keeps]; exact h.filed
    rested := h.rested
    row := h.row
    kept := by
      have old := h.kept y hy
      refine h.numbered.forall_modify few hy ⟨?_, fun shelved => ?_, fun ended => ?_,
        ?_⟩ fun x hx other => ?_
      · rw [keeps, closes]
        exact old.place
      · rw [keeps] at shelved
        exact (h.not_shelved found shelved).elim
      · rw [closes, unclosed] at ended
        exact (ended rfl).elim
      · rw [opens y same, old.opens, keeps, List.count_append, ← UInt32.ofNat_add, same]
        congr 1
        omega
      · have none : again.count x.serial = 0 :=
          List.count_eq_zero.2 fun mem => other (same ▸ own _ mem)
        have old := h.kept x hx
        refine ⟨old.place, old.shelved, old.dead, ?_⟩
        rw [List.count_append, none, Nat.zero_add]
        exact old.opens
    known := fun serial hs => by
      rw [Server.serials_modify keeps]
      rcases List.mem_append.1 hs with hs | hs
      · exact h.known serial (List.mem_append_left _ hs)
      · rcases List.mem_append.1 hs with hs | hs
        · rw [own serial hs, ← same]
          exact List.mem_map_of_mem hy
        · exact h.known serial (List.mem_append_right _ hs) }

/-- The key that is drawn next goes with the number that the server draws next. -/
theorem InOrder.nextKey (h : InOrder g s held) (few : s.server.sessions.length + 1 < UInt32.size) :
    s.pool.nextKey = Serial.key (s.server.created + 1) := by
  have number : s.server.created + 1 = .ofNat (s.server.sessions.length + 1) := by
    rw [h.numbered.created, UInt32.ofNat_add]
    rfl
  rw [h.counter, number, Serial.key_ofNat few]

theorem InOrder.vacant (h : InOrder g s held) (few : s.server.sessions.length + 1 < UInt32.size) :
    s.pool.places s.pool.nextKey = 0 := by
  refine Nat.eq_zero_of_not_pos fun placed => ?_
  obtain ⟨x, hx, same⟩ := h.exists_session_of_places placed
  rw [h.nextKey few] at same
  exact h.numbered.fresh (by omega) hx (Serial.key_inj same)

/-- A session that was just made is filed under its key, and its lease is put into the row. -/
theorem InOrder.install (h : InOrder g s held) (vacant : s.pool.places s.pool.nextKey = 0)
    (issued : List (SessionKey × Serial)) (loan : Record Serial) (more : s.server.issued ⊆ issued)
    (lent : Lent issued s.pool.nextKey loan) :
    Filed issued { s.pool with active := s.pool.active.insert s.pool.nextKey loan } ∧
      Row { s.pool with active := s.pool.active.insert s.pool.nextKey loan }
        (held ++ [.issue 0 loan]) := by
  have moves : Moves s.view none s.pool (.recruit loan) (s.pool.install loan).1 (.loan loan) :=
    .install h.steady.isOpen
  have filed := moves.filed (h.filed.mono more) fun r hr => by
    cases hr
    exact lent.own ▸ lent
  have row := h.row.lend (h.filed.mono more) moves rfl rfl (fun key => by
    have apart := h.apart key
    show [loan.info.key].count key + s.pool.places key ≤ 1
    rw [lent.own, List.count_singleton]
    split
    · next same =>
      rw [← eq_of_beq same]
      omega
    · omega) 0
  have installed : (s.pool.install loan).1 = { s.pool.unreserve with
      active := s.pool.active.insert s.pool.nextKey loan } := by
    simp [Pool.install, h.steady.isOpen, lent.own]
  rw [installed] at filed row
  exact ⟨⟨filed.active, filed.idle⟩, row.congr rfl⟩

/-- The server makes a session, and it is lent. -/
theorem InOrder.make (h : InOrder g s held) (few : s.server.sessions.length + 1 < UInt32.size)
    (accepts : s.server.refusals = 0) {now now' : Instant} :
    InOrder g
      { pool := { s.pool with
          active := s.pool.active.insert s.pool.nextKey
            (.lent s.pool.nextKey (s.server.created + 1) now)
          nextKey := ⟨s.pool.nextKey.number + 1⟩
          tally := { s.pool.tally with
            created := s.pool.tally.created + 1, checkouts := s.pool.tally.checkouts + 1 } }
        server := s.server.create.1.modify (s.server.created + 1) .connect
        now := now' }
      (held ++ [.issue 0 (.lent s.pool.nextKey (s.server.created + 1) now)]) := by
  have fewer : s.server.sessions.length < UInt32.size := Nat.lt_of_succ_lt few
  have vacant := h.vacant few
  have sessions := Server.sessions_opened h.numbered fewer accepts
  have numbered := h.numbered.opened fewer accepts
  have attempts : (s.server.create.1.modify (s.server.created + 1) .connect).attempts =
      s.server.attempts + 1 := by
    simp [Server.create, accepts, Server.modify]
  generalize s.server.create.1.modify (s.server.created + 1) .connect = srv
    at sessions numbered attempts ⊢
  have issued : srv.issued = s.server.issued ++ [(s.pool.nextKey, s.server.created + 1)] := by
    rw [Server.issued, sessions, h.nextKey few]
    simp [Server.issued, ServerSession.connect]
  have length : srv.sessions.length = s.server.sessions.length + 1 := by
    rw [sessions, List.length_append]
    rfl
  have same : discarded srv = discarded s.server := by
    rw [discarded, sessions, List.countP_append]
    rfl
  have counter : (⟨s.pool.nextKey.number + 1⟩ : SessionKey) =
      ⟨.ofNat (srv.sessions.length + 1)⟩ := by
    rw [h.counter, length]
    exact congrArg SessionKey.mk (UInt64.ofNat_add _ 1).symm
  obtain ⟨filed, row⟩ :=
    h.install vacant srv.issued (.lent s.pool.nextKey (s.server.created + 1) now)
      (issued ▸ List.subset_append_left _ _)
      ⟨rfl, issued ▸ List.mem_append_right _ List.mem_cons_self, rfl⟩
  generalize Record.lent s.pool.nextKey (s.server.created + 1) now = loan at filed row ⊢
  have places := Pool.places_insert loan vacant
  have size := s.pool.active.size_insert s.pool.nextKey loan
  have unseen (seen : List Serial) (sub : seen ⊆ g.detached ++ g.reopened) :
      seen.count (s.server.created + 1) = 0 := by
    refine List.count_eq_zero.2 fun mem => ?_
    obtain ⟨x, hx, hs⟩ := List.mem_map.1 (h.known _ (sub mem))
    exact h.numbered.fresh fewer hx hs
  exact {
    steady := { h.steady with }
    counts := {
      reserved := h.counts.reserved
      attempts := by
        rw [attempts, h.counts.attempts, length, Nat.add_right_comm]
        exact (UInt32.ofNat_add _ 1).symm
      created := by
        rw [length, UInt64.ofNat_add, ← h.counts.created]
        rfl
      closed := by rw [same]; exact h.counts.closed
      evictions := by rw [same]; exact h.counts.evictions
      total := by
        have old := h.counts.total
        rw [same, length]
        unfold Pool.places at vacant
        simp only [Pool.total] at old ⊢
        omega }
    numbered := numbered
    counter := counter
    filed := ⟨filed.active, filed.idle⟩
    rested := h.rested
    row := row.congr rfl
    kept := fun x hx => by
      rw [sessions] at hx
      rcases List.mem_append.1 hx with hx | hx
      · have other : ¬ Serial.key x.serial = s.pool.nextKey := by
          rw [h.nextKey few]
          exact fun hk => h.numbered.fresh fewer hx (Serial.key_inj hk)
        refine (h.kept x hx).congr ((places _).trans ?_) id
        rw [if_neg other, Nat.add_zero]
      · obtain rfl := List.mem_singleton.1 hx
        refine ⟨?_, fun shelved => ?_, fun ended => (ended rfl).elim, ?_⟩
        · have place := places s.pool.nextKey
          rw [if_pos rfl, vacant] at place
          show Pool.places _ (Serial.key (s.server.created + 1)) +
            g.detached.count (s.server.created + 1) + 0 = 1
          rw [unseen g.detached (List.subset_append_left _ _), Nat.add_zero]
          exact (congrArg _ (h.nextKey few).symm).trans place
        · have idle : 0 < s.pool.idle.keys.count s.pool.nextKey := by
            rw [h.nextKey few]
            exact List.count_pos_iff.2 shelved
          unfold Pool.places at vacant
          omega
        · show (0 : UInt32) + 1 = .ofNat (1 + g.reopened.count (s.server.created + 1))
          rw [unseen g.reopened (List.subset_append_right _ _)]
          rfl
    known := fun serial hs => by
      rw [sessions, List.map_append]
      exact List.mem_append_left _ (h.known serial hs) }

end Walk

end ConnectionPool
