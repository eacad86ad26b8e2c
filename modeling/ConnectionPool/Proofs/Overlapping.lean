import Mathlib.Data.List.Nodup
import Mathlib.Data.List.Perm.Basic
import ConnectionPool.Proofs.Serials

set_option autoImplicit false

/-! # Requests to one server that overlap

Any number of callers ask one server for sessions, and any access of one request may come between
any two of another one (`Serving.Run`). A request is refused by a look at how many are still to be
refused and an exchange that lowers the number if nobody has changed it since; serial numbers are
drawn from a counter, and a session is registered some time after its number was drawn.

The books of the server are kept by the requests (`Serving.Booked`): the numbers that were drawn are
the first ones from one on, each once, and whatever is listed was registered by the request that
drew its number. No more requests are refused than were to be, and none is let through as long as
some are left to be refused (`Serving.Budgeted`). Both lists are known up to their order only:
requests register in any order, whatever their numbers. -/

namespace ConnectionPool

namespace Creation

/-! ## How far a request has come -/

/-- Whether the request was counted. -/
def counted : Creation → Bool
  | attempt => false
  | _ => true

/-- The serial number that the request has drawn. -/
def drawn? : Creation → Option Serial
  | register serial | done (.ok serial) => some serial
  | _ => none

/-- The serial number that the request was answered with. -/
def handedOut? : Creation → Option Serial
  | done (.ok serial) => some serial
  | _ => none

/-- Whether the request was refused. -/
def refused : Creation → Bool
  | done (.error _) => true
  | _ => false

/-- Whether the request was let through to be met. -/
def letThrough : Creation → Bool
  | number | register _ | done (.ok _) => true
  | _ => false

/-- Whether the request has ended. -/
def isDone : Creation → Bool
  | done _ => true
  | _ => false

/-! ## What a request can do -/

@[simp] theorem counted_seeing (n : UInt32) : (seeing n).counted = true := by
  unfold seeing
  split <;> rfl

@[simp] theorem drawn?_seeing (n : UInt32) : (seeing n).drawn? = none := by
  unfold seeing
  split <;> rfl

@[simp] theorem handedOut?_seeing (n : UInt32) : (seeing n).handedOut? = none := by
  unfold seeing
  split <;> rfl

/-- What a request does to the server at one access, the clock apart. -/
inductive Accesses (server : Server) : Creation → Server → Creation → Prop
  | counts : Accesses server .attempt { server with attempts := server.attempts + 1 } .readDelay
  | sleeps {until? : Option Instant} : Accesses server .readDelay server (.asleep until?)
  | hurries : Accesses server .readDelay server .refuse
  | wakes {until? : Option Instant} : Accesses server (.asleep until?) server .refuse
  | looks : Accesses server .refuse server (seeing server.refusals)
  /-- The number that was seen has changed meanwhile. -/
  | looksAgain {seen : UInt32} (changed : server.refusals ≠ seen) :
      Accesses server (.exchange seen) server (seeing server.refusals)
  | refuses :
      Accesses server (.exchange server.refusals) { server with refusals := server.refusals - 1 }
        (.done (.error .refused))
  | draws :
      Accesses server .number { server with created := server.created + 1 }
        (.register (server.created + 1))
  | registers {serial : Serial} : Accesses server (.register serial)
      { server with sessions := server.sessions ++ [{ serial }] } (.done (.ok serial))

theorem accesses_of_step {server server' : Server} {r r' : Creation} {now : Instant}
    (did : r.step now server = some (server', r')) : Accesses server r server' r' := by
  cases r with
  | attempt =>
    cases did
    exact .counts
  | readDelay =>
    simp only [step] at did
    split at did
    · cases did
      exact .hurries
    · cases did
      exact .sleeps
  | asleep until? =>
    simp only [step] at did
    split at did
    · cases did
      exact .wakes
    · cases did
  | refuse =>
    cases did
    exact .looks
  | exchange seen =>
    simp only [step] at did
    split at did
    · next same =>
      cases did
      subst same
      exact .refuses
    · next changed =>
      cases did
      exact .looksAgain changed
  | number =>
    cases did
    exact .draws
  | register serial =>
    cases did
    exact .registers
  | done result => cases did

end Creation

namespace Serving

/-! ## Interleavings -/

/-- A server, and the requests for sessions that were made to it, the ended ones included. -/
structure State where
  now : Instant := .start
  server : Server := {}
  requests : List Creation := []

/-- What happens next. -/
inductive Event where
  | pass (d : Duration)
  /-- Somebody asks for a session. -/
  | ask
  /-- A request comes to its next access. -/
  | access (request : Nat)
  /-- So many further requests are to be refused. -/
  | refuseNext (count : UInt32)
  | connectDelay (d : Duration)
  /-- Something happens to a session, which keeps its number. -/
  | change (serial : Serial) (f : ServerSession → ServerSession)
      (keeps : ∀ x, (f x).serial = x.serial)

namespace State

/-- No request is in progress. -/
def AtRest (s : State) : Prop := ∀ r ∈ s.requests, r.isDone = true

instance (s : State) : Decidable s.AtRest :=
  inferInstanceAs (Decidable (∀ r ∈ s.requests, r.isDone = true))

/-- The state after an event, if it can happen. How many requests are to be refused is only said
while none is in progress. -/
def act (s : State) : Event → Option State
  | .pass d => some { s with now := s.now.after d }
  | .ask => some { s with requests := s.requests ++ [.attempt] }
  | .access i => do
    let r ← s.requests[i]?
    let (server, r) ← r.step s.now s.server
    some { s with server, requests := s.requests.set i r }
  | .refuseNext count =>
    if s.AtRest then some { s with server := s.server.refuseNext count } else none
  | .connectDelay d => some { s with server := { s.server with connectDelay := d } }
  | .change serial f _ => some { s with server := s.server.modify serial f }

/-- The serial numbers that were handed out. -/
def handedOut (s : State) : List Serial := s.requests.filterMap Creation.handedOut?

end State

/-- The states and events that lead from a new server to a state, the latest first. -/
inductive Run : List (State × Event) → State → Prop
  | start (now : Instant) : Run [] { now }
  | next {past : List (State × Event)} {s s' : State} {e : Event} (run : Run past s)
      (act : s.act e = some s') : Run ((s, e) :: past) s'

/-- The latest word on how many requests are to be refused, and how many had been made by then. -/
def lastWord : List (State × Event) → UInt32 × Nat
  | [] => (0, 0)
  | (s, .refuseNext count) :: _ => (count, s.requests.length)
  | _ :: past => lastWord past

variable {past : List (State × Event)} {s s' : State} {e : Event}

/-! ## Scripts -/

/-- The run that follows a script from a state on, if everything in it can happen. -/
def follow : List (State × Event) → State → List Event → Option (List (State × Event) × State)
  | past, s, [] => some (past, s)
  | past, s, e :: rest =>
    match s.act e with
    | some s' => follow ((s, e) :: past) s' rest
    | none => none

theorem run_of_follow {past' : List (State × Event)} {script : List Event} (run : Run past s)
    (h : follow past s script = some (past', s')) : Run past' s' := by
  induction script generalizing past s with
  | nil =>
    cases h
    exact run
  | cons e rest ih =>
    simp only [follow] at h
    split at h
    · next s₁ act => exact ih (.next run act) h
    · cases h

/-! ## Requests that do not overlap -/

/-- The request that began last comes to its next access. -/
theorem follow_access {now : Instant} {server server' : Server}
    {before : List Creation} {r r' : Creation} {script : List Event}
    (did : r.step now server = some (server', r')) :
    follow past ⟨now, server, before ++ [r]⟩ (.access before.length :: script) =
      follow ((⟨now, server, before ++ [r]⟩, .access before.length) :: past) ⟨now, server',
        before ++ [r']⟩ script := by
  have act : (⟨now, server, before ++ [r]⟩ : State).act (.access before.length) =
      some ⟨now, server', before ++ [r']⟩ := by
    simp [State.act, did]
  rw [follow, act]

/-- Making a session in one go is what the accesses of a request come to that nobody comes between,
if there is no delay. -/
theorem exists_follow_create (past : List (State × Event)) (s : State)
    (prompt : s.server.connectDelay.isZero = true) :
    ∃ n past', follow past s (.ask :: List.replicate n (.access s.requests.length)) = some (past',
      { s with
        server := s.server.create.1, requests := s.requests ++ [.done s.server.create.2] }) := by
  let asked : Server := { s.server with attempts := s.server.attempts + 1 }
  have delay : Creation.readDelay.step s.now asked = some (asked, .refuse) := by
    simp [Creation.step, asked, prompt]
  by_cases none : s.server.refusals = 0
  · have look : Creation.refuse.step s.now asked = some (asked, .number) := by
      simp [Creation.step, Creation.seeing, asked, none]
    refine ⟨5, ?_⟩
    rw [follow, State.act]
    simp only [List.replicate_succ, List.replicate_zero]
    rw [follow_access rfl, follow_access delay, follow_access look, follow_access rfl,
      follow_access rfl, follow]
    have met : s.server.create = ({ asked with
        created := s.server.created + 1
        sessions := s.server.sessions ++ [{ serial := s.server.created + 1 }] },
        .ok (s.server.created + 1)) := by
      simp [Server.create, asked, none]
    rw [met]
    exact ⟨_, rfl⟩
  · have look : Creation.refuse.step s.now asked = some (asked, .exchange s.server.refusals) := by
      simp [Creation.step, Creation.seeing, asked, none]
    have exchange : (Creation.exchange s.server.refusals).step s.now asked =
        some ({ asked with refusals := s.server.refusals - 1 }, .done (.error .refused)) := by
      simp [Creation.step, asked]
    refine ⟨4, ?_⟩
    rw [follow, State.act]
    simp only [List.replicate_succ, List.replicate_zero]
    rw [follow_access rfl, follow_access delay, follow_access look, follow_access exchange, follow]
    have refused : s.server.create =
        ({ asked with refusals := s.server.refusals - 1 }, .error .refused) := by
      simp [Server.create, asked, none]
    rw [refused]
    exact ⟨_, rfl⟩

/-! ## The books of the server -/

/-- What the server has noted about the requests that were made. -/
structure Booked (server : Server) (requests : List Creation) : Prop where
  attempts : server.attempts = .ofNat (requests.countP Creation.counted)
  created : server.created = .ofNat (requests.filterMap Creation.drawn?).length
  /-- Numbers are drawn from one on, each once. -/
  drawn : (requests.filterMap Creation.drawn?).Perm
    ((List.range (requests.filterMap Creation.drawn?).length).map fun i => .ofNat (i + 1))
  listed : (server.sessions.map (·.serial)).Perm (requests.filterMap Creation.handedOut?)

namespace Booked

variable {server server' : Server} {requests requests' rest : List Creation}
  {r r' : Creation} {now : Instant}

theorem perm (h : Booked server requests) (same : requests.Perm requests') :
    Booked server requests' where
  attempts := by rw [h.attempts, same.countP_eq]
  created := by rw [h.created, (same.filterMap _).length_eq]
  drawn := by
    rw [← (same.filterMap Creation.drawn?).length_eq]
    exact (same.filterMap _).symm.trans h.drawn
  listed := h.listed.trans (same.filterMap _)

/-- Numbers do not change any more once they were drawn, and what is counted stays counted. -/
theorem of_same (h : Booked server (r :: rest)) (attempts : server'.attempts = server.attempts)
    (created : server'.created = server.created) (sessions : server'.sessions = server.sessions)
    (counted : r'.counted = r.counted) (drawn : r'.drawn? = r.drawn?)
    (handedOut : r'.handedOut? = r.handedOut?) :
    Booked server' (r' :: rest) where
  attempts := by
    rw [attempts, h.attempts]
    simp only [List.countP_cons, counted]
  created := by
    rw [created, h.created]
    simp only [List.filterMap_cons, drawn]
  drawn := by
    have numbers := h.drawn
    simp only [List.filterMap_cons, drawn] at numbers ⊢
    exact numbers
  listed := by
    have listed := h.listed
    rw [sessions]
    simp only [List.filterMap_cons, handedOut] at listed ⊢
    exact listed

/-- Whoever asks for a session has not come to the server yet. -/
theorem ask (h : Booked server requests) : Booked server (.attempt :: requests) where
  attempts := by
    rw [h.attempts, List.countP_cons_of_neg (by simp [Creation.counted])]
  created := h.created
  drawn := h.drawn
  listed := h.listed

/-- The next number is drawn. -/
theorem draw (h : Booked server (.number :: rest)) :
    Booked { server with created := server.created + 1 }
      (.register (server.created + 1) :: rest) := by
  have next : server.created + 1 = .ofNat ((rest.filterMap Creation.drawn?).length + 1) := by
    rw [h.created, UInt32.ofNat_add]
    rfl
  have numbers : (rest.filterMap Creation.drawn?).Perm
      ((List.range (rest.filterMap Creation.drawn?).length).map fun i => .ofNat (i + 1)) := h.drawn
  refine ⟨h.attempts, next, ?_, h.listed⟩
  show ((server.created + 1) :: rest.filterMap Creation.drawn?).Perm
    ((List.range ((server.created + 1) :: rest.filterMap Creation.drawn?).length).map
      fun i => .ofNat (i + 1))
  rw [next, List.length_cons, List.range_succ, List.map_append, List.map_singleton]
  exact (numbers.cons _).trans (List.perm_append_singleton _ _).symm

/-- A session is registered by the request that has drawn its number. -/
theorem register {serial : Serial} (h : Booked server (.register serial :: rest)) :
    Booked { server with sessions := server.sessions ++ [{ serial }] }
      (.done (.ok serial) :: rest) := by
  refine ⟨h.attempts, h.created, h.drawn, ?_⟩
  have listed : (server.sessions.map (·.serial)).Perm (rest.filterMap Creation.handedOut?) :=
    h.listed
  show ((server.sessions ++ [({ serial } : ServerSession)]).map (·.serial)).Perm
    (serial :: rest.filterMap Creation.handedOut?)
  rw [List.map_append, List.map_singleton]
  exact (List.perm_append_singleton _ _).trans (listed.cons _)

theorem step (h : Booked server (r :: rest)) (did : r.step now server = some (server', r')) :
    Booked server' (r' :: rest) := by
  cases Creation.accesses_of_step did with
  | counts =>
    refine ⟨?_, h.created, h.drawn, h.listed⟩
    have attempts := h.attempts
    simp only [List.countP_cons, Creation.counted, Bool.false_eq_true, if_false, if_true,
      Nat.add_zero] at attempts ⊢
    rw [attempts, UInt32.ofNat_add]
    rfl
  | sleeps => exact h.of_same rfl rfl rfl rfl rfl rfl
  | hurries => exact h.of_same rfl rfl rfl rfl rfl rfl
  | wakes => exact h.of_same rfl rfl rfl rfl rfl rfl
  | looks =>
    exact h.of_same rfl rfl rfl (Creation.counted_seeing _) (Creation.drawn?_seeing _)
      (Creation.handedOut?_seeing _)
  | looksAgain =>
    exact h.of_same rfl rfl rfl (Creation.counted_seeing _) (Creation.drawn?_seeing _)
      (Creation.handedOut?_seeing _)
  | refuses => exact h.of_same rfl rfl rfl rfl rfl rfl
  | draws => exact h.draw
  | registers => exact h.register

end Booked

/-! ## The requests that are to be refused -/

/-- What became of the number of requests to be refused since it was set. -/
structure Budgeted (count left : UInt32) (latest : List Creation) : Prop where
  spent : left.toNat + latest.countP Creation.refused = count.toNat
  /-- As long as requests are to be refused none is let through. -/
  through : left ≠ 0 → ∀ r ∈ latest, r.letThrough = false
  /-- Nobody who goes on to refuse a request has seen that none is to be refused. -/
  seen : ∀ r ∈ latest, r ≠ .exchange 0

namespace Budgeted

variable {count left : UInt32} {server server' : Server}
  {latest latest' rest : List Creation} {r r' : Creation} {now : Instant}

theorem perm (h : Budgeted count left latest) (same : latest.Perm latest') :
    Budgeted count left latest' where
  spent := by rw [← same.countP_eq, h.spent]
  through some r hr := h.through some r (same.mem_iff.2 hr)
  seen r hr := h.seen r (same.mem_iff.2 hr)

/-- Whoever does not refuse a request leaves the number alone, and is let through if it is zero. -/
theorem of_same (h : Budgeted count left (r :: rest)) (refused : r'.refused = r.refused)
    (through : left ≠ 0 → r.letThrough = false → r'.letThrough = false) (seen : r' ≠ .exchange 0) :
    Budgeted count left (r' :: rest) := by
  refine ⟨?_, ?_, ?_⟩
  · have spent := h.spent
    simp only [List.countP_cons, refused] at spent ⊢
    exact spent
  · intro some x hx
    rcases List.mem_cons.1 hx with rfl | hx
    · exact through some (h.through some r List.mem_cons_self)
    · exact h.through some x (List.mem_cons_of_mem _ hx)
  · intro x hx
    rcases List.mem_cons.1 hx with rfl | hx
    · exact seen
    · exact h.seen x (List.mem_cons_of_mem _ hx)

/-- Whoever asks for a session is neither refused nor let through yet. -/
theorem ask (h : Budgeted count left latest) : Budgeted count left (.attempt :: latest) := by
  refine ⟨?_, ?_, ?_⟩
  · rw [List.countP_cons_of_neg (by simp [Creation.refused])]
    exact h.spent
  · intro some x hx
    rcases List.mem_cons.1 hx with rfl | hx
    · rfl
    · exact h.through some x hx
  · intro x hx
    rcases List.mem_cons.1 hx with rfl | hx
    · simp
    · exact h.seen x hx

/-- Whoever sees how many are to be refused is let through only if there are none. -/
theorem look (h : Budgeted count left (r :: rest)) (refused : r.refused = false) :
    Budgeted count left (Creation.seeing left :: rest) := by
  unfold Creation.seeing
  by_cases none : left = 0
  · rw [if_pos none]
    exact h.of_same refused.symm (fun some _ => absurd none some) (by simp)
  · rw [if_neg none]
    exact h.of_same refused.symm (fun _ _ => rfl) (by simpa using none)

/-- One request is refused, and one less is to be refused. -/
theorem refuse (h : Budgeted count left (.exchange left :: rest)) :
    Budgeted count (left - 1) (.done (.error .refused) :: rest) := by
  have some : left ≠ 0 := fun none => h.seen _ List.mem_cons_self (by rw [none])
  have positive : 0 < left.toNat := by
    refine Nat.pos_of_ne_zero fun zero => some ?_
    exact UInt32.toNat_inj.1 zero
  refine ⟨?_, ?_, ?_⟩
  · have spent : left.toNat + rest.countP Creation.refused = count.toNat := h.spent
    have less : (left - 1).toNat = left.toNat - 1 := UInt32.toNat_sub_of_le _ _ (by
      rw [UInt32.le_iff_toNat_le]
      exact positive)
    simp only [List.countP_cons, Creation.refused, if_true]
    omega
  · intro _ x hx
    rcases List.mem_cons.1 hx with rfl | hx
    · rfl
    · exact h.through some x (List.mem_cons_of_mem _ hx)
  · intro x hx
    rcases List.mem_cons.1 hx with rfl | hx
    · simp
    · exact h.seen x (List.mem_cons_of_mem _ hx)

theorem step (h : Budgeted count server.refusals (r :: rest))
    (did : r.step now server = some (server', r')) :
    Budgeted count server'.refusals (r' :: rest) := by
  cases Creation.accesses_of_step did with
  | counts => exact h.of_same rfl (fun _ _ => rfl) (by simp)
  | sleeps => exact h.of_same rfl (fun _ _ => rfl) (by simp)
  | hurries => exact h.of_same rfl (fun _ _ => rfl) (by simp)
  | wakes => exact h.of_same rfl (fun _ _ => rfl) (by simp)
  | looks => exact h.look rfl
  | looksAgain => exact h.look rfl
  | refuses => exact h.refuse
  | draws => exact h.of_same rfl (fun _ through => by cases through) (by simp)
  | registers => exact h.of_same rfl (fun _ through => by cases through) (by simp)

end Budgeted

/-! ## In every run -/

/-- A request that comes to its next access takes its place among the others again. -/
theorem exists_perm_set {requests : List Creation} {i : Nat} {r : Creation}
    (found : requests[i]? = some r) :
    ∃ rest, requests.Perm (r :: rest) ∧ ∀ r', (requests.set i r').Perm (r' :: rest) := by
  obtain ⟨hlt, rfl⟩ := List.getElem?_eq_some_iff.1 found
  exact ⟨requests.eraseIdx i, (List.getElem_cons_eraseIdx_perm hlt).symm,
    fun r' => List.set_perm_cons_eraseIdx hlt r'⟩

theorem Run.booked (run : Run past s) : Booked s.server s.requests := by
  induction run with
  | start now => exact ⟨rfl, rfl, .refl _, .refl _⟩
  | @next past s s' e run act ih =>
    cases e with
    | pass d =>
      cases act
      exact ih
    | ask =>
      cases act
      exact ih.ask.perm (List.perm_append_singleton _ _).symm
    | access i =>
      obtain ⟨r, found, act⟩ := Option.bind_eq_some_iff.1 act
      obtain ⟨⟨server, r'⟩, did, act⟩ := Option.bind_eq_some_iff.1 act
      cases act
      obtain ⟨rest, before, after⟩ := exists_perm_set found
      exact ((ih.perm before).step did).perm (after r').symm
    | refuseNext count =>
      simp only [State.act] at act
      split at act
      · cases act
        exact ⟨ih.attempts, ih.created, ih.drawn, ih.listed⟩
      · cases act
    | connectDelay d =>
      cases act
      exact ⟨ih.attempts, ih.created, ih.drawn, ih.listed⟩
    | change serial f keeps =>
      cases act
      refine ⟨ih.attempts, ih.created, ih.drawn, ?_⟩
      rw [Server.serials_modify keeps]
      exact ih.listed

/-- The requests made before the latest word on refusals have ended, and those made since keep to
it. -/
theorem Run.budgeted (run : Run past s) :
    (lastWord past).2 ≤ s.requests.length ∧
      (∀ r ∈ s.requests.take (lastWord past).2, r.isDone = true) ∧
      Budgeted (lastWord past).1 s.server.refusals (s.requests.drop (lastWord past).2) := by
  induction run with
  | start now => exact ⟨Nat.le_refl _, by simp, ⟨rfl, by simp, by simp⟩⟩
  | @next past s s' e run act ih =>
    obtain ⟨le, ended, budgeted⟩ := ih
    cases e with
    | pass d =>
      cases act
      exact ⟨le, ended, budgeted⟩
    | ask =>
      cases act
      simp only [lastWord, List.take_append_of_le_length le, List.drop_append_of_le_length le,
        List.length_append]
      exact ⟨Nat.le_add_right_of_le le, ended,
        budgeted.ask.perm (List.perm_append_singleton _ _).symm⟩
    | access i =>
      obtain ⟨r, found, act⟩ := Option.bind_eq_some_iff.1 act
      obtain ⟨⟨server, r'⟩, did, act⟩ := Option.bind_eq_some_iff.1 act
      cases act
      -- a request that has ended comes to no more accesses
      have late : (lastWord past).2 ≤ i := by
        by_contra early
        have old : s.requests[i]? = (s.requests.take (lastWord past).2)[i]? :=
          (List.getElem?_take_of_lt (Nat.lt_of_not_le early)).symm
        have stopped := ended r (List.mem_of_getElem? (old ▸ found))
        cases r with
        | done => cases did
        | _ => cases stopped
      have latest : (s.requests.drop (lastWord past).2)[i - (lastWord past).2]? = some r := by
        rw [List.getElem?_drop, Nat.add_sub_cancel' late, found]
      obtain ⟨rest, before, after⟩ := exists_perm_set latest
      simp only [lastWord, List.length_set, List.take_set_of_le late, List.drop_set,
        if_neg (Nat.not_lt.2 late)]
      exact ⟨le, ended, ((budgeted.perm before).step did).perm (after r').symm⟩
    | refuseNext count =>
      simp only [State.act] at act
      split at act
      · next rest =>
        cases act
        refine ⟨Nat.le_refl _, fun r hr => rest r (List.mem_of_mem_take hr), ?_⟩
        show Budgeted count count (s.requests.drop s.requests.length)
        rw [List.drop_length]
        exact ⟨rfl, by simp, by simp⟩
      · cases act
    | connectDelay d =>
      cases act
      exact ⟨le, ended, budgeted⟩
    | change serial f keeps =>
      cases act
      exact ⟨le, ended, budgeted⟩

/-! ## Main result -/

/-- A word that stands for a number from one on, and not past a number of words. -/
theorem mem_numbers_iff {n : Nat} (few : n < UInt32.size) (serial : Serial) :
    serial ∈ (List.range n).map (fun i => UInt32.ofNat (i + 1)) ↔ 1 ≤ serial.toNat ∧
      serial.toNat ≤ n := by
  rw [List.mem_map]
  constructor
  · rintro ⟨i, hi, rfl⟩
    have less := List.mem_range.1 hi
    rw [UInt32.toNat_ofNat_of_lt' (by omega)]
    omega
  · intro ⟨positive, le⟩
    refine ⟨serial.toNat - 1, List.mem_range.2 (by omega), ?_⟩
    rw [Nat.sub_add_cancel positive, UInt32.ofNat_toNat]

theorem nodup_numbers {n : Nat} (few : n < UInt32.size) :
    ((List.range n).map fun i => UInt32.ofNat (i + 1)).Nodup := by
  refine List.Nodup.map_on (fun i hi j hj same => ?_) List.nodup_range
  have hi := List.mem_range.1 hi
  have hj := List.mem_range.1 hj
  have numbers := congrArg UInt32.toNat same
  rw [UInt32.toNat_ofNat_of_lt' (by omega), UInt32.toNat_ofNat_of_lt' (by omega)] at numbers
  omega

namespace State

variable (s : State)

/-- Whoever was handed a serial number has drawn it. -/
theorem handedOut_sublist : s.handedOut.Sublist (s.requests.filterMap Creation.drawn?) := by
  unfold handedOut
  induction s.requests with
  | nil => exact .slnil
  | cons r rest ih =>
    cases handed : r.handedOut? with
    | none =>
      rw [List.filterMap_cons_none handed]
      cases drawn : r.drawn? with
      | none =>
        rw [List.filterMap_cons_none drawn]
        exact ih
      | some serial =>
        rw [List.filterMap_cons_some drawn]
        exact ih.cons _
    | some serial =>
      have drawn : r.drawn? = some serial := by
        unfold Creation.handedOut? at handed
        split at handed
        · exact handed
        · cases handed
      rw [List.filterMap_cons_some handed, List.filterMap_cons_some drawn]
      exact ih.cons_cons _

variable {s}

/-- At rest every number that was drawn was handed out. -/
theorem AtRest.handedOut_eq (rest : s.AtRest) :
    s.handedOut = s.requests.filterMap Creation.drawn? := by
  refine List.filterMap_congr fun r hr => ?_
  have ended := rest r hr
  unfold Creation.isDone at ended
  split at ended
  · next result => cases result <;> rfl
  · cases ended

end State

/-- A request that has ended was met or refused. -/
theorem length_of_isDone {requests : List Creation} (ended : ∀ r ∈ requests, r.isDone = true) :
    (requests.filterMap Creation.handedOut?).length + requests.countP Creation.refused =
      requests.length := by
  induction requests with
  | nil => rfl
  | cons r rest ih =>
    have shorter := ih fun r hr => ended r (List.mem_cons_of_mem _ hr)
    cases r with
    | done result =>
      cases result with
      | ok serial =>
        have handed : Creation.handedOut? (.done (.ok serial)) = some serial := rfl
        rw [List.filterMap_cons_some handed, List.countP_cons_of_neg (by simp [Creation.refused])]
        simp only [List.length_cons]
        omega
      | error e =>
        have unmet : Creation.handedOut? (.done (.error e)) = none := rfl
        rw [List.filterMap_cons_none unmet, List.countP_cons_of_pos rfl]
        simp only [List.length_cons]
        omega
    | _ => cases ended _ List.mem_cons_self

/-- As many requests are refused as were to be, or all if fewer were made. -/
theorem Budgeted.refused_eq {count left : UInt32} {latest : List Creation}
    (h : Budgeted count left latest) (ended : ∀ r ∈ latest, r.isDone = true) :
    latest.countP Creation.refused = min count.toNat latest.length := by
  have spent := h.spent
  by_cases none : left = 0
  · have most := List.countP_le_length (p := Creation.refused) (l := latest)
    rw [none] at spent
    simp only [UInt32.toNat_zero] at spent
    omega
  · have all : latest.countP Creation.refused = latest.length := by
      refine List.countP_eq_length.2 fun r hr => ?_
      have isEnded := ended r hr
      have stopped := h.through none r hr
      cases r with
      | done result =>
        cases result with
        | ok serial => cases stopped
        | error e => rfl
      | _ => cases isEnded
    omega

/-- What can be told of the requests that were made, at any time and while none is in progress. -/
structure Reliable (past : List (State × Event)) (s : State) : Prop where
  /-- No two callers have been handed the same number. -/
  distinct : s.handedOut.Nodup
  /-- Whoever was handed a number finds its session. -/
  found : ∀ serial ∈ s.handedOut, ∃ session, s.server.find? serial = some session ∧
    session.serial = serial
  /-- Of the requests made since the latest word on refusals so many were refused as that said, or
  all of them. -/
  refused : s.AtRest → (s.requests.drop (lastWord past).2).countP Creation.refused =
    min (lastWord past).1.toNat (s.requests.drop (lastWord past).2).length
  attempts : s.AtRest → s.server.attempts.toNat = s.requests.length ∧
    s.server.attempts.toNat = s.server.created.toNat + s.requests.countP Creation.refused
  serials : s.AtRest → ∀ serial, serial ∈ s.handedOut ↔
    1 ≤ serial.toNat ∧ serial.toNat ≤ s.server.created.toNat

/-- The numbers that were drawn, as long as words can tell them apart. -/
theorem Run.mem_drawn_iff (run : Run past s) (few : s.requests.length < UInt32.size) :
    s.server.created.toNat = (s.requests.filterMap Creation.drawn?).length ∧
      (s.requests.filterMap Creation.drawn?).Nodup ∧ ∀ serial,
        serial ∈ s.requests.filterMap Creation.drawn? ↔ 1 ≤ serial.toNat ∧
        serial.toNat ≤ s.server.created.toNat := by
  have booked := run.booked
  have fewer : (s.requests.filterMap Creation.drawn?).length < UInt32.size :=
    Nat.lt_of_le_of_lt (List.length_filterMap_le _ _) few
  have created : s.server.created.toNat = (s.requests.filterMap Creation.drawn?).length := by
    rw [booked.created, UInt32.toNat_ofNat_of_lt' fewer]
  refine ⟨created, booked.drawn.nodup_iff.2 (nodup_numbers fewer), fun serial => ?_⟩
  rw [booked.drawn.mem_iff, mem_numbers_iff fewer, created]

/-- Whoever was handed a number was entered in the list before. -/
theorem Run.exists_session (run : Run past s) {serial : Serial} (handed : serial ∈ s.handedOut) :
    ∃ session, s.server.find? serial = some session ∧ session.serial = serial := by
  obtain ⟨session, listed, same⟩ := List.mem_map.1 (run.booked.listed.mem_iff.2 handed)
  have some : (s.server.find? serial).isSome = true :=
    List.find?_isSome.2 ⟨session, listed, by simpa using same⟩
  obtain ⟨x, found⟩ := Option.isSome_iff_exists.1 some
  exact ⟨x, found, by simpa using List.find?_some found⟩

/-- However the accesses of requests come between each other, and whatever happens to sessions
meanwhile. -/
theorem requests_reliable (run : Run past s) (few : s.requests.length < UInt32.size) :
    Reliable past s := by
  obtain ⟨created, nodup, drawn⟩ := run.mem_drawn_iff few
  have booked := run.booked
  refine ⟨nodup.sublist s.handedOut_sublist, fun serial handed => run.exists_session handed,
    ?refused, ?attempts, ?serials⟩
  case refused =>
    intro rest
    exact run.budgeted.2.2.refused_eq fun r hr => rest r (List.mem_of_mem_drop hr)
  case attempts =>
    intro rest
    have all : s.requests.countP Creation.counted = s.requests.length := by
      refine List.countP_eq_length.2 fun r hr => ?_
      have stopped := rest r hr
      cases r with
      | done => rfl
      | _ => cases stopped
    have attempts : s.server.attempts.toNat = s.requests.length := by
      rw [booked.attempts, all, UInt32.toNat_ofNat_of_lt' few]
    have parts := length_of_isDone rest
    have handed : s.requests.filterMap Creation.handedOut? = s.requests.filterMap Creation.drawn? :=
      rest.handedOut_eq
    rw [handed, ← created] at parts
    exact ⟨attempts, by omega⟩
  case serials =>
    intro rest serial
    rw [rest.handedOut_eq]
    exact drawn serial

/-- The first one of three requests sees that one is to be refused, but the second one is. The first
one goes on to draw its number before the third one does, and registers its session after it. -/
def contending : List Event :=
  List.flatten [[.refuseNext 1, .ask, .ask, .ask], List.replicate 3 (.access 0),
    List.replicate 4 (.access 1), List.replicate 2 (.access 0),
    List.replicate 5 (.access 2), [.access 0]]

theorem requests_reliable_of_contending :
    ∃ past s, Run past s ∧ s.requests.length < UInt32.size ∧ s.AtRest ∧ lastWord past = (1, 0) ∧
      s.server.attempts = 3 ∧ s.server.created = 2 ∧ s.handedOut = [1, 2] ∧ Reliable past s := by
  have h : ((follow [] {} contending).any fun r => decide
      (r.2.requests.length < UInt32.size ∧ r.2.AtRest ∧ lastWord r.1 = (1, 0) ∧
        r.2.server.attempts = 3 ∧ r.2.server.created = 2 ∧ r.2.handedOut = [1, 2])) = true := by
    decide +kernel
  obtain ⟨⟨past, s⟩, followed, h⟩ := (Option.any_eq_true _ _).1 h
  obtain ⟨few, rest, word, attempts, created, handed⟩ := of_decide_eq_true h
  have run := run_of_follow (.start .start) followed
  exact ⟨past, s, run, few, rest, word, attempts, created, handed, requests_reliable run few⟩

/-! ## The list of sessions -/

/-- Every number up to the count of sessions is listed once, or is about to be registered. -/
theorem listed_or_registering (run : Run past s) (few : s.requests.length < UInt32.size) :
    (s.server.sessions.map (·.serial)).Nodup ∧ ∀ serial : Serial,
      1 ≤ serial.toNat → serial.toNat ≤ s.server.created.toNat →
        (∃ session, s.server.find? serial = some session) ∨ .register serial ∈ s.requests := by
  obtain ⟨-, nodup, drawn⟩ := run.mem_drawn_iff few
  refine ⟨run.booked.listed.nodup_iff.2 (nodup.sublist s.handedOut_sublist),
    fun serial positive le => ?_⟩
  obtain ⟨r, hr, has⟩ := List.mem_filterMap.1 ((drawn serial).2 ⟨positive, le⟩)
  unfold Creation.drawn? at has
  split at has
  · cases has
    exact .inr hr
  · cases has
    have handed : serial ∈ s.handedOut := List.mem_filterMap.2 ⟨_, hr, rfl⟩
    obtain ⟨session, found, -⟩ := run.exists_session handed
    exact .inl ⟨session, found⟩
  · cases has

/-- Sessions need not be listed in the order of their numbers, and one that counts may not be listed
yet. -/
theorem exists_listed_late :
    (∃ past s, Run past s ∧ s.server.sessions.map (·.serial) = [2, 1]) ∧
      ∃ past s, Run past s ∧ s.server.created = 2 ∧ s.server.find? 1 = none := by
  constructor
  · have h : ((follow [] {} contending).any fun r => r.2.server.sessions.map (·.serial) == [2, 1]) =
        true := by
      decide +kernel
    obtain ⟨⟨past, s⟩, followed, h⟩ := (Option.any_eq_true _ _).1 h
    exact ⟨past, s, run_of_follow (.start .start) followed, by simpa using h⟩
  · -- just before the first request registers its session
    have h : ((follow [] {} contending.dropLast).any fun r =>
        decide (r.2.server.created = 2 ∧ r.2.server.find? 1 = none)) = true := by
      decide +kernel
    obtain ⟨⟨past, s⟩, followed, h⟩ := (Option.any_eq_true _ _).1 h
    exact ⟨past, s, run_of_follow (.start .start) followed, of_decide_eq_true h⟩

end Serving

end ConnectionPool
