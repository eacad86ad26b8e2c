import Mathlib.Data.List.Induction
import ConnectionPool.Builder

set_option autoImplicit false

/-! # What a builder gathers

A builder is told settings in any order, one at a time or all at once, and nothing is checked before
the pool is built. Seen setting by setting, the last word on each counts, and its default if there
is none (`Builder.get_ofRequests`).

Whole settings are checked setting by setting as well, in a fixed order (`Settings.flaw?_eq`). So a
builder is refused for the first setting on which the last word is flawed, and an earlier word on
that setting does not matter, whether it was flawed or not (`Builder.flaw?_ofRequests`). -/

namespace ConnectionPool

/-- What there is to be said about a pool. The two pauses of the heartbeat are said together. -/
inductive Setting where
  | maxConnections
  | acquireTimeout
  | heartbeatInterval
  | heartbeatQuery
  | heartbeatTicks
  | shutdownPoll
  | shutdownTimeout
  deriving DecidableEq, Repr

namespace Setting

/-- What can be said about a setting. -/
abbrev Value : Setting → Type
  | maxConnections => UInt32
  | heartbeatQuery => String
  | heartbeatTicks => Duration × Duration
  | shutdownTimeout => Option Duration
  | acquireTimeout | heartbeatInterval | shutdownPoll => Duration

/-- What is wrong with a setting by itself. -/
def flaw? : (k : Setting) → k.Value → Option Settings.Flaw
  | maxConnections, count => if count = 0 then some .noCapacity else none
  | heartbeatQuery, text => if Text.isBlank text then some .blankQuery else none
  | heartbeatTicks, (nominal, busy) =>
    if nominal.isZero || busy.isZero then some .zeroTick else none
  | shutdownPoll, interval => if interval.isZero then some .zeroShutdownPoll else none
  | acquireTimeout, _ | heartbeatInterval, _ | shutdownTimeout, _ => none

/-- The settings that are checked, in this order. -/
def checked : List Setting := [maxConnections, heartbeatQuery, heartbeatTicks, shutdownPoll]

/-- The other settings cannot be flawed. -/
theorem mem_checked {k : Setting} {value : k.Value} {flaw : Settings.Flaw}
    (flawed : k.flaw? value = some flaw) : k ∈ checked := by
  cases k with
  | acquireTimeout | heartbeatInterval | shutdownTimeout => cases flawed
  | _ => decide

end Setting

namespace Settings

def get (s : Settings) : (k : Setting) → k.Value
  | .maxConnections => s.maxConnections
  | .acquireTimeout => s.acquireTimeout
  | .heartbeatInterval => s.heartbeatInterval
  | .heartbeatQuery => s.heartbeatQuery
  | .heartbeatTicks => (s.heartbeatTick, s.busyTick)
  | .shutdownPoll => s.shutdownPoll
  | .shutdownTimeout => s.shutdownTimeout

/-- The word of a change on a setting. Each change has one on its own setting only. -/
def Change.word? : (k : Setting) → Change → Option k.Value
  | .maxConnections, .maxConnections count => some count
  | .acquireTimeout, .acquireTimeout timeout => some timeout
  | .heartbeatInterval, .heartbeatInterval interval => some interval
  | .heartbeatQuery, .heartbeatQuery text => some text
  | .heartbeatTicks, .heartbeatTicks nominal busy => some (nominal, busy)
  | .shutdownPoll, .shutdownPoll interval => some interval
  | .shutdownTimeout, .shutdownTimeout timeout => some (some timeout)
  | _, _ => none

/-- A change has its word on its own setting, and leaves the others as they are. -/
theorem get_change (s : Settings) (c : Change) (k : Setting) :
    (s.change c).get k = (c.word? k).getD (s.get k) := by
  cases c <;> cases k <;> rfl

/-- Settings are flawed by one setting at a time. -/
theorem flaw?_eq (s : Settings) :
    s.flaw? = Setting.checked.findSome? fun k => k.flaw? (s.get k) := by
  simp only [flaw?, Setting.checked, List.findSome?_cons, List.findSome?_nil, Setting.flaw?, get]
  by_cases capacity : s.maxConnections = 0
  · simp [capacity]
  by_cases query : Text.isBlank s.heartbeatQuery = true
  · simp [capacity, query]
  by_cases ticks : (s.heartbeatTick.isZero || s.busyTick.isZero) = true
  · simp [capacity, query, ticks]
  by_cases poll : s.shutdownPoll.isZero = true
  · simp [capacity, query, ticks, poll]
  · simp [capacity, query, ticks, poll]

end Settings

namespace Builder

/-- The word of a request on a setting. Whole settings have one on each. -/
def Request.word? (k : Setting) : Request → Option k.Value
  | .change c => c.word? k
  | .settings s => some (s.get k)
  | .source _ => none

def Request.source? : Request → Option Source
  | .source origin => some origin
  | .change _ | .settings _ => none

/-- The last word on a setting, or its default if there is none. -/
def lastWord (requests : List Request) (k : Setting) : k.Value :=
  (requests.reverse.findSome? (Request.word? k)).getD (Settings.get {} k)

/-- The first of the checked settings that is flawed by the last word on it. -/
def lastFlaw? (requests : List Request) : Option Settings.Flaw :=
  Setting.checked.findSome? fun k => k.flaw? (lastWord requests k)

theorem ofRequests_concat (requests : List Request) (r : Request) :
    ofRequests (requests ++ [r]) = (ofRequests requests).apply r := by
  simp [ofRequests]

theorem get_apply (b : Builder) (r : Request) (k : Setting) :
    (b.apply r).settings.get k = (r.word? k).getD (b.settings.get k) := by
  cases r with
  | change c => exact b.settings.get_change c k
  | settings s => rfl
  | source source => rfl

/-- A request has the last word on the settings that it speaks of. -/
theorem lastWord_concat (requests : List Request) (r : Request) (k : Setting) :
    lastWord (requests ++ [r]) k = (r.word? k).getD (lastWord requests k) := by
  rw [lastWord, List.reverse_concat, List.findSome?_cons]
  cases r.word? k <;> rfl

/-- A word counts if no later request speaks of the setting. -/
theorem lastWord_of_silent {before after : List Request} {r : Request} {k : Setting}
    {value : k.Value} (word : r.word? k = some value)
    (silent : ∀ later ∈ after, later.word? k = none) :
    lastWord (before ++ r :: after) k = value := by
  induction after using List.reverseRecOn with
  | nil => rw [lastWord_concat, word, Option.getD_some]
  | append_singleton after later ih =>
    have shorter : before ++ r :: (after ++ [later]) = (before ++ r :: after) ++ [later] := by simp
    have rest := ih fun x hx => silent x (List.mem_append_left _ hx)
    rw [shorter, lastWord_concat, silent later (by simp), Option.getD_none, rest]

theorem get_ofRequests (requests : List Request) (k : Setting) :
    (ofRequests requests).settings.get k = lastWord requests k := by
  induction requests using List.reverseRecOn with
  | nil => rfl
  | append_singleton requests r ih => rw [ofRequests_concat, get_apply, ih, lastWord_concat]

theorem source_ofRequests (requests : List Request) :
    (ofRequests requests).source = requests.reverse.findSome? Request.source? := by
  induction requests using List.reverseRecOn with
  | nil => rfl
  | append_singleton requests r ih =>
    rw [ofRequests_concat, List.reverse_concat, List.findSome?_cons]
    cases r with
    | source source => rfl
    | change c => exact ih
    | settings s => exact ih

theorem flaw?_ofRequests (requests : List Request) :
    (ofRequests requests).settings.flaw? = lastFlaw? requests := by
  rw [Settings.flaw?_eq, lastFlaw?]
  simp only [get_ofRequests]

theorem build_of_lastFlaw? {S : Type} {requests : List Request} {flaw : Settings.Flaw}
    (flawed : lastFlaw? requests = some flaw) (now : Instant) :
    ((ofRequests requests).build now : Except Error (Pool S)) =
      .error (.invalidSettings flaw.message) := by
  rw [← flaw?_ofRequests] at flawed
  simp [build, Pool.new, flawed]

/-- A builder that was given a flawed value, and no other one for that setting afterwards, is
refused, and for that value if nothing is wrong with the other settings. -/
theorem exists_build_eq_error {S : Type} {before after : List Request} {r : Request} {k : Setting}
    {value : k.Value} {flaw : Settings.Flaw} (word : r.word? k = some value)
    (silent : ∀ later ∈ after, later.word? k = none) (flawed : k.flaw? value = some flaw)
    (now : Instant) :
    ∃ first : Settings.Flaw,
      ((ofRequests (before ++ r :: after)).build now : Except Error (Pool S)) =
          .error (.invalidSettings first.message) ∧
        ((∀ other ≠ k, other.flaw? (lastWord (before ++ r :: after) other) = none) →
          first = flaw) := by
  have last : lastWord (before ++ r :: after) k = value := lastWord_of_silent word silent
  have some : (lastFlaw? (before ++ r :: after)).isSome = true := by
    rw [lastFlaw?, List.findSome?_isSome_iff]
    exact ⟨k, Setting.mem_checked flawed, by rw [last, flawed]; rfl⟩
  obtain ⟨first, found⟩ := Option.isSome_iff_exists.1 some
  refine ⟨first, build_of_lastFlaw? found now, fun others => ?_⟩
  obtain ⟨k', -, here⟩ := List.exists_of_findSome?_eq_some found
  by_cases same : k' = k
  · subst same
    rw [last, flawed] at here
    exact (Option.some.inj here).symm
  · rw [others k' same] at here
    cases here

/-- A cap of zero does not matter any more once whole settings were given, and a blank statement
given after them does. -/
example : lastFlaw? [.change (.maxConnections 0), .settings {}, .change (.heartbeatQuery " ")] =
    some .blankQuery := by
  decide +kernel

end Builder

end ConnectionPool
