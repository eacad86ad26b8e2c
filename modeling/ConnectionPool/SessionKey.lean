set_option autoImplicit false

/-! # Names of sessions

A session has two names. Its *serial number* is given by the server that made it, its *key* by the
pool that owns it; keys are drawn from a counter, so within one pool a later session has a greater
key. The pool knows sessions by their keys alone, and hands the sessions themselves on unread: what
kind of thing they are is a parameter of the pool, and the serial numbers of a server are one
kind. -/

namespace ConnectionPool

/-- The number by which its server knows a session. -/
abbrev Serial := UInt32

/-- The number by which its pool knows a session. -/
structure SessionKey where
  number : UInt64
  deriving DecidableEq, Repr, Inhabited

namespace SessionKey

instance : LT SessionKey := ⟨fun a b => a.number < b.number⟩
instance (a b : SessionKey) : Decidable (a < b) :=
  inferInstanceAs (Decidable (a.number < b.number))

theorem lt_def (a b : SessionKey) : a < b ↔ a.number < b.number := Iff.rfl

protected theorem lt_irrefl (a : SessionKey) : ¬ a < a := UInt64.lt_irrefl a.number

protected theorem lt_trans {a b c : SessionKey} (hab : a < b) (hbc : b < c) : a < c :=
  UInt64.lt_trans hab hbc

protected theorem ne_of_lt {a b : SessionKey} (h : a < b) : a ≠ b := by
  rintro rfl
  exact SessionKey.lt_irrefl a h

/-- Of two keys one is the smaller, unless they are the same. -/
theorem lt_of_not_lt_of_ne {a b : SessionKey} (h : ¬ a < b) (hne : a ≠ b) : b < a := by
  cases a; cases b
  simp only [lt_def, ne_eq, mk.injEq, UInt64.lt_iff_toNat_lt, ← UInt64.toNat_inj] at *
  omega

/-- The key as messages show it. -/
def text (k : SessionKey) : String := "#" ++ toString k.number

/-- The key as a record of its kind. -/
def debug (k : SessionKey) : String := "SessionId(" ++ toString k.number ++ ")"

end SessionKey

end ConnectionPool
