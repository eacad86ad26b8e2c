set_option autoImplicit false

/-! # Outcomes

How something ends that calls on somebody else's program. Besides its result and its errors there is
a third way: the other program may break off with a panic, which is passed on to the caller. Where
nothing can fail the type of errors is empty, and only the first and the third way are left. -/

namespace ConnectionPool

/-- How something ended that may fail, or break off with a panic. -/
inductive Outcome (ε α : Type) where
  | value (result : α)
  | error (reason : ε)
  | panic (text : String)
  deriving DecidableEq, Repr

namespace Outcome

variable {ε ε' α β : Type}

instance [Inhabited α] : Inhabited (Outcome ε α) := ⟨.value default⟩

/-- The same outcome with another result. -/
def map (f : α → β) : Outcome ε α → Outcome ε β
  | value a => value (f a)
  | error e => error e
  | panic text => panic text

/-- The outcome of something that cannot break off, with another error. -/
def ofExcept (f : ε → ε') : Except ε α → Outcome ε' α
  | .ok a => value a
  | .error e => error (f e)

/-- Whether it broke off. -/
def isPanic : Outcome ε α → Bool
  | panic _ => true
  | _ => false

@[simp] theorem isPanic_map (f : α → β) (o : Outcome ε α) : (o.map f).isPanic = o.isPanic := by
  cases o <;> rfl

@[simp] theorem isPanic_ofExcept (f : ε → ε') (r : Except ε α) :
    (ofExcept f r).isPanic = false := by
  cases r <;> rfl

end Outcome

end ConnectionPool
