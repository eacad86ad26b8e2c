import ConnectionPool.Scenario.World

set_option autoImplicit false

/-! # Programs of threads

What a thread still has to do: a sequence of accesses to the world, each of which nothing comes
between. A program may break off with a panic, which `attempt` catches. Programs only say what is to
be done; whose turn it is, and how time passes, is the scheduler's business. -/

namespace ConnectionPool

namespace Scenario

/-- What a loop does next. -/
inductive Turn (σ β : Type) where
  /-- It goes on with another state. -/
  | next (w : World) (s : σ)
  /-- It has to wait, until the given instant at the latest. -/
  | wait (until? : Option Instant)
  /-- It has ended. -/
  | finish (w : World) (b : β)

/-- What a thread still has to do. -/
inductive Program (α : Type) : Type 1 where
  | done (result : α)
  | panic (text : String)
  /-- One access to the world. -/
  | access {β : Type} (f : World → World × β) (next : β → Program α)
  /-- Accesses to the world in a loop. -/
  | loop {σ β : Type} (s : σ) (turn : World → σ → Turn σ β) (next : β → Program α)
  /-- An operation on a pool. -/
  | operate {τ ε β : Type} [Stepwise Serial τ ε β] (pool : PoolId) (t : τ)
      (next : Outcome ε β → Program α)
  /-- Steps of the scenario, taken in order. -/
  | play (steps : List Step) (next : List Reply → Program α)

namespace Program

variable {α β : Type}

/-- One program after the other. -/
def bind : Program α → (α → Program β) → Program β
  | done a, k => k a
  | panic text, _ => panic text
  | access f next, k => access f fun b => (next b).bind k
  | loop s turn next, k => loop s turn fun b => (next b).bind k
  | operate pool t next, k => operate pool t fun o => (next o).bind k
  | play steps next, k => play steps fun r => (next r).bind k

instance : Monad Program where
  pure := done
  bind := bind

/-- A program that ends with the text of the panic if there is one. -/
def attempt : Program α → Program (Except String α)
  | done a => done (.ok a)
  | panic text => done (.error text)
  | access f next => access f fun b => (next b).attempt
  | loop s turn next => loop s turn fun b => (next b).attempt
  | operate pool t next => operate pool t fun o => (next o).attempt
  | play steps next => play steps fun r => (next r).attempt

/-- Look at the world. -/
def read (f : World → β) : Program β := access (fun w => (w, f w)) done

/-- Change the world. -/
def modify (f : World → World) : Program Unit := access (fun w => (f w, ())) done

/-- Change the world and look at it in one go. -/
def update (f : World → World × β) : Program β := access f done

/-- Wait until the world is as told. -/
def awaiting (ready : World → Bool) : Program Unit :=
  loop () (fun w _ => if ready w then .finish w () else .wait none) done

/-- Do something with the rosters of a pool held, as soon as they can be. -/
def holding (pool : PoolId) (h : Hold) (f : World → World × β) : Program β :=
  loop ()
    (fun w _ =>
      match w.approach pool h with
      | .pass w =>
        let (w, b) := f w
        .finish w b
      | .lineUp w => .next w ()
      | .wait => .wait none)
    done

/-- Let time pass. -/
def sleep (d : Duration) : Program Unit := do
  let until? ← read fun w => w.now.after? d
  loop () (fun w _ => if until?.any (· ≤ w.now) then .finish w () else .wait until?) done

/-- Carry an operation out. -/
def operation {τ ε : Type} [Stepwise Serial τ ε β] (pool : PoolId) (t : τ) :
    Program (Outcome ε β) :=
  operate pool t done

/-- Go on with the result of something that cannot fail. -/
def sure : Outcome Empty β → Program β
  | .value b => done b
  | .panic text => panic text

@[simp] theorem bind_done (a : α) (k : α → Program β) : (done a).bind k = k a := rfl

@[simp] theorem bind_panic (text : String) (k : α → Program β) :
    (panic text : Program α).bind k = panic text := rfl

@[simp] theorem attempt_panic (text : String) :
    (panic text : Program α).attempt = done (.error text) := rfl

end Program

end Scenario

end ConnectionPool
