import ConnectionPool.Scenario.Program

set_option autoImplicit false

/-! # Steps on threads

What the steps do that name a thread. -/

namespace ConnectionPool

namespace Scenario

namespace Program

/-- How long a thread is given before it is asked whether it has ended. -/
def grace : Duration := .ofMillis 30

/-- Whether a thread has ended, after a while. -/
def finished (name : String) : Program Answer := do
  sleep grace
  read fun w =>
    match w.threads[name]? with
    | none => .missing .thread name
    | some id => .flag (w.results.contains id)

/-- Wait for the end of a thread and take its reply. A thread that is to wait for its own end
panics; threads that wait for each other do so for ever. -/
def joinThread (id : ThreadId) : Program Reply := do
  if (← read (·.current)) = id then panic deadlock
  else
    loop () (fun w _ =>
      match w.results[id]? with
      | some reply => .finish w reply
      | none => .wait none) done

/-- Wait for the end of a thread that has a name. From now on nobody else can. -/
def join (name : String) : Program Answer := do
  match ← update (·.takeThread name) with
  | none => done (.missing .thread name)
  | some id =>
    let reply ← joinThread id
    modify fun w => { w with unjoined := w.unjoined - 1 }
    done (.reply reply)

/-- Wait for the end of all threads that have a name. -/
def joinAll : Program Unit :=
  awaiting fun w => w.threads.values.all (w.results.contains ·)

end Program

end Scenario

end ConnectionPool
