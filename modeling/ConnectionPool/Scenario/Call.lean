import ConnectionPool.Scenario.Program

set_option autoImplicit false

/-! # Calls to a server

A call to a server is first noted as an event. Then the hook that was queued for it runs, if there
is one: its steps are taken inside the call, and if it is meant to, the call panics. Only after that
the server does its work. -/

namespace ConnectionPool

namespace Scenario

namespace Program

/-- Note a call and take the hook that was queued for it. -/
def announce (pool : PoolId) (event : Event) (moment : Moment) (session : Serial) :
    Program (Option Hook) :=
  update fun w =>
    match w.sites[pool]? with
    | some s =>
      let (s, hook) := s.takeHook moment session
      (w.modifySite pool fun _ => { s with events := event :: s.events }, hook)
    | none => (w, none)

/-- Run a hook inside a call. -/
def runHook (hook : Hook) : Program Unit := do
  let replies ← play hook.steps done
  modify (·.reportHook (.mk hook.moment hook.session replies))
  match hook.panic with
  | some text => panic text
  | none => done ()

/-- A call: the event, the hook, and then the work of the server. -/
def call {ε β : Type} (pool : PoolId) (event : Event) (moment : Moment) (session : Serial)
    (work : Program (Outcome ε β)) : Program (Outcome ε β) := do
  let result ← attempt do
    match ← announce pool event moment session with
    | some hook => runHook hook
    | none => done ()
    work
  match result with
  | .ok outcome => done outcome
  | .error text => done (.panic text)

/-- One access of a request for a session. -/
def creationTurn (pool : PoolId) (w : World) (c : Creation) :
    Turn Creation (Except ServerError Serial) :=
  match c, w.sites[pool]? with
  | .done result, _ => .finish w result
  | _, none => .finish w (.error .refused)
  | c, some s =>
    match c.step w.now s.server with
    | some (server, c) => .next (w.modifyServer pool fun _ => server) c
    | none => .wait c.wake?

/-- Ask a source for a session. A server may hand it out opened. -/
def create (pool : PoolId) : Source → Program (Outcome Cause Serial)
  | .refusing text => done (.error { message := text })
  | .server =>
    call pool .create .create 0 do
      let result ← loop Creation.attempt (creationTurn pool) done
      if let .ok session := result then
        modify fun w => w.modifySite pool fun s =>
          if s.preopened then { s with server := s.server.modify session .connect } else s
      done (ServerError.outcome result)

/-- Open a session. -/
def connect (pool : PoolId) (session : Serial) : Program (Outcome Cause Unit) :=
  call pool (.connect session) .connect session do
    update fun w =>
      match (w.sites[pool]?).map (·.openRefusals) with
      | some (n + 1) =>
        (w.modifySite pool fun s => { s with openRefusals := n },
          .error { message := "open refused" })
      | _ => (w.modifyServer pool (·.modify session .connect), .value ())

/-- Close a session. -/
def disconnect (pool : PoolId) (session : Serial) : Program (Outcome Empty Unit) :=
  call pool (.disconnect session) .disconnect session do
    modify fun w => w.modifyServer pool (·.modify session .disconnect)
    done (.value ())

/-- One access of a statement. -/
def statementTurn (pool : PoolId) (session : Serial) (w : World) (c : Statement) :
    Turn Statement (Except ServerError Unit) :=
  match c, w.sites[pool]? with
  | .done result, _ => .finish w result
  | _, none => .finish w (.error (.notConnected session))
  | c, some s =>
    match c.step w.now s.server session with
    | some (server, c) => .next (w.modifyServer pool fun _ => server) c
    | none => .wait c.wake?

/-- Execute a statement on a session. -/
def execute (pool : PoolId) (session : Serial) (statement : String) :
    Program (Outcome Cause Unit) :=
  call pool (.execute session statement) .execute session do
    let result ← loop (Statement.note statement) (statementTurn pool session) done
    done (ServerError.outcome result)

end Program

end Scenario

end ConnectionPool
