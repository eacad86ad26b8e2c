import ConnectionPool.Scenario.Keeping

set_option autoImplicit false

/-! # Steps on servers

What the steps do that control a server. They reach the server of a pool also after the pool was
dropped. -/

namespace ConnectionPool

namespace Scenario

namespace Program

/-- Change a session that exists. -/
def changeSession (pool : PoolId) (session : Serial) (f : ServerSession → ServerSession) :
    Program Answer :=
  update fun w =>
    match (w.sites[pool]?).bind (·.server.find? session) with
    | some _ => (w.modifyServer pool (·.modify session f), .done)
    | none => (w, .missing .session (toString session))

/-- Look at a session that exists. -/
def readSession (pool : PoolId) (session : Serial) (f : ServerSession → Answer) : Program Answer :=
  readSite pool fun _ s =>
    match s.server.find? session with
    | some found => f found
    | none => .missing .session (toString session)

/-- Change what surrounds a pool. -/
def changeSite (pool : PoolId) (f : Site → Site) : Program Answer := do
  modify (·.modifySite pool f)
  done .done

/-- A step on the server of a pool. -/
def onServer (pool : PoolId) : ServerCommand → Program Answer
  | .kill session => changeSession pool session .kill
  | .failQueries session fail => changeSession pool session fun s => { s with failing := fail }
  | .queryDelay session d => changeSession pool session fun s => { s with queryDelay := d }
  | .refuseNext n => changeSite pool fun s => { s with server := s.server.refuseNext n }
  | .refuseOpens n => changeSite pool fun s => { s with openRefusals := n }
  | .preopened value => changeSite pool fun s => { s with preopened := value }
  | .inspect session => readSession pool session .session
  | .countOf session text => readSession pool session fun s => .count (s.countOf text)

end Program

end Scenario

end ConnectionPool
