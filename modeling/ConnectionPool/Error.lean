import ConnectionPool.SessionKey
import ConnectionPool.Time.Text

set_option autoImplicit false

/-! # Errors

Why a request to the pool fails. A constructor is a cause, `message` is its wording, and each cause
belongs to at most one of two classes: it may go away by itself (`isRecoverable`), or the caller
made a mistake (`isMisuse`); see `not_recoverable_and_misuse`. -/

namespace ConnectionPool

/-- An error reported from outside the pool: its message, and the messages of the errors behind it,
nearest first. -/
structure Cause where
  message : String
  deeper : List String := []
  deriving DecidableEq, Repr, Inhabited

/-- A reason why the pool does not do what it was asked to do. -/
inductive Error where
  /-- No session came free within the time the caller was ready to wait. -/
  | timedOut (limit : Duration)
  /-- The source did not deliver a session, or the session could not be opened. -/
  | creationFailed (cause : Cause)
  /-- The session is not checked out from this pool. -/
  | notCheckedOut (key : SessionKey)
  /-- A lease was to take over the session of a lease from another pool. -/
  | foreignLease
  /-- The lease holds no session any more. -/
  | spentLease
  /-- The pool was shut down. -/
  | poolClosed
  /-- A session had to be made and there is nothing to make it with. -/
  | noSource
  /-- The settings are not valid. -/
  | invalidSettings (text : String)
  /-- The operating system refused a service. -/
  | system (text : String)
  deriving DecidableEq, Repr

namespace Error

/-- The wording of an error. -/
def message : Error → String
  | timedOut limit => "timed out after " ++ limit.text ++ " waiting for a pooled session"
  | creationFailed cause => "session factory failed: " ++ cause.message
  | notCheckedOut key => "session " ++ key.text ++ " is not checked out from this pool"
  | foreignLease => "cannot transfer a pooled session between pools"
  | spentLease => "pooled session handle has already been released"
  | poolClosed => "pool is closed"
  | noSource => "no session initializer configured"
  | invalidSettings text => "invalid pool configuration: " ++ text
  | system text => "IO error: " ++ text

/-- The name under which an error is reported. -/
def name : Error → String
  | timedOut _ => "AcquireTimeout"
  | creationFailed _ => "SessionFactory"
  | notCheckedOut _ => "NoSuchConnection"
  | foreignLease => "CrossPoolTransfer"
  | spentLease => "InvalidHandle"
  | poolClosed => "PoolClosed"
  | noSource => "NoSessionInitializer"
  | invalidSettings _ => "Config"
  | system _ => "Io"

/-- An error that carries no foreign text, as a record of its kind: its name and its contents. -/
def debug? : Error → Option String
  | e@(timedOut limit) => some (e.name ++ " \x7b timeout: " ++ limit.text ++ " \x7d")
  | e@(notCheckedOut key) => some (e.name ++ " \x7b id: " ++ key.debug ++ " \x7d")
  | creationFailed _ | invalidSettings _ | system _ => none
  | e => some e.name

/-- Whether the same request may succeed later. -/
def isRecoverable : Error → Bool
  | timedOut _ | creationFailed _ => true
  | _ => false

/-- Whether the request should not have been made. -/
def isMisuse : Error → Bool
  | notCheckedOut _ | foreignLease | spentLease => true
  | _ => false

/-- The messages of the errors behind this one, nearest first. -/
def sources : Error → List String
  | creationFailed cause => cause.message :: cause.deeper
  | system text => [text]
  | _ => []

theorem not_recoverable_and_misuse (e : Error) : ¬ (e.isRecoverable ∧ e.isMisuse) := by
  cases e <;> simp [isRecoverable, isMisuse]

end Error

end ConnectionPool
