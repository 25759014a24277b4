import SqlDriver.Transaction.Basic

/-!
Why a backend refuses a request.
-/

namespace SqlDriver

/-- The status of a refusal. -/
inductive Status where
  | badRequest
  | unauthorized
  | notFound
  | preconditionFailed
  | aborted
  | unavailable
  | overloaded
  | timeout
  | badSession
  | sessionExpired
  | sessionBusy
  | internal
deriving DecidableEq, Repr

def Status.name : Status → String
  | .badRequest => "BadRequest"
  | .unauthorized => "Unauthorized"
  | .notFound => "NotFound"
  | .preconditionFailed => "PreconditionFailed"
  | .aborted => "Aborted"
  | .unavailable => "Unavailable"
  | .overloaded => "Overloaded"
  | .timeout => "Timeout"
  | .badSession => "BadSession"
  | .sessionExpired => "SessionExpired"
  | .sessionBusy => "SessionBusy"
  | .internal => "Internal"

def Status.all : List Status :=
  [.badRequest, .unauthorized, .notFound, .preconditionFailed, .aborted, .unavailable, .overloaded,
    .timeout, .badSession, .sessionExpired, .sessionBusy, .internal]

/-- The status of that name. -/
def Status.ofName? (name : String) : Option Status :=
  Status.all.find? fun status => status.name = name

/-- The status of a JSON form, which is its name. -/
def Status.ofJson? (document : Json) : Option Status :=
  document.name?.bind Status.ofName?

/-- Whether the same request may succeed when it is made again. -/
def Status.isRetryable : Status → Bool
  | .aborted => true
  | .unavailable => true
  | .overloaded => true
  | .badSession => true
  | .sessionBusy => true
  | _ => false

/-- Whether the session that the request was made on is of no more use. -/
def Status.isSessionLost : Status → Bool
  | .badSession => true
  | .sessionExpired => true
  | _ => false

/-- The kinds of request that a backend records and can be told to refuse. -/
inductive CallKind where
  | acquire
  | dataStatement
  /-- The end of the result stream of a data statement. -/
  | streamTail
  | schemaStatement
  | begin
  | commit
  | rollback
deriving DecidableEq, Repr

def CallKind.name : CallKind → String
  | .acquire => "Acquire"
  | .dataStatement => "DataStatement"
  | .streamTail => "StreamTail"
  | .schemaStatement => "SchemaStatement"
  | .begin => "Begin"
  | .commit => "Commit"
  | .rollback => "Rollback"

def CallKind.all : List CallKind :=
  [.acquire, .dataStatement, .streamTail, .schemaStatement, .begin, .commit, .rollback]

/-- The kind of that name. -/
def CallKind.ofName? (name : String) : Option CallKind :=
  CallKind.all.find? fun kind => kind.name = name

/-- Why a request was refused. -/
inductive Refusal where
  /-- A reason in the backend's own words. -/
  | stated (message : String)
  /-- The backend was told to refuse a request of this kind. -/
  | injected (call : CallKind)
  /-- The backend was told to end a result stream with an error. -/
  | injectedStream
  /-- The transaction is not the one open on the session of that number. -/
  | noSuchTransaction (transaction : TransactionId) (session : Nat)
  /-- A result stream ended without giving back the session it held. -/
  | leaseLost
deriving DecidableEq, Repr

/-- The name of the session of a number. -/
def sessionName (number : Nat) : String := "session-" ++ toString number

def Refusal.message (labels : Labels) : Refusal → String
  | .stated message => message
  | .injected call => "injected " ++ call.name ++ " failure"
  | .injectedStream => "injected stream failure"
  | .noSuchTransaction transaction session =>
    "transaction " ++ transaction.text labels ++ " not found on " ++ sessionName session
  | .leaseLost => "result stream lost its session lease"

/-- A refused request. -/
structure BackendError where
  status : Status
  refusal : Refusal
deriving DecidableEq, Repr

def BackendError.isRetryable (e : BackendError) : Bool := e.status.isRetryable

def BackendError.message (labels : Labels) (e : BackendError) : String :=
  "Backend error [" ++ e.status.name ++ "]: " ++ e.refusal.message labels

def BackendError.description (labels : Labels) (e : BackendError) : String :=
  "BackendError \x7b status: " ++ e.status.name ++ ", message: " ++
    Text.quoted (e.refusal.message labels) ++ " \x7d"

end SqlDriver
