import SqlDriver.Query.Fault
import SqlDriver.Backend.Status
import SqlDriver.Backend.ResultSet

/-!
What can go wrong with a call on a connection. A batch that fails keeps the results of the rows
before the failing one, and the error of that row decides what class of error it is.
-/

namespace SqlDriver

/-- A call that the state of the connection does not allow. -/
inductive StateFault where
  | schemaQueryInTransaction
  | settingsChangeInTransaction
  | closed
deriving DecidableEq, Repr

def StateFault.name : StateFault → String
  | .schemaQueryInTransaction => "SchemaQueryInTransaction"
  | .settingsChangeInTransaction => "SettingsChangeInTransaction"
  | .closed => "Closed"

/-- The error of that name. -/
def StateFault.ofName? (name : String) : Option StateFault :=
  [StateFault.schemaQueryInTransaction, .settingsChangeInTransaction, .closed].find? fun e =>
    e.name = name

def StateFault.message : StateFault → String
  | .schemaQueryInTransaction => "schema query inside active transaction"
  | .settingsChangeInTransaction =>
    "cannot change isolation/read-only inside active transaction"
  | .closed => "connection is closed"

/-- An error of a call on a connection. -/
inductive DriverError where
  | query (error : QueryError)
  | state (error : StateFault)
  | backend (error : BackendError)
  /-- A row of a batch failed, counted from zero, after the rows before it had run. -/
  | batch (row : Nat) (completed : List QueryResult) (source : DriverError)
deriving Repr

def DriverError.message (labels : Labels) : DriverError → String
  | .query error => error.message
  | .state error => "Invalid connection state: " ++ error.message
  | .backend error => error.message labels
  | .batch row completed source =>
    "Batch failed at row " ++ toString row ++ " after " ++ toString completed.length ++
      " completed row(s): " ++ source.message labels

/-- The name of what went wrong. -/
def DriverError.name : DriverError → String
  | .query error => error.name
  | .state error => error.name
  | .backend _ => "Backend"
  | .batch _ _ _ => "PartialBatch"

/-- The classes of errors. -/
inductive ErrorKind where
  /-- The query text is at fault. -/
  | grammar
  /-- The connection is in the wrong state. -/
  | state
  /-- A parameter is at fault. -/
  | argument
  /-- The backend refused. -/
  | backend
deriving DecidableEq, Repr

def ErrorKind.name : ErrorKind → String
  | .grammar => "Grammar"
  | .state => "State"
  | .argument => "Argument"
  | .backend => "Backend"

def DriverError.kind : DriverError → ErrorKind
  | .query error => if error.isGrammar then .grammar else .argument
  | .state _ => .state
  | .backend _ => .backend
  | .batch _ _ source => source.kind

/-- The refusal behind an error. -/
def DriverError.refusal? : DriverError → Option BackendError
  | .backend error => some error
  | .batch _ _ source => source.refusal?
  | _ => none

/-- How a call came out. -/
inductive Outcome (α : Type) where
  | done (value : α)
  | failed (error : DriverError)
  /-- The call was held up and given up. -/
  | cancelled
deriving Repr

/-- The outcome with its value changed. -/
def Outcome.map {α β : Type} (f : α → β) : Outcome α → Outcome β
  | .done value => .done (f value)
  | .failed error => .failed error
  | .cancelled => .cancelled

end SqlDriver
