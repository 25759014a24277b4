import SqlDriver.Backend.Status
import SqlDriver.Duration

/-!
The journal of a backend: everything it was asked and everything it did, oldest first. It is only
ever added to, and all statistics are read off it.
-/

namespace SqlDriver

/-- Something that was asked of a backend, or that it did. -/
inductive Entry where
  /-- A request was made, on the session of that number if it is not for a new one; whether it is
  refused does not matter. -/
  | requested (call : CallKind) (session : Option Nat) (deadline : Duration)
  /-- The session of that number was handed out. -/
  | acquired (session : Nat)
  | released (session : Nat)
  /-- A data statement was accepted, and left the transaction `opened` open on its session. -/
  | accepted (session : Nat) (text : String) (control : TransactionControl)
      (opened : Option TransactionId)
  /-- The result stream of a data statement came to an event. Streams are numbered from zero by
  their statements. -/
  | emitted (stream : Nat)
  /-- The result stream of a data statement came to its end. -/
  | completed (stream : Nat)
  /-- A schema statement was carried out. -/
  | schemaChanged (session : Nat) (text : String)
  | begun (session : Nat) (transaction : TransactionId) (mode : TransactionMode)
  | committed (session : Nat) (transaction : TransactionId)
  | rolledBack (session : Nat) (transaction : TransactionId)
deriving DecidableEq, Repr

/-- Everything that happened at a backend, oldest first. -/
abbrev Journal := List Entry

/-! ## Kinds of entries -/

def Entry.isAcquired : Entry → Bool
  | .acquired _ => true
  | _ => false

def Entry.isReleased : Entry → Bool
  | .released _ => true
  | _ => false

def Entry.isAccepted : Entry → Bool
  | .accepted _ _ _ _ => true
  | _ => false

def Entry.isSchemaChanged : Entry → Bool
  | .schemaChanged _ _ => true
  | _ => false

def Entry.isBegun : Entry → Bool
  | .begun _ _ _ => true
  | _ => false

def Entry.isEmitted : Entry → Bool
  | .emitted _ => true
  | _ => false

def Entry.isCompleted : Entry → Bool
  | .completed _ => true
  | _ => false

/-- Whether a transaction identifier was issued: by a request to begin a transaction, or by a
statement that starts one and leaves it open. -/
def Entry.issues : Entry → Bool
  | .begun _ _ _ => true
  | .accepted _ _ (.start _ commit) _ => !commit
  | _ => false

def Entry.request? : Entry → Option (CallKind × Duration)
  | .requested call _ deadline => some (call, deadline)
  | _ => none

def Entry.statement? : Entry → Option String
  | .accepted _ text _ _ => some text
  | .schemaChanged _ text => some text
  | _ => none

def Entry.control? : Entry → Option TransactionControl
  | .accepted _ _ control _ => some control
  | _ => none

def Entry.committed? : Entry → Option TransactionId
  | .committed _ transaction => some transaction
  | _ => none

def Entry.rolledBack? : Entry → Option TransactionId
  | .rolledBack _ transaction => some transaction
  | _ => none

/-! ## Statistics -/

/-- The number of sessions handed out. -/
def Journal.acquired (j : Journal) : Nat := j.countP Entry.isAcquired

/-- The number of sessions given back. -/
def Journal.released (j : Journal) : Nat := j.countP Entry.isReleased

/-- The number of sessions handed out and not given back. -/
def Journal.openSessions (j : Journal) : Nat := Journal.acquired j - Journal.released j

/-- The number of data statements accepted. -/
def Journal.dataStatements (j : Journal) : Nat := j.countP Entry.isAccepted

/-- The number of schema statements carried out. -/
def Journal.schemaStatements (j : Journal) : Nat := j.countP Entry.isSchemaChanged

/-- The number of requests to begin a transaction that were carried out. -/
def Journal.begins (j : Journal) : Nat := j.countP Entry.isBegun

/-- The number of events that result streams came to. -/
def Journal.eventsEmitted (j : Journal) : Nat := j.countP Entry.isEmitted

/-- The number of result streams that came to their end. -/
def Journal.streamsCompleted (j : Journal) : Nat := j.countP Entry.isCompleted

/-- The number of transaction identifiers issued. -/
def Journal.issued (j : Journal) : Nat := j.countP Entry.issues

/-- All requests, with their deadlines. -/
def Journal.requests (j : Journal) : List (CallKind × Duration) := j.filterMap Entry.request?

/-- The deadline of the last request of a kind. -/
def Journal.lastDeadline? (j : Journal) (call : CallKind) : Option Duration :=
  ((Journal.requests j).reverse.find? fun request => request.1 = call).map Prod.snd

/-- The texts of all statements. -/
def Journal.statements (j : Journal) : List String := j.filterMap Entry.statement?

/-- What each data statement said about its transaction. -/
def Journal.controls (j : Journal) : List TransactionControl := j.filterMap Entry.control?

/-- The transactions committed by request. -/
def Journal.committed (j : Journal) : List TransactionId := j.filterMap Entry.committed?

/-- The transactions rolled back by request. -/
def Journal.rolledBack (j : Journal) : List TransactionId := j.filterMap Entry.rolledBack?

end SqlDriver
