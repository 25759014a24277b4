import SqlDriver.Text.Quoted
import SqlDriver.Value.Wire

/-!
Transactions as a driver sees them: their identifiers, the modes they run in, and what every data
statement says about the transaction it wants to run in.

A backend chooses the identifiers it issues freely. They are numbered here, and a `Labels` gives
them their text; every identifier that comes from outside is text from the start, and differs from
all issued ones.
-/

namespace SqlDriver

/-- The identifier of a transaction. -/
inductive TransactionId where
  /-- The one that the backend issued as its `serial`-th, counted from zero. -/
  | issued (serial : Nat)
  | given (text : String)
deriving DecidableEq, Repr

/-- The text of each issued identifier. -/
abbrev Labels := Nat → String

def TransactionId.text (labels : Labels) : TransactionId → String
  | .issued serial => labels serial
  | .given text => text

/-- The identifier as part of a description. -/
def TransactionId.description (labels : Labels) (id : TransactionId) : String :=
  "TransactionId(" ++ Text.quoted (id.text labels) ++ ")"

/-- The mode that a transaction runs in. -/
inductive TransactionMode where
  | serializableReadWrite
  | snapshotReadOnly
  | staleReadOnly
  | onlineReadOnly (allowInconsistentReads : Bool)
deriving DecidableEq, Repr

def TransactionMode.isReadOnly : TransactionMode → Bool
  | .serializableReadWrite => false
  | _ => true

def TransactionMode.description : TransactionMode → String
  | .serializableReadWrite => "SerializableReadWrite"
  | .snapshotReadOnly => "SnapshotReadOnly"
  | .staleReadOnly => "StaleReadOnly"
  | .onlineReadOnly allow =>
    "OnlineReadOnly \x7b allow_inconsistent_reads: " ++ toString allow ++ " \x7d"

/-- The JSON form of a mode. -/
def TransactionMode.toJson : TransactionMode → Json
  | .onlineReadOnly allow =>
    .object [("OnlineReadOnly", .object [("allow_inconsistent_reads", .bool allow)])]
  | mode => .string mode.description

/-- The mode that a name alone stands for. -/
def TransactionMode.ofName? (name : String) : Option TransactionMode :=
  [TransactionMode.serializableReadWrite, .snapshotReadOnly, .staleReadOnly].find? fun mode =>
    mode.description = name

/-- The mode of a JSON form: its name, or for the mode that has a choice an object with a record of
it. -/
def TransactionMode.ofJson? : Json → Option TransactionMode
  | .object [("OnlineReadOnly", .object members)] =>
    ((members.lookup "allow_inconsistent_reads").bind Json.bool?).map .onlineReadOnly
  | document => document.name?.bind TransactionMode.ofName?

/-- What a data statement says about its transaction, and whether that transaction is to be
committed after it. -/
inductive TransactionControl where
  /-- Start a new one. -/
  | start (mode : TransactionMode) (commit : Bool)
  /-- Run in one that is open. -/
  | resume (transaction : TransactionId) (commit : Bool)
deriving DecidableEq, Repr

def TransactionControl.commits : TransactionControl → Bool
  | .start _ commit => commit
  | .resume _ commit => commit

/-- The transaction to run in, for a statement that names one. -/
def TransactionControl.transaction? : TransactionControl → Option TransactionId
  | .start _ _ => none
  | .resume transaction _ => some transaction

def TransactionControl.description (labels : Labels) : TransactionControl → String
  | .start mode commit =>
    "Begin \x7b mode: " ++ mode.description ++ ", commit: " ++ toString commit ++ " \x7d"
  | .resume transaction commit =>
    "Continue \x7b tx_id: " ++ transaction.description labels ++ ", commit: " ++
      toString commit ++ " \x7d"

end SqlDriver
