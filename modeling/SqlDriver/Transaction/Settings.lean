import SqlDriver.Transaction.Basic

/-!
Settings of the transactions that a connection opens. An isolation level and the read-only flag
together choose the mode; serializable reading alone is served from a snapshot.
-/

namespace SqlDriver

/-- How far a transaction is kept apart from others. -/
inductive IsolationLevel where
  | serializable
  | snapshotReadOnly
  | staleReadOnly
  | onlineConsistentReadOnly
  | onlineInconsistentReadOnly
deriving DecidableEq, Repr

def IsolationLevel.name : IsolationLevel → String
  | .serializable => "Serializable"
  | .snapshotReadOnly => "SnapshotReadOnly"
  | .staleReadOnly => "StaleReadOnly"
  | .onlineConsistentReadOnly => "OnlineConsistentReadOnly"
  | .onlineInconsistentReadOnly => "OnlineInconsistentReadOnly"

def IsolationLevel.all : List IsolationLevel :=
  [.serializable, .snapshotReadOnly, .staleReadOnly, .onlineConsistentReadOnly,
    .onlineInconsistentReadOnly]

/-- The level of that name. -/
def IsolationLevel.ofName? (name : String) : Option IsolationLevel :=
  IsolationLevel.all.find? fun level => level.name = name

/-- The level of a JSON form, which is its name. -/
def IsolationLevel.ofJson? (document : Json) : Option IsolationLevel :=
  document.name?.bind IsolationLevel.ofName?

/-- Settings of the transactions that a connection opens. -/
structure TransactionSettings where
  isolationLevel : IsolationLevel
  readOnly : Bool
  /-- Commit the transaction of every statement that runs outside an open one. -/
  autoCommit : Bool
deriving DecidableEq, Repr

/-- Serializable, writing allowed, every statement committed. -/
def TransactionSettings.default : TransactionSettings := ⟨.serializable, false, true⟩

def TransactionSettings.withIsolationLevel (s : TransactionSettings) (level : IsolationLevel) :
    TransactionSettings :=
  { s with isolationLevel := level }

def TransactionSettings.withReadOnly (s : TransactionSettings) (readOnly : Bool) :
    TransactionSettings :=
  { s with readOnly := readOnly }

def TransactionSettings.withAutoCommit (s : TransactionSettings) (autoCommit : Bool) :
    TransactionSettings :=
  { s with autoCommit := autoCommit }

/-- The mode that transactions with these settings run in. -/
def TransactionSettings.mode (s : TransactionSettings) : TransactionMode :=
  match s.isolationLevel with
  | .serializable => if s.readOnly then .snapshotReadOnly else .serializableReadWrite
  | .snapshotReadOnly => .snapshotReadOnly
  | .staleReadOnly => .staleReadOnly
  | .onlineConsistentReadOnly => .onlineReadOnly false
  | .onlineInconsistentReadOnly => .onlineReadOnly true

def TransactionSettings.description (s : TransactionSettings) : String :=
  "TxSettings \x7b isolation_level: " ++ s.isolationLevel.name ++ ", read_only: " ++
    toString s.readOnly ++ ", auto_commit: " ++ toString s.autoCommit ++ " \x7d"

/-! ## JSON form -/

def TransactionSettings.toJson (s : TransactionSettings) : Json :=
  .object [("auto_commit", .bool s.autoCommit), ("isolation_level", .string s.isolationLevel.name),
    ("read_only", .bool s.readOnly)]

/-- Settings from a record of any of their fields, the rest being as in the default; other fields
are passed over. -/
def TransactionSettings.ofJson? (document : Json) : Option TransactionSettings := do
  let members ← document.recordMembers? ["isolation_level", "read_only", "auto_commit"]
  let base := TransactionSettings.default
  let level ← Json.fieldOr? members "isolation_level" IsolationLevel.ofJson? base.isolationLevel
  let readOnly ← Json.fieldOr? members "read_only" Json.bool? base.readOnly
  let autoCommit ← Json.fieldOr? members "auto_commit" Json.bool? base.autoCommit
  return ⟨level, readOnly, autoCommit⟩

end SqlDriver
