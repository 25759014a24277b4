import SqlDriver.Connection.Statement
import SqlDriver.Connection.Transaction

/-!
The calls on a connection as data, so that a run is a list of them.
-/

namespace SqlDriver

/-- A call on a connection. -/
inductive Request where
  | data (descriptor : Descriptor) (rows : List NamedValues)
  | schema (text : String)
  | begin (settings : TransactionSettings)
  | commit
  | rollback
  | setAutoCommit (autoCommit : Bool)
  | setIsolationLevel (level : IsolationLevel)
  | setReadOnly (readOnly : Bool)
  | setQueryTimeout (timeout : Duration)
  | close
  | forceClose
deriving Repr

/-- What a call that succeeds answers with. -/
inductive Response where
  | results (results : List QueryResult)
  | acknowledged
deriving Repr

/-- Answers that a call has succeeded. -/
def Outcome.acknowledge (outcome : Outcome Unit) : Outcome Response :=
  outcome.map fun _ => .acknowledged

/-- Makes a call. -/
def Connection.perform (c : Connection) (b : Backend) (patience : Patience) :
    Request → Outcome Response × Connection × Backend × Patience
  | .data descriptor rows =>
    let (outcome, rest) := c.executeData b patience descriptor rows
    (outcome.map .results, rest)
  | .schema text =>
    let (outcome, b) := c.executeSchema b text
    (outcome.acknowledge, c, b, patience)
  | .begin settings =>
    let (outcome, c, b) := c.begin b settings
    (outcome.acknowledge, c, b, patience)
  | .commit =>
    let (outcome, rest) := c.commit b patience
    (outcome.acknowledge, rest)
  | .rollback =>
    let (outcome, rest) := c.rollback b patience
    (outcome.acknowledge, rest)
  | .setAutoCommit autoCommit =>
    let (outcome, rest) := c.setAutoCommit b patience autoCommit
    (outcome.acknowledge, rest)
  | .setIsolationLevel level =>
    let (outcome, c) := c.setIsolationLevel level
    (outcome.acknowledge, c, b, patience)
  | .setReadOnly readOnly =>
    let (outcome, c) := c.setReadOnly readOnly
    (outcome.acknowledge, c, b, patience)
  | .setQueryTimeout timeout => (.done .acknowledged, c.setQueryTimeout timeout, b, patience)
  | .close =>
    let (outcome, rest) := c.close b patience
    (outcome.acknowledge, rest)
  | .forceClose =>
    let (outcome, rest) := c.forceClose b patience
    (outcome.acknowledge, rest)

end SqlDriver
