import SqlDriver.Connection.Basic

/-!
Statements on a connection. Inside a transaction a data statement runs on the session that is held,
and afterwards the connection follows what the backend reports of the transaction. Otherwise it gets
a session of its own, which is kept only if the statement leaves a transaction open.
-/

namespace SqlDriver

/-- Follows what a statement on the held session reported of its transaction: none means that it has
ended. -/
def Connection.followReport (c : Connection) (b : Backend) (reported : Option TransactionId) :
    Connection × Backend :=
  match c.state, reported with
  | .inside _ session settings, some transaction =>
    ({ c with state := .inside transaction session settings }, b)
  | _, some _ => (c, b)
  | _, none => c.leave b

/-- Runs a data statement on the session that is held. -/
def Connection.executeInside (c : Connection) (b : Backend) (patience : Patience)
    (transaction : TransactionId) (session : Session) (settings : TransactionSettings)
    (text : String) (parameters : NamedValues) :
    Outcome QueryResult × Connection × Backend × Patience :=
  match session.runData b text (.resume transaction false) parameters c.config.queryTimeout with
  | (.error e, session, b) =>
    (.failed (.backend e), { c with state := .inside transaction session settings }, b, patience)
  | (.ok stream, session, b) =>
    let c := { c with
      state := .inside transaction session settings
      pending := some stream.number }
    match stream.collect b patience with
    | (.done contents, b, patience) =>
      let (c, b) := c.followReport b contents.transaction
      (.done ⟨contents.resultSets⟩, c, b, patience)
    | (.failed e, b, patience) => (.failed e, c, b, patience)
    | (.cancelled, b, patience) => (.cancelled, c, b, patience)

/-- Runs a data statement on a session of its own, in a transaction of its own. -/
def Connection.executeOutside (c : Connection) (b : Backend) (patience : Patience)
    (settings : TransactionSettings) (text : String) (parameters : NamedValues) :
    Outcome QueryResult × Connection × Backend × Patience :=
  let control := TransactionControl.start settings.mode settings.autoCommit
  match c.config.runData b patience text control parameters with
  | (.done (contents, session), b, patience) =>
    match contents.transaction with
    | some transaction =>
      (.done ⟨contents.resultSets⟩, { c with state := .inside transaction session settings }, b,
        patience)
    | none => (.done ⟨contents.resultSets⟩, c, b.release session, patience)
  | (.failed e, b, patience) => (.failed e, c, b, patience)
  | (.cancelled, b, patience) => (.cancelled, c, b, patience)

/-- Runs a data statement with one row of parameters. -/
def Connection.executeOne (c : Connection) (b : Backend) (patience : Patience) (text : String)
    (parameters : NamedValues) : Outcome QueryResult × Connection × Backend × Patience :=
  match c.awaitDrain b patience with
  | (false, c, b, patience) => (.cancelled, c, b, patience)
  | (true, c, b, patience) =>
    match c.state with
    | .inside transaction session settings =>
      c.executeInside b patience transaction session settings text parameters
    | .outside settings => c.executeOutside b patience settings text parameters
    | .closed => (.failed (.state .closed), c, b, patience)

/-- Runs a data statement once for each row, in order, up to the first that fails. The results that
come before are those of `completed`. -/
def Connection.executeAll (c : Connection) (b : Backend) (patience : Patience) (text : String)
    (completed : List QueryResult) :
    List NamedValues → Outcome (List QueryResult) × Connection × Backend × Patience
  | [] => (.done completed, c, b, patience)
  | row :: rows =>
    match c.executeOne b patience text row with
    | (.done result, c, b, patience) =>
      c.executeAll b patience text (completed ++ [result]) rows
    | (.failed e, c, b, patience) =>
      (.failed (.batch completed.length completed e), c, b, patience)
    | (.cancelled, c, b, patience) => (.cancelled, c, b, patience)

/-- Runs a data statement once for each row of parameters, or once without parameters if there is no
row. Several rows are a batch. -/
def Connection.executeData (c : Connection) (b : Backend) (patience : Patience)
    (descriptor : Descriptor) (rows : List NamedValues) :
    Outcome (List QueryResult) × Connection × Backend × Patience :=
  if c.state.isClosed then (.failed (.state .closed), c, b, patience)
  else
    match rows with
    | [] =>
      let (outcome, rest) := c.executeOne b patience descriptor.canonical []
      (outcome.map ([·]), rest)
    | [row] =>
      let (outcome, rest) := c.executeOne b patience descriptor.canonical row
      (outcome.map ([·]), rest)
    | rows => c.executeAll b patience descriptor.canonical [] rows

/-- Runs a schema statement on a session of its own, which no connection with an open transaction
allows. -/
def Connection.executeSchema (c : Connection) (b : Backend) (text : String) :
    Outcome Unit × Backend :=
  match c.state with
  | .closed => (.failed (.state .closed), b)
  | .inside _ _ _ => (.failed (.state .schemaQueryInTransaction), b)
  | .outside _ => c.config.runSchema b text

end SqlDriver
