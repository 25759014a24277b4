import SqlDriver.Client.Basic

/-!
Prepared statements: a query text that has been read once, with rows of values for its parameters.
Rows that have been executed are dropped; after an error they are kept, so that the same execution
can be tried again.
-/

namespace SqlDriver

/-- A prepared statement. -/
structure PreparedStatement where
  bindings : Bindings
deriving Repr

/-- Reads a text for binding and later execution. -/
def Client.prepare (client : Client) (text : String) : Outcome PreparedStatement × Client :=
  match client.cache.parse text with
  | (.error e, cache) => (.failed (.query e), { client with cache := cache })
  | (.ok handle, cache) => (.done ⟨.empty handle.descriptor⟩, { client with cache := cache })

/-- Changes the bindings, unless the change is refused. -/
def PreparedStatement.change (s : PreparedStatement)
    (change : Bindings → Except QueryError Bindings) : Outcome Unit × PreparedStatement :=
  match change s.bindings with
  | .error e => (.failed (.query e), s)
  | .ok bindings => (.done (), ⟨bindings⟩)

/-- Binds a value as the type it naturally has. -/
def PreparedStatement.bind (s : PreparedStatement) (parameter : ParameterRef) (value : Value) :
    Outcome Unit × PreparedStatement :=
  s.change (·.bind parameter value)

/-- Binds a value as the given type. -/
def PreparedStatement.bindAs (s : PreparedStatement) (parameter : ParameterRef) (value : Value)
    (type : ValueType) : Outcome Unit × PreparedStatement :=
  s.change (·.bindAs parameter value type)

/-- Binds the null of a type. -/
def PreparedStatement.bindNull (s : PreparedStatement) (parameter : ParameterRef)
    (type : ValueType) : Outcome Unit × PreparedStatement :=
  s.change (·.bindNull parameter type)

/-- Seals the current row. -/
def PreparedStatement.add (s : PreparedStatement) : Outcome Unit × PreparedStatement :=
  s.change Bindings.add

/-- The number of sealed rows. -/
def PreparedStatement.batchLength (s : PreparedStatement) : Nat := s.bindings.batchLength

/-- Drops every row. -/
def PreparedStatement.clear (s : PreparedStatement) : PreparedStatement := ⟨s.bindings.clear⟩

/-- Drops the rows after they have been executed, if there is a sealed one. -/
def PreparedStatement.afterExecution (s : PreparedStatement) : PreparedStatement :=
  if s.batchLength = 0 then s else s.clear

/-- Executes every row on a client's connection. -/
def PreparedStatement.execute (s : PreparedStatement) (client : Client) (b : Backend)
    (patience : Patience) :
    Outcome (List QueryResult) × PreparedStatement × Client × Backend × Patience :=
  let (outcome, connection, rest) := client.connection.executeBound b patience s.bindings
  let client := { client with connection := connection }
  match outcome with
  | .done results => (.done results, s.afterExecution, client, rest)
  | .failed e => (.failed e, s, client, rest)
  | .cancelled => (.cancelled, s, client, rest)

end SqlDriver
