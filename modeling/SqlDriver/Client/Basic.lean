import SqlDriver.Connection.Statement
import SqlDriver.Connection.Transaction
import SqlDriver.Query.Bindings
import SqlDriver.Query.Cache

/-!
A client: a connection with a cache of the query texts that it has read. A text goes to the backend
as what it says it is, a schema statement or a data statement, and always in its canonical form.
-/

namespace SqlDriver

/-- A client. -/
structure Client where
  connection : Connection
  cache : Cache
deriving Repr

/-- A client with a cache of its own. -/
def Client.open (config : Config) : Client :=
  ⟨.open config, .ofCapacity config.cacheSize config.readingMode⟩

/-- A client with a given cache, which decides how texts are read. -/
def Client.ofCache (config : Config) (cache : Cache) : Client := ⟨.open config, cache⟩

/-- Executes the rows bound for a query. A schema query takes no parameters and is executed once. -/
def Connection.executeBound (c : Connection) (b : Backend) (patience : Patience)
    (bindings : Bindings) : Outcome (List QueryResult) × Connection × Backend × Patience :=
  let descriptor := bindings.descriptor
  match descriptor.kind with
  | .schema =>
    if descriptor.parameters.isEmpty then
      match bindings.check with
      | .error e => (.failed (.query e), c, b, patience)
      | .ok () =>
        let (outcome, b) := c.executeSchema b descriptor.canonical
        (outcome.map fun _ => [.empty], c, b, patience)
    else (.failed (.query (.schemaParameters descriptor.parameters)), c, b, patience)
  | .data =>
    match bindings.rowsToExecute with
    | .error e => (.failed (.query e), c, b, patience)
    | .ok rows => c.executeData b patience descriptor rows

/-- Executes a query text without parameters. -/
def Client.execute (client : Client) (b : Backend) (patience : Patience) (text : String) :
    Outcome QueryResult × Client × Backend × Patience :=
  match client.cache.parse text with
  | (.error e, cache) => (.failed (.query e), { client with cache := cache }, b, patience)
  | (.ok handle, cache) =>
    let (outcome, connection, rest) :=
      client.connection.executeBound b patience (.empty handle.descriptor)
    (outcome.map fun results => results.getLast?.getD .empty, ⟨connection, cache⟩, rest)

/-- Executes a query text without parameters, for its first result set. -/
def Client.query (client : Client) (b : Backend) (patience : Patience) (text : String) :
    Outcome ResultSet × Client × Backend × Patience :=
  let (outcome, rest) := client.execute b patience text
  (outcome.map fun result => result.first?.getD .empty, rest)

/-- Opens a transaction with the settings that the connection has now. -/
def Client.begin (client : Client) (b : Backend) : Outcome Unit × Client × Backend :=
  let settings := client.connection.state.settings?.getD .default
  let (outcome, connection, b) := client.connection.begin b settings
  (outcome, { client with connection := connection }, b)

def Client.commit (client : Client) (b : Backend) (patience : Patience) :
    Outcome Unit × Client × Backend × Patience :=
  let (outcome, connection, rest) := client.connection.commit b patience
  (outcome, { client with connection := connection }, rest)

def Client.rollback (client : Client) (b : Backend) (patience : Patience) :
    Outcome Unit × Client × Backend × Patience :=
  let (outcome, connection, rest) := client.connection.rollback b patience
  (outcome, { client with connection := connection }, rest)

def Client.close (client : Client) (b : Backend) (patience : Patience) :
    Outcome Unit × Client × Backend × Patience :=
  let (outcome, connection, rest) := client.connection.close b patience
  (outcome, { client with connection := connection }, rest)

/-- Gives up the texts that have been read. -/
def Client.clearCache (client : Client) : Client := { client with cache := client.cache.clear }

/-! ## Several clients -/

/-- Clients of one backend. -/
structure ClientGroup where
  clients : List Client
  /-- All clients use the same cache. -/
  sharesCache : Bool
deriving Repr

/-- That many clients, each with a cache of its own. -/
def ClientGroup.separate (count : Nat) (config : Config) : ClientGroup :=
  ⟨List.replicate count (.open config), false⟩

/-- That many clients that use one cache. -/
def ClientGroup.sharing (count : Nat) (config : Config) (cache : Cache) : ClientGroup :=
  ⟨List.replicate count (.ofCache config cache), true⟩

/-- Puts a client back after a call. What the call has changed in a shared cache is seen by all. -/
def ClientGroup.set (group : ClientGroup) (index : Nat) (client : Client) : ClientGroup :=
  let clients := group.clients.set index client
  { group with
    clients := if group.sharesCache then
        clients.map fun other => { other with cache := client.cache }
      else clients }

end SqlDriver
