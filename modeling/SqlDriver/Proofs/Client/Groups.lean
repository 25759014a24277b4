import SqlDriver.Proofs.Client.Runs
import SqlDriver.Proofs.Connection.Reading

/-!
Runs of any number of clients over one backend, with what every call answers. Clients of a group may
use one cache, and any of them may execute any prepared statement. A call may be one of the client,
of a prepared statement or of the connection itself, and between the calls the surroundings may do
as they like.
-/

namespace SqlDriver

/-! ## What calls answer -/

/-- Something that happens to a client or around it, with all the calls on its connection. -/
inductive Client.Action where
  | event (event : Client.Event)
  /-- A call on the connection itself. -/
  | request (request : Request) (patience : Patience)

/-- What a call answers with. -/
inductive Client.Answer where
  | prepared (outcome : Outcome PreparedStatement)
  | executed (outcome : Outcome QueryResult)
  | queried (outcome : Outcome ResultSet)
  | ran (outcome : Outcome (List QueryResult))
  | acknowledged (outcome : Outcome Unit)
  | responded (outcome : Outcome Response)

/-- What a change to the rows of a prepared statement answers with. -/
def PreparedStatement.respond (s : PreparedStatement) : Bindings.Change → Outcome Unit
  | .bind parameter value => (s.bind parameter value).1
  | .bindAs parameter value type => (s.bindAs parameter value type).1
  | .bindNull parameter type => (s.bindNull parameter type).1
  | .add => s.add.1
  | .clear => .done ()

/-- What an event answers with, if it is a call, and not on a statement that there is not. -/
def Client.World.respond? (w : Client.World) : Client.Event → Option Client.Answer
  | .prepare text => some (.prepared (w.client.prepare text).1)
  | .execute text patience => some (.executed (w.client.execute w.backend patience text).1)
  | .query text patience => some (.queried (w.client.query w.backend patience text).1)
  | .change place change =>
    w.statements[place]?.map fun s => .acknowledged (s.respond change)
  | .run place patience =>
    w.statements[place]?.map fun s => .ran (s.execute w.client w.backend patience).1
  | .begin => some (.acknowledged (w.client.begin w.backend).1)
  | .commit patience => some (.acknowledged (w.client.commit w.backend patience).1)
  | .rollback patience => some (.acknowledged (w.client.rollback w.backend patience).1)
  | .close patience => some (.acknowledged (w.client.close w.backend patience).1)
  | .control request _ patience =>
    some (.responded (w.client.connection.perform w.backend patience request).1)
  | _ => none

def Client.World.answer? (w : Client.World) : Client.Action → Option Client.Answer
  | .event event => w.respond? event
  | .request request patience =>
    some (.responded (w.client.connection.perform w.backend patience request).1)

def Client.World.act (w : Client.World) : Client.Action → Client.World
  | .event event => w.step event
  | .request request patience =>
    let (_, connection, b, _) := w.client.connection.perform w.backend patience request
    { w with client := { w.client with connection := connection }, backend := b }

/-! ## Groups -/

namespace ClientGroup

/-- The connections of the clients. -/
def connections (group : ClientGroup) : List Connection := group.clients.map Client.connection

/-- What a client leaves in a cache is no matter to the connections of the others, even if they use
the same cache. -/
theorem connections_set (group : ClientGroup) (place : Nat) (client : Client) :
    (group.set place client).connections = group.connections.set place client.connection := by
  obtain ⟨clients, shares⟩ := group
  rw [connections, connections, ← List.map_set]
  cases shares with
  | false => rfl
  | true => exact List.map_map

/-- The connections of a group are those of its clients, in their places. -/
theorem connection_of_client {group : ClientGroup} {place : Nat} {client : Client}
    (found : group.clients[place]? = some client) :
    group.connections[place]? = some client.connection := by
  rw [connections, List.getElem?_map, found]
  rfl

/-- Putting back the connection that a client has is putting back nothing. -/
theorem connections_set_self {group : ClientGroup} {place : Nat} {client : Client}
    (found : group.clients[place]? = some client) :
    group.connections.set place client.connection = group.connections := by
  obtain ⟨inside, same⟩ := List.getElem?_eq_some_iff.mp (connection_of_client found)
  rw [← same]
  exact List.set_getElem_self inside

/-- The group without one of its clients. Those behind it move up. -/
def erase (group : ClientGroup) (place : Nat) : ClientGroup :=
  { group with clients := group.clients.eraseIdx place }

theorem eraseIdx_map {α β : Type} (f : α → β) (list : List α) (place : Nat) :
    (list.map f).eraseIdx place = (list.eraseIdx place).map f := by
  rw [List.eraseIdx_eq_take_drop_succ, List.eraseIdx_eq_take_drop_succ, List.map_append,
    List.map_take, List.map_drop]

theorem connections_erase (group : ClientGroup) (place : Nat) :
    (group.erase place).connections = group.connections.eraseIdx place :=
  (eraseIdx_map Client.connection group.clients place).symm

/-- Clients that have just been opened, and read their texts in a mode: each with a cache of its own
of some size, or all with one cache of some capacity. -/
inductive Opens (count : Nat) (config : Config) (mode : ReadingMode) : ClientGroup → Prop
  | separate (size : Nat) :
      Opens count config mode (.separate count (config.withReading size mode))
  | sharing (size : Nat) (reading : ReadingMode) (capacity : Nat) :
      Opens count config mode
        (.sharing count (config.withReading size reading) (.ofCapacity capacity mode))

/-- The connections of a group that has just been opened differ from one another in nothing, and
from a plain one only in how their configuration says to read. -/
theorem Opens.connections {count : Nat} {config : Config} {mode : ReadingMode}
    {group : ClientGroup} (opens : Opens count config mode group) :
    ∃ size reading, group.connections =
      List.replicate count (.open (config.withReading size reading)) := by
  cases opens with
  | separate size => exact ⟨size, mode, List.map_replicate⟩
  | sharing size reading capacity => exact ⟨size, reading, List.map_replicate⟩

end ClientGroup

/-! ## Runs -/

/-- Something that happens to one of the clients of a group. Clients are named by their places. -/
inductive ClientGroup.Call where
  | act (place : Nat) (action : Client.Action)
  | drop (place : Nat)

/-- Clients, the statements that they have prepared, and their backend. -/
structure ClientGroup.World where
  group : ClientGroup
  statements : List PreparedStatement
  backend : Backend

namespace ClientGroup.World

/-- Clients that have just been opened over a fresh backend. -/
def start (group : ClientGroup) : ClientGroup.World := ⟨group, [], .fresh⟩

/-- The world of one of the clients. -/
def client? (w : ClientGroup.World) (place : Nat) : Option Client.World :=
  w.group.clients[place]?.map fun client => ⟨client, w.statements, w.backend⟩

/-- Puts back what a client has left. -/
def put (w : ClientGroup.World) (place : Nat) (left : Client.World) : ClientGroup.World :=
  ⟨w.group.set place left.client, left.statements, left.backend⟩

/-- What a call answers, if there is the client that makes it. -/
def answer? (w : ClientGroup.World) : ClientGroup.Call → Option Client.Answer
  | .act place action => (w.client? place).bind fun client => client.answer? action
  | .drop _ => none

def step (w : ClientGroup.World) : ClientGroup.Call → ClientGroup.World
  | .act place action =>
    match w.client? place with
    | none => w
    | some client => w.put place (client.act action)
  | .drop place =>
    match w.client? place with
    | none => w
    | some left =>
      { w with group := w.group.erase place, backend := left.client.connection.drop w.backend }

/-- The world after some calls. -/
def run (w : ClientGroup.World) (calls : List ClientGroup.Call) : ClientGroup.World :=
  calls.foldl step w

/-- The states of the connections. -/
def states (w : ClientGroup.World) : List Connection.State :=
  w.group.connections.map Connection.state

section

variable {w : ClientGroup.World} {place : Nat}

theorem answer?_of_none (missing : w.group.clients[place]? = none) (action : Client.Action) :
    w.answer? (.act place action) = none := by
  rw [answer?, client?, missing]
  rfl

/-- An action for a place without a client does nothing, and answers nothing. -/
theorem step_of_none (missing : w.group.clients[place]? = none) (action : Client.Action) :
    w.step (.act place action) = w := by
  rw [step, client?, missing]
  rfl

theorem drop_of_none (missing : w.group.clients[place]? = none) : w.step (.drop place) = w := by
  rw [step, client?, missing]
  rfl

variable {client : Client} (found : w.group.clients[place]? = some client)

include found

theorem answer?_of_some (action : Client.Action) :
    w.answer? (.act place action) =
      Client.World.answer? ⟨client, w.statements, w.backend⟩ action := by
  rw [answer?, client?, found]
  rfl

/-- An action is made on the client at its place, with the statements and the backend that all
share. -/
theorem step_of_some (action : Client.Action) :
    w.step (.act place action) =
      w.put place (Client.World.act ⟨client, w.statements, w.backend⟩ action) := by
  rw [step, client?, found]
  rfl

theorem drop_of_some :
    w.step (.drop place) =
      { w with group := w.group.erase place, backend := client.connection.drop w.backend } := by
  rw [step, client?, found]
  rfl

end

end ClientGroup.World

end SqlDriver
