import Mathlib.Data.List.Induction
import SqlDriver.Client.Prepared
import SqlDriver.Connection.Request
import SqlDriver.Proofs.Connection.Texts

/-!
Runs of one client with the statements that it has prepared. Between its calls the backend may be
told to refuse requests or to report other transactions, its gate may be opened and closed, its
background streams go on in any order, and others may read texts through the same cache. A call is
given up when its patience runs out at a stall.
-/

namespace SqlDriver

/-! ## Prepared statements -/

/-- A change to the rows of a prepared statement. -/
inductive Bindings.Change where
  | bind (parameter : ParameterRef) (value : Value)
  | bindAs (parameter : ParameterRef) (value : Value) (type : ValueType)
  | bindNull (parameter : ParameterRef) (type : ValueType)
  | add
  | clear

/-- The statement after a change; one that is refused leaves it as it was. -/
def PreparedStatement.apply (s : PreparedStatement) : Bindings.Change → PreparedStatement
  | .bind parameter value => (s.bind parameter value).2
  | .bindAs parameter value type => (s.bindAs parameter value type).2
  | .bindNull parameter type => (s.bindNull parameter type).2
  | .add => s.add.2
  | .clear => s.clear

/-- A change to the rows leaves the query as it is, whether it is carried out or refused. -/
theorem PreparedStatement.descriptor_change {s : PreparedStatement}
    {change : Bindings → Except QueryError Bindings}
    (keeps : ∀ bindings, change s.bindings = .ok bindings →
      bindings.descriptor = s.bindings.descriptor) :
    (s.change change).2.bindings.descriptor = s.bindings.descriptor := by
  rw [PreparedStatement.change]
  split
  · rfl
  · rename_i changed
    exact keeps _ changed

theorem Bindings.descriptor_bindAs {bindings bindings' : Bindings} {parameter : ParameterRef}
    {value : Value} {type : ValueType}
    (bound : bindings.bindAs parameter value type = .ok bindings') :
    bindings'.descriptor = bindings.descriptor := by
  rw [Bindings.bindAs] at bound
  cases named : bindings.nameOf parameter with
  | error error =>
    rw [named] at bound
    cases bound
  | ok name =>
    rw [named] at bound
    cases bound
    rfl

theorem Bindings.descriptor_bind {bindings bindings' : Bindings} {parameter : ParameterRef}
    {value : Value} (bound : bindings.bind parameter value = .ok bindings') :
    bindings'.descriptor = bindings.descriptor := by
  rw [Bindings.bind] at bound
  cases named : bindings.nameOf parameter with
  | error error =>
    rw [named] at bound
    cases bound
  | ok name =>
    rw [named] at bound
    cases typed : value.naturalType with
    | none =>
      simp only [typed] at bound
      cases bound
    | some type =>
      simp only [typed] at bound
      cases bound
      rfl

theorem Bindings.descriptor_add {bindings bindings' : Bindings}
    (added : bindings.add = .ok bindings') : bindings'.descriptor = bindings.descriptor := by
  rw [Bindings.add] at added
  cases checked : bindings.check with
  | error error =>
    rw [checked] at added
    cases added
  | ok complete =>
    rw [checked] at added
    cases added
    rfl

/-- The query of a prepared statement is never another one: whatever is done to the rows, they are
rows of the query that was prepared. -/
theorem PreparedStatement.descriptor_apply (s : PreparedStatement) (change : Bindings.Change) :
    (s.apply change).bindings.descriptor = s.bindings.descriptor := by
  cases change with
  | bind parameter value => exact descriptor_change fun _ => Bindings.descriptor_bind
  | bindAs parameter value type => exact descriptor_change fun _ => Bindings.descriptor_bindAs
  | bindNull parameter type => exact descriptor_change fun _ => Bindings.descriptor_bindAs
  | add => exact descriptor_change fun _ => Bindings.descriptor_add
  | clear => rfl

/-- An execution may reset the rows, but does not touch the query either. -/
theorem PreparedStatement.descriptor_execute (s : PreparedStatement) (client : Client)
    (b : Backend) (patience : Patience) :
    (s.execute client b patience).2.1.bindings.descriptor = s.bindings.descriptor := by
  rw [PreparedStatement.execute]
  generalize client.connection.executeBound b patience s.bindings = run
  obtain ⟨outcome, connection, rest⟩ := run
  cases outcome with
  | done results =>
    dsimp only
    rw [PreparedStatement.afterExecution]
    split <;> rfl
  | failed error => rfl
  | cancelled => rfl

/-! ## Runs -/

/-- A client, the statements that it has prepared, and its backend. -/
structure Client.World where
  client : Client
  statements : List PreparedStatement
  backend : Backend

/-- Something that happens to a client or around it. Statements are named by their places. -/
inductive Client.Event where
  | prepare (text : String)
  | execute (text : String) (patience : Patience)
  | query (text : String) (patience : Patience)
  | change (place : Nat) (change : Bindings.Change)
  | run (place : Nat) (patience : Patience)
  | begin
  | commit (patience : Patience)
  | rollback (patience : Patience)
  | close (patience : Patience)
  | clearCache
  /-- A call on the connection itself that brings no statement. -/
  | control (request : Request) (textless : request.isControl = true) (patience : Patience)
  /-- A text is read through the cache for somebody else. -/
  | shared (text : String)
  | stir (stir : Stir)
  | inject (call : CallKind) (skip : Nat) (status : Status)
  | setResultSets (count : Nat)
  | queueReport (report : Report)

/-- The text that an event gives to the client. -/
def Client.Event.source? : Client.Event → Option String
  | .prepare text => some text
  | .execute text _ => some text
  | .query text _ => some text
  | _ => none

/-- The texts that the client was given. -/
def Client.sources (events : List Client.Event) : List String :=
  events.filterMap Client.Event.source?

def Client.World.step (w : Client.World) : Client.Event → Client.World
  | .prepare text =>
    match w.client.prepare text with
    | (.done s, client) => { w with client := client, statements := w.statements ++ [s] }
    | (_, client) => { w with client := client }
  | .execute text patience =>
    let (_, client, b, _) := w.client.execute w.backend patience text
    { w with client := client, backend := b }
  | .query text patience =>
    let (_, client, b, _) := w.client.query w.backend patience text
    { w with client := client, backend := b }
  | .change place change =>
    match w.statements[place]? with
    | none => w
    | some s => { w with statements := w.statements.set place (s.apply change) }
  | .run place patience =>
    match w.statements[place]? with
    | none => w
    | some s =>
      let (_, s, client, b, _) := s.execute w.client w.backend patience
      ⟨client, w.statements.set place s, b⟩
  | .begin =>
    let (_, client, b) := w.client.begin w.backend
    { w with client := client, backend := b }
  | .commit patience =>
    let (_, client, b, _) := w.client.commit w.backend patience
    { w with client := client, backend := b }
  | .rollback patience =>
    let (_, client, b, _) := w.client.rollback w.backend patience
    { w with client := client, backend := b }
  | .close patience =>
    let (_, client, b, _) := w.client.close w.backend patience
    { w with client := client, backend := b }
  | .clearCache => { w with client := w.client.clearCache }
  | .control request _ patience =>
    let (_, connection, b, _) := w.client.connection.perform w.backend patience request
    { w with client := { w.client with connection := connection }, backend := b }
  | .shared text =>
    { w with client := { w.client with cache := (w.client.cache.parse text).2 } }
  | .stir stir => { w with backend := w.backend.stir stir }
  | .inject call skip status => { w with backend := w.backend.inject call skip status }
  | .setResultSets count => { w with backend := w.backend.setResultSets count }
  | .queueReport report => { w with backend := w.backend.queueReport report }

/-- The world after everything that happened, beginning with a client that has just been opened over
a fresh backend, with an empty cache. -/
def Client.World.run (config : Config) (capacity : Nat) (mode : ReadingMode)
    (events : List Client.Event) : Client.World :=
  events.foldl Client.World.step ⟨.ofCache config (.ofCapacity capacity mode), [], .fresh⟩

/-- A run is extended by an event at its end, which is the step that proofs about runs go by. -/
theorem Client.World.run_concat (config : Config) (capacity : Nat) (mode : ReadingMode)
    (events : List Client.Event) (event : Client.Event) :
    Client.World.run config capacity mode (events ++ [event]) =
      (Client.World.run config capacity mode events).step event := by
  rw [Client.World.run, List.foldl_append]
  rfl

theorem Client.sources_concat (events : List Client.Event) (event : Client.Event) :
    Client.sources (events ++ [event]) = Client.sources events ++ event.source?.toList := by
  rw [Client.sources, List.filterMap_append, Client.sources]
  cases given : event.source? with
  | none => rw [List.filterMap_cons_none given]; rfl
  | some text => rw [List.filterMap_cons_some given]; rfl

/-- What holds at the start and is kept by every event holds after every run. The property may
mention the events so far, as the sources of a run do. -/
theorem Client.World.run_induction {config : Config} {capacity : Nat} {mode : ReadingMode}
    {P : List Client.Event → Client.World → Prop}
    (fresh : P [] ⟨.ofCache config (.ofCapacity capacity mode), [], .fresh⟩)
    (step : ∀ events w event, P events w → P (events ++ [event]) (w.step event))
    (events : List Client.Event) : P events (Client.World.run config capacity mode events) := by
  induction events using List.reverseRecOn with
  | nil => exact fresh
  | append_singleton events event ih =>
    rw [Client.World.run_concat]
    exact step events _ event ih

end SqlDriver
