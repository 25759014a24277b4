import Mathlib.Data.List.Basic
import SqlDriver.Proofs.Client.Groups
import SqlDriver.Proofs.Connection.Reading
import SqlDriver.Proofs.Query.Caching

/-!
Nobody can tell how the texts that have been read are kept. Two groups of clients that read in one
mode, each client with a cache of its own or all with the same one, of whatever size, go through one
course: every call answers alike, leaves the connections in the same states and the prepared
statements with the same rows, and does the same to the backend. What is read through the caches for
others, and when they are cleared, may differ between the two.
-/

namespace SqlDriver

/-! ## Clients -/

/-- Two clients that differ only in the caches, and in what their configurations say of reading.
Both caches read in the same mode. -/
structure Client.Alike (mode : ReadingMode) (size : Nat) (reading : ReadingMode)
    (first second : Client) : Prop where
  connection : second.connection = first.connection.withReading size reading
  reads₁ : Cache.Valid mode first.cache
  reads₂ : Cache.Valid mode second.cache

/-- What a call on two such clients comes to: the same, and clients that are still alike. -/
structure Client.AnswerAlike {α β : Type} (mode : ReadingMode) (size : Nat) (reading : ReadingMode)
    (first second : α × Client × β) : Prop where
  answer : second.1 = first.1
  client : Client.Alike mode size reading first.2.1 second.2.1
  rest : second.2.2 = first.2.2

/-- What two caches that read in one mode answer for a text. -/
inductive Cache.ParsesAlike (mode : ReadingMode) :
    Except QueryError Handle × Cache → Except QueryError Handle × Cache → Prop
  | unreadable (error : QueryError) {left₁ left₂ : Cache}
      (reads₁ : Cache.Valid mode left₁) (reads₂ : Cache.Valid mode left₂) :
      Cache.ParsesAlike mode (.error error, left₁) (.error error, left₂)
  | read {handle₁ handle₂ : Handle} (same : handle₂.descriptor = handle₁.descriptor)
      {left₁ left₂ : Cache} (reads₁ : Cache.Valid mode left₁) (reads₂ : Cache.Valid mode left₂) :
      Cache.ParsesAlike mode (.ok handle₁, left₁) (.ok handle₂, left₂)

/-- One cache may hold a text that the other has given up, and both still answer alike: what is read
again is read to the same descriptor. -/
theorem Cache.parsesAlike {mode : ReadingMode} {first second : Cache}
    (reads₁ : Cache.Valid mode first) (reads₂ : Cache.Valid mode second) (text : String) :
    Cache.ParsesAlike mode (first.parse text) (second.parse text) := by
  have answer₁ := reads₁.answer text
  have answer₂ := (reads₂.answer text).trans answer₁.symm
  have left₁ := (reads₁.parse text).1
  have left₂ := (reads₂.parse text).1
  generalize first.parse text = parsed₁ at answer₂ left₁
  generalize second.parse text = parsed₂ at answer₂ left₂
  obtain ⟨answer, left⟩ := parsed₁
  obtain ⟨answer', left'⟩ := parsed₂
  cases answer with
  | error error =>
    cases answer' with
    | error error' =>
      cases answer₂
      exact .unreadable error left₁ left₂
    | ok handle' => cases answer₂
  | ok handle =>
    cases answer' with
    | error error' => cases answer₂
    | ok handle' => exact .read (Except.ok.inj answer₂) left₁ left₂

namespace Client.Alike

variable {mode : ReadingMode} {size : Nat} {reading : ReadingMode} {first second : Client}

section

variable (alike : Client.Alike mode size reading first second)

include alike

/-- A call that only concerns the connection is answered alike, as long as it does not look at how
the configuration says to read. -/
theorem onConnection {α β : Type} (call : Connection → α × Connection × β)
    (blind : call (first.connection.withReading size reading) =
      Connection.outWithReading size reading (call first.connection)) :
    Client.AnswerAlike mode size reading
      ((call first.connection).1, { first with connection := (call first.connection).2.1 },
        (call first.connection).2.2)
      ((call second.connection).1, { second with connection := (call second.connection).2.1 },
        (call second.connection).2.2) := by
  rw [alike.connection, blind]
  exact ⟨rfl, ⟨rfl, alike.reads₁, alike.reads₂⟩, rfl⟩

/-- Preparing a text gives the same statement, whichever of the two caches held it. -/
theorem prepare (text : String) :
    (second.prepare text).1 = (first.prepare text).1 ∧
      Client.Alike mode size reading (first.prepare text).2 (second.prepare text).2 := by
  have parses := Cache.parsesAlike alike.reads₁ alike.reads₂ text
  rw [Client.prepare, Client.prepare]
  generalize first.cache.parse text = parsed₁ at parses
  generalize second.cache.parse text = parsed₂ at parses
  cases parses with
  | unreadable error reads₁ reads₂ => exact ⟨rfl, ⟨alike.connection, reads₁, reads₂⟩⟩
  | read same reads₁ reads₂ =>
    dsimp only
    rw [same]
    exact ⟨rfl, ⟨alike.connection, reads₁, reads₂⟩⟩

/-- Executing a text reads it through the cache, and then makes the same call on the connection. -/
theorem execute (b : Backend) (patience : Patience) (text : String) :
    Client.AnswerAlike mode size reading (first.execute b patience text)
      (second.execute b patience text) := by
  have parses := Cache.parsesAlike alike.reads₁ alike.reads₂ text
  rw [Client.execute, Client.execute]
  generalize first.cache.parse text = parsed₁ at parses
  generalize second.cache.parse text = parsed₂ at parses
  cases parses with
  | unreadable error reads₁ reads₂ => exact ⟨rfl, ⟨alike.connection, reads₁, reads₂⟩, rfl⟩
  | read same reads₁ reads₂ =>
    dsimp only
    rw [same, alike.connection, Connection.executeBound_withReading]
    exact ⟨rfl, ⟨rfl, reads₁, reads₂⟩, rfl⟩

theorem query (b : Backend) (patience : Patience) (text : String) :
    Client.AnswerAlike mode size reading (first.query b patience text)
      (second.query b patience text) := by
  have run := alike.execute b patience text
  exact ⟨congrArg (Outcome.map _) run.answer, run.client, run.rest⟩

theorem begin (b : Backend) :
    Client.AnswerAlike mode size reading (first.begin b) (second.begin b) := by
  have settings : second.connection.state = first.connection.state := by
    rw [alike.connection, Connection.state_withReading]
  rw [Client.begin, Client.begin, settings]
  exact alike.onConnection (·.begin b _) (Connection.begin_withReading ..)

theorem commit (b : Backend) (patience : Patience) :
    Client.AnswerAlike mode size reading (first.commit b patience) (second.commit b patience) :=
  alike.onConnection (·.commit b patience) (Connection.finish_withReading ..)

theorem rollback (b : Backend) (patience : Patience) :
    Client.AnswerAlike mode size reading (first.rollback b patience) (second.rollback b patience) :=
  alike.onConnection (·.rollback b patience) (Connection.finish_withReading ..)

theorem close (b : Backend) (patience : Patience) :
    Client.AnswerAlike mode size reading (first.close b patience) (second.close b patience) :=
  alike.onConnection (·.close b patience) (Connection.close_withReading ..)

theorem perform (b : Backend) (patience : Patience) (request : Request) :
    Client.AnswerAlike mode size reading
      ((first.connection.perform b patience request).1,
        { first with connection := (first.connection.perform b patience request).2.1 },
        (first.connection.perform b patience request).2.2)
      ((second.connection.perform b patience request).1,
        { second with connection := (second.connection.perform b patience request).2.1 },
        (second.connection.perform b patience request).2.2) :=
  alike.onConnection (·.perform b patience request) (Connection.perform_withReading ..)

/-- A statement that was prepared on either client, even before its text was given up, runs alike on
both: it carries its descriptor along and reads nothing again. -/
theorem run (s : PreparedStatement) (b : Backend) (patience : Patience) :
    (s.execute second b patience).1 = (s.execute first b patience).1 ∧
      (s.execute second b patience).2.1 = (s.execute first b patience).2.1 ∧
      Client.Alike mode size reading (s.execute first b patience).2.2.1
        (s.execute second b patience).2.2.1 ∧
      (s.execute second b patience).2.2.2 = (s.execute first b patience).2.2.2 := by
  rw [PreparedStatement.execute, PreparedStatement.execute, alike.connection,
    Connection.executeBound_withReading]
  generalize first.connection.executeBound b patience s.bindings = run
  obtain ⟨outcome, connection, rest⟩ := run
  have left : Client.Alike mode size reading { first with connection := connection }
      { second with connection := connection.withReading size reading } :=
    ⟨rfl, alike.reads₁, alike.reads₂⟩
  cases outcome <;> exact ⟨rfl, rfl, left, rfl⟩

end

end Client.Alike

/-! ## What happens to a client -/

/-- Two worlds of alike clients, with the same statements and the same backend. -/
structure Client.World.Alike (mode : ReadingMode) (size : Nat) (reading : ReadingMode)
    (first second : Client.World) : Prop where
  client : Client.Alike mode size reading first.client second.client
  statements : second.statements = first.statements
  backend : second.backend = first.backend

/-- Whether an action does nothing but read a text through the cache for others, or clear it. -/
def Client.Action.readsOnly : Client.Action → Bool
  | .event (.shared _) => true
  | .event .clearCache => true
  | _ => false

namespace Client.World.Alike

variable {mode : ReadingMode} {size : Nat} {reading : ReadingMode} {first second : Client.World}

/-- Each action is answered alike, and leaves the worlds alike. So a client can not tell from any
answer how large its cache is, or what else was read through it. -/
theorem act (alike : Client.World.Alike mode size reading first second) (action : Client.Action) :
    second.answer? action = first.answer? action ∧
      Client.World.Alike mode size reading (first.act action) (second.act action) := by
  obtain ⟨client₁, _, _⟩ := first
  obtain ⟨client₂, statements, b⟩ := second
  obtain ⟨client, rfl, rfl⟩ := alike
  have called {α : Type} {out₁ out₂ : α × Client × Backend × Patience}
      (run : Client.AnswerAlike mode size reading out₁ out₂) (answer : α → Client.Answer) :
      some (answer out₂.1) = some (answer out₁.1) ∧
        Client.World.Alike mode size reading ⟨out₁.2.1, statements, out₁.2.2.1⟩
          ⟨out₂.2.1, statements, out₂.2.2.1⟩ :=
    ⟨congrArg (some ∘ answer) run.answer, run.client, rfl, congrArg Prod.fst run.rest⟩
  cases action with
  | request request patience => exact called (client.perform b patience request) .responded
  | event event =>
    cases event with
    | prepare text =>
      obtain ⟨answer, left⟩ := client.prepare text
      refine ⟨congrArg (some ∘ Client.Answer.prepared) answer, ?_⟩
      dsimp only [Client.World.act, Client.World.step]
      generalize client₁.prepare text = prepared₁ at answer left
      generalize client₂.prepare text = prepared₂ at answer left
      obtain ⟨outcome, left₁⟩ := prepared₁
      obtain ⟨outcome', left₂⟩ := prepared₂
      cases answer
      cases outcome <;> exact ⟨left, rfl, rfl⟩
    | execute text patience => exact called (client.execute b patience text) .executed
    | query text patience => exact called (client.query b patience text) .queried
    | change place change =>
      refine ⟨rfl, ?_⟩
      dsimp only [Client.World.act, Client.World.step]
      cases statements[place]? <;> exact ⟨client, rfl, rfl⟩
    | run place patience =>
      dsimp only [Client.World.answer?, Client.World.respond?, Client.World.act,
        Client.World.step]
      cases statements[place]? with
      | none => exact ⟨rfl, client, rfl, rfl⟩
      | some s =>
        obtain ⟨answer, kept, left, rest⟩ := client.run s b patience
        refine ⟨congrArg (some ∘ Client.Answer.ran) answer, left, ?_, congrArg Prod.fst rest⟩
        exact congrArg (statements.set place) kept
    | begin =>
      have run := client.begin b
      exact ⟨congrArg (some ∘ Client.Answer.acknowledged) run.answer, run.client, rfl, run.rest⟩
    | commit patience => exact called (client.commit b patience) .acknowledged
    | rollback patience => exact called (client.rollback b patience) .acknowledged
    | close patience => exact called (client.close b patience) .acknowledged
    | clearCache =>
      exact ⟨rfl, ⟨client.connection, client.reads₁.clear, client.reads₂.clear⟩, rfl, rfl⟩
    | control request textless patience =>
      exact called (client.perform b patience request) .responded
    | shared text =>
      have left : Client.Alike mode size reading
          { client₁ with cache := (client₁.cache.parse text).2 }
          { client₂ with cache := (client₂.cache.parse text).2 } :=
        ⟨client.connection, (client.reads₁.parse text).1, (client.reads₂.parse text).1⟩
      exact ⟨rfl, left, rfl, rfl⟩
    | stir stir => exact ⟨rfl, client, rfl, rfl⟩
    | inject call skip status => exact ⟨rfl, client, rfl, rfl⟩
    | setResultSets count => exact ⟨rfl, client, rfl, rfl⟩
    | queueReport report => exact ⟨rfl, client, rfl, rfl⟩

end Client.World.Alike

/-- What is only read touches nothing but the cache, which goes on reading as it did. -/
theorem Client.World.act_of_readsOnly {mode : ReadingMode} (w : Client.World)
    (reads : Cache.Valid mode w.client.cache) {action : Client.Action}
    (only : action.readsOnly = true) :
    ∃ cache, Cache.Valid mode cache ∧
      w.act action = { w with client := { w.client with cache := cache } } := by
  cases action with
  | request request patience => cases only
  | event event =>
    cases event with
    | clearCache => exact ⟨_, reads.clear, rfl⟩
    | shared text => exact ⟨_, (reads.parse text).1, rfl⟩
    | _ => cases only

/-! ## Groups -/

namespace ClientGroup

/-- Whether a call does nothing but read a text through the cache for others, or clear it. -/
def Call.readsOnly : Call → Bool
  | .act _ action => action.readsOnly
  | .drop _ => false

/-- All caches read in a mode. -/
def Reads (mode : ReadingMode) (group : ClientGroup) : Prop :=
  ∀ client ∈ group.clients, Cache.Valid mode client.cache

theorem Reads.set {mode : ReadingMode} {group : ClientGroup} (reads : group.Reads mode)
    {client : Client} (left : Cache.Valid mode client.cache) (place : Nat) :
    (group.set place client).Reads mode := by
  obtain ⟨clients, shares⟩ := group
  intro other member
  cases shares with
  | false =>
    rcases List.mem_or_eq_of_mem_set member with kept | rfl
    · exact reads other kept
    · exact left
  | true =>
    obtain ⟨one, -, rfl⟩ := List.mem_map.mp member
    exact left

theorem Reads.erase {mode : ReadingMode} {group : ClientGroup} (reads : group.Reads mode)
    (place : Nat) : (group.erase place).Reads mode :=
  fun other member => reads other (List.mem_of_mem_eraseIdx member)

/-- Groups that differ only in their caches, and in what their configurations say of reading. -/
structure Alike (mode : ReadingMode) (size : Nat) (reading : ReadingMode)
    (first second : ClientGroup) : Prop where
  connections : second.connections =
    first.connections.map (Connection.withReading · size reading)
  reads₁ : first.Reads mode
  reads₂ : second.Reads mode

/-- At one place there is a client in both groups, and the two are alike, or there is none in
either. -/
theorem Alike.client? {mode : ReadingMode} {size : Nat} {reading : ReadingMode}
    {first second : ClientGroup} (alike : Alike mode size reading first second) (place : Nat) :
    Option.Rel (Client.Alike mode size reading) first.clients[place]? second.clients[place]? := by
  have connections := congrArg (·[place]?) alike.connections
  dsimp only [ClientGroup.connections] at connections
  rw [List.getElem?_map, List.getElem?_map, List.getElem?_map] at connections
  cases found₁ : first.clients[place]? with
  | none =>
    cases found₂ : second.clients[place]? with
    | none => exact .none
    | some client₂ =>
      rw [found₁, found₂] at connections
      cases connections
  | some client₁ =>
    cases found₂ : second.clients[place]? with
    | none =>
      rw [found₁, found₂] at connections
      cases connections
    | some client₂ =>
      rw [found₁, found₂] at connections
      exact .some ⟨Option.some.inj connections,
        alike.reads₁ client₁ (List.mem_of_getElem? found₁),
        alike.reads₂ client₂ (List.mem_of_getElem? found₂)⟩

/-- A group that was just opened reads in the mode that it was opened with, all of it. -/
theorem Opens.reads {count : Nat} {config : Config} {mode : ReadingMode} {group : ClientGroup}
    (opens : Opens count config mode group) : group.Reads mode := by
  intro client member
  cases opens with
  | separate size =>
    rw [List.eq_of_mem_replicate member]
    exact .empty size mode
  | sharing size reading capacity =>
    rw [List.eq_of_mem_replicate member]
    exact .empty capacity mode

/-- Two groups that were opened alike differ only in how their connections are told to read. -/
theorem Opens.alike {count : Nat} {config : Config} {mode : ReadingMode}
    {first second : ClientGroup} (opens₁ : Opens count config mode first)
    (opens₂ : Opens count config mode second) :
    ∃ size reading, Alike mode size reading first second := by
  obtain ⟨sized, read, connections₁⟩ := opens₁.connections
  obtain ⟨size, reading, connections₂⟩ := opens₂.connections
  refine ⟨size, reading, ?_, opens₁.reads, opens₂.reads⟩
  rw [connections₁, connections₂, List.map_replicate]
  rfl

end ClientGroup

/-! ## Courses -/

/-- What can be told of a call: what it answers, and how it leaves the connections, the prepared
statements and the backend. -/
structure ClientGroup.Observation where
  answer? : Option Client.Answer
  states : List Connection.State
  statements : List PreparedStatement
  backend : Backend

namespace ClientGroup.World

def observe (w : ClientGroup.World) (call : ClientGroup.Call) : ClientGroup.Observation :=
  ⟨w.answer? call, (w.step call).states, (w.step call).statements, (w.step call).backend⟩

/-- What can be told of calls one after the other, without those that only read. -/
def course (w : ClientGroup.World) : List ClientGroup.Call → List ClientGroup.Observation
  | [] => []
  | call :: calls =>
    if call.readsOnly then (w.step call).course calls
    else w.observe call :: (w.step call).course calls

/-- Worlds of alike groups, with the same statements and the same backend. -/
structure Alike (mode : ReadingMode) (size : Nat) (reading : ReadingMode)
    (first second : ClientGroup.World) : Prop where
  group : ClientGroup.Alike mode size reading first.group second.group
  statements : second.statements = first.statements
  backend : second.backend = first.backend

variable {mode : ReadingMode} {size : Nat} {reading : ReadingMode}
  {first second : ClientGroup.World}

/-- A call that only reads changes nothing but caches, which go on reading as they did. -/
theorem step_of_readsOnly {w : ClientGroup.World} (reads : w.group.Reads mode)
    {call : ClientGroup.Call} (only : call.readsOnly = true) :
    ∃ group : ClientGroup, group.connections = w.group.connections ∧ group.Reads mode ∧
      w.step call = { w with group := group } := by
  cases call with
  | drop place => cases only
  | act place action =>
    cases found : w.group.clients[place]? with
    | none => exact ⟨w.group, rfl, reads, step_of_none found action⟩
    | some client =>
      obtain ⟨cache, left, acted⟩ := Client.World.act_of_readsOnly
        ⟨client, w.statements, w.backend⟩ (reads client (List.mem_of_getElem? found)) only
      refine ⟨w.group.set place { client with cache := cache }, ?_, reads.set left place, ?_⟩
      · have kept := ClientGroup.connections_set_self found
        exact (ClientGroup.connections_set ..).trans kept
      · rw [step_of_some found, acted]
        rfl

namespace Alike

/-- What can be seen of the connections does not depend on how they read. -/
theorem states (alike : Alike mode size reading first second) : second.states = first.states := by
  rw [World.states, World.states, alike.group.connections, List.map_map]
  rfl

/-- A client makes a call, and is answered alike. The others of its group, with the cache that they
may share with it, stay alike too. -/
theorem act (alike : Alike mode size reading first second) (place : Nat)
    (action : Client.Action) :
    second.answer? (.act place action) = first.answer? (.act place action) ∧
      Alike mode size reading (first.step (.act place action))
        (second.step (.act place action)) := by
  have places := alike.group.client? place
  generalize found₁ : first.group.clients[place]? = client₁ at places
  generalize found₂ : second.group.clients[place]? = client₂ at places
  cases places with
  | none =>
    rw [answer?_of_none found₁, answer?_of_none found₂, step_of_none found₁, step_of_none found₂]
    exact ⟨rfl, alike⟩
  | some client =>
    rw [answer?_of_some found₁, answer?_of_some found₂, step_of_some found₁, step_of_some found₂]
    have worlds : Client.World.Alike mode size reading
        ⟨_, first.statements, first.backend⟩ ⟨_, second.statements, second.backend⟩ :=
      ⟨client, alike.statements, alike.backend⟩
    obtain ⟨answer, left⟩ := worlds.act action
    refine ⟨answer, ⟨?_, ?_, ?_⟩, left.statements, left.backend⟩
    · rw [put, put, ClientGroup.connections_set, ClientGroup.connections_set,
        alike.group.connections, left.client.connection, List.map_set]
    · exact alike.group.reads₁.set left.client.reads₁ place
    · exact alike.group.reads₂.set left.client.reads₂ place

/-- Dropping the client at a place takes it out of both groups. -/
theorem drop (alike : Alike mode size reading first second) (place : Nat) :
    Alike mode size reading (first.step (.drop place)) (second.step (.drop place)) := by
  have places := alike.group.client? place
  generalize found₁ : first.group.clients[place]? = client₁ at places
  generalize found₂ : second.group.clients[place]? = client₂ at places
  cases places with
  | none =>
    rw [drop_of_none found₁, drop_of_none found₂]
    exact alike
  | some client =>
    rw [drop_of_some found₁, drop_of_some found₂]
    refine ⟨⟨?_, alike.group.reads₁.erase place, alike.group.reads₂.erase place⟩,
      alike.statements, ?_⟩
    · rw [ClientGroup.connections_erase, ClientGroup.connections_erase, alike.group.connections,
        ClientGroup.eraseIdx_map]
    · dsimp only
      rw [client.connection, Connection.drop_withReading, alike.backend]

/-- Each call is answered alike, and leaves the worlds alike. -/
theorem step (alike : Alike mode size reading first second) (call : ClientGroup.Call) :
    second.answer? call = first.answer? call ∧
      Alike mode size reading (first.step call) (second.step call) := by
  cases call with
  | act place action => exact alike.act place action
  | drop place => exact ⟨rfl, alike.drop place⟩

theorem observe (alike : Alike mode size reading first second) (call : ClientGroup.Call) :
    second.observe call = first.observe call := by
  obtain ⟨answer, left⟩ := alike.step call
  rw [World.observe, World.observe, answer, left.states, left.statements, left.backend]

/-- What one group only reads is not told from anything that the other one goes through, so it may
be left out there. -/
theorem readsOnly (alike : Alike mode size reading first second) {call : ClientGroup.Call}
    (only : call.readsOnly = true) : Alike mode size reading (first.step call) second := by
  obtain ⟨group, connections, reads, stepped⟩ := step_of_readsOnly alike.group.reads₁ only
  rw [stepped]
  refine ⟨⟨?_, reads, alike.group.reads₂⟩, alike.statements, alike.backend⟩
  rw [connections]
  exact alike.group.connections

/-- One group goes through the calls, the other one only through those that do more than read. Their
courses are the same, by induction on the calls. -/
theorem course_filter (alike : Alike mode size reading first second)
    (calls : List ClientGroup.Call) :
    first.course calls = second.course (calls.filter fun call => !call.readsOnly) := by
  induction calls generalizing first second with
  | nil => rfl
  | cons call calls ih =>
    cases only : call.readsOnly with
    | true =>
      rw [course, if_pos only, List.filter_cons_of_neg (by simp [only])]
      exact ih (alike.readsOnly only)
    | false =>
      rw [course, if_neg (by simp [only]), List.filter_cons_of_pos (by simp [only]), course,
        if_neg (by simp [only]), alike.observe call]
      exact congrArg _ (ih (alike.step call).2)

end Alike

end ClientGroup.World

/-- However the texts that have been read are kept, clients go through the same course. Two groups
are opened with one configuration and read in one mode; the caches may be of any sizes, with no room
at all, and each client's own or shared by all. If the same happens to both, but for the texts that
are read through the caches for others and for the clearing of caches, then every call answers the
same, and leaves the same connection states, the same rows in the prepared statements and the same
backend, with all that it has recorded. -/
theorem ClientGroup.World.course_independent_of_caches {count : Nat} {config : Config}
    {mode : ReadingMode} {first second : ClientGroup} (opens₁ : first.Opens count config mode)
    (opens₂ : second.Opens count config mode) (calls₁ calls₂ : List ClientGroup.Call)
    (same : (calls₁.filter fun call => !call.readsOnly) =
      calls₂.filter fun call => !call.readsOnly) :
    (ClientGroup.World.start first).course calls₁ =
      (ClientGroup.World.start second).course calls₂ := by
  obtain ⟨size, reading, alike⟩ := opens₁.alike opens₂
  obtain ⟨size', reading', self⟩ := opens₂.alike opens₂
  have both : World.Alike mode size reading (start first) (start second) := ⟨alike, rfl, rfl⟩
  have one : World.Alike mode size' reading' (start second) (start second) := ⟨self, rfl, rfl⟩
  rw [both.course_filter calls₁, same, one.course_filter calls₂]

/-- A statement is prepared through a shared cache with room for one, which then reads a text for
others and is cleared; or it is prepared without any cache. It is executed all the same. -/
theorem ClientGroup.World.course_independent_of_caches_evicted :
    let shared := ClientGroup.sharing 2 .default (.ofCapacity 1 .tolerant)
    let separate := ClientGroup.separate 2 (Config.default.withReading 0 .tolerant)
    let prepare : ClientGroup.Call := .act 0 (.event (.prepare "SELECT a FROM t WHERE b = ?"))
    let bind : ClientGroup.Call := .act 0 (.event (.change 0 (.bind (.index 1) (.text "c"))))
    let run : ClientGroup.Call := .act 1 (.event (.run 0 []))
    let calls := [prepare, .act 1 (.event (.shared "SELECT a FROM u")), bind,
      .act 1 (.event .clearCache), run]
    shared.Opens 2 .default .tolerant ∧ separate.Opens 2 .default .tolerant ∧
      (calls.filter fun call => !call.readsOnly) = [prepare, bind, run] ∧
      (start shared).course calls = (start separate).course [prepare, bind, run] ∧
      ((start separate).course [prepare, bind, run]).map
        (fun seen => Journal.dataStatements seen.backend.journal) = [0, 0, 1] := by
  intro shared separate prepare bind run calls
  have opens₁ : shared.Opens 2 .default .tolerant := .sharing 256 .tolerant 1
  have opens₂ : separate.Opens 2 .default .tolerant := .separate 0
  refine ⟨opens₁, opens₂, rfl, ?_, by decide +kernel⟩
  exact ClientGroup.World.course_independent_of_caches opens₁ opens₂ calls _ rfl

end SqlDriver
