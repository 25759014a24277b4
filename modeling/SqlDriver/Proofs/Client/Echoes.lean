import SqlDriver.Proofs.Client.History
import SqlDriver.Proofs.Client.Rows
import SqlDriver.Proofs.Connection.Echoes
import SqlDriver.Proofs.Query.Placeholders
import SqlDriver.Proofs.World.Agreement
import SqlDriver.Proofs.World.Sessions

/-!
What was bound is what the backend gets and gives back. On a connection that is open, in whatever
state a run has left it, a prepared data statement is sent once for each of its rows, and every row
comes back as result sets with its values under the names of the parameters. An execution that does
not succeed leaves the rows as they were, so the next one sends the same.
-/

namespace SqlDriver

/-! ## Result sets -/

/-- A result set gives a row of values back: its columns are named for the parameters, without the
dollar sign, and have the types that were bound, and its only row has the values. -/
structure ResultSet.Echoes (set : ResultSet) (parameters : List String) (row : NamedValues) :
    Prop where
  bound : row.map Prod.fst = parameters
  names : set.columns.map (fun column => "$" ++ column.name) = parameters
  types : set.columns.map Column.type = row.map fun entry => entry.2.type
  values : set.rows = [row.map fun entry => entry.2.value]

/-- The name of a parameter begins with one dollar sign. -/
theorem Descriptor.dollar_name {mode : ReadingMode} {text : String} {d : Descriptor}
    (parsed : Descriptor.parse mode text = .ok d) {name : String} (declared : name ∈ d.parameters) :
    "$" ++ String.ofList (name.toList.dropWhile (· = '$')) = name := by
  rcases Descriptor.parse_ok parsed with ⟨-, -, parameters⟩
  rw [parameters, Parameter.names, List.mem_map] at declared
  rcases declared with ⟨i, -, rfl⟩
  rw [← String.toList_inj, String.toList_append]
  simp only [String.toList_ofList]
  rw [Parameter.name, Parameter.stem, Parameter.base]
  simp

/-- A single row gives itself back. -/
theorem ResultSet.ofParameters_echoes {mode : ReadingMode} {text : String} {d : Descriptor}
    (parsed : Descriptor.parse mode text = .ok d) {row : NamedValues}
    (bound : row.map Prod.fst = d.parameters) :
    (ResultSet.ofParameters row).Echoes d.parameters row where
  bound := bound
  names := by
    rw [ResultSet.ofParameters, List.map_map, ← bound]
    refine List.map_congr_left fun entry member => ?_
    have declared : entry.1 ∈ d.parameters := by
      rw [← bound]
      exact List.mem_map_of_mem member
    exact Descriptor.dollar_name parsed declared
  types := by
    rw [ResultSet.ofParameters, List.map_map]
    rfl
  values := rfl

/-- Every row to execute has the declared parameters, in their order. -/
theorem Bindings.bound_of_mem {d : Descriptor} {calls : List Bindings.Call}
    {rows : List NamedValues} (prepared : (Bindings.run d calls).rowsToExecute = .ok rows)
    {row : NamedValues} (member : row ∈ rows) : row.map Prod.fst = d.parameters := by
  rcases Bindings.run_follows d calls with ⟨same, closed, opened, -, holds⟩
  have follow := holds.rows prepared
  rw [same] at follow
  generalize Bindings.executed closed opened = segments at follow
  clear prepared
  induction follow with
  | nil => cases member
  | cons rowOf _ ih =>
    rcases List.mem_cons.mp member with rfl | member
    · exact rowOf.names
    · exact ih member

/-! ## Requests -/

/-- The data statements that were carried out are those of the journal's texts. -/
theorem Journal.carriedOut_data (j : Journal) :
    Journal.carriedOut j .dataStatement =
      (Journal.texts j).countP fun statement => statement.1 = .data := by
  rw [Journal.texts, List.countP_filterMap, Journal.carriedOut]
  apply List.countP_congr
  intro entry _
  cases entry <;> simp [Entry.carriedOut?, Entry.text?]

/-- Where no refusal is left, every request of a kind was carried out or met one of them. -/
theorem Backend.Account.asked_eq {refusals : List (CallKind × Status)} {b : Backend}
    (account : b.Account refusals []) (untold : b.injections = []) {call : CallKind}
    (real : call ≠ .streamTail) :
    Journal.asked b.journal call =
      Journal.carriedOut b.journal call + refusals.countP fun refusal => refusal.1 = call := by
  rcases account.balanced with ⟨met, perm, balanced⟩
  rw [untold, List.map_nil, List.append_nil] at perm
  rw [balanced call real, perm.countP_eq, List.count_nil, Nat.add_zero]

/-- When no refusal is met, there are as many requests as statements. -/
theorem Backend.Adds.asked_eq {refusals : List (CallKind × Status)} {b b' : Backend} {count : Nat}
    {text : String} (adds : b.Adds (List.replicate count (.data, text)) b')
    (account : b.Account refusals []) (untold : b.injections = [])
    (account' : b'.Account refusals []) (untold' : b'.injections = []) :
    Journal.asked b'.journal .dataStatement = Journal.asked b.journal .dataStatement + count := by
  have real : CallKind.dataStatement ≠ .streamTail := by
    intro same
    cases same
  have added : Journal.carriedOut b'.journal .dataStatement =
      Journal.carriedOut b.journal .dataStatement + count := by
    rw [Journal.carriedOut_data, Journal.carriedOut_data, adds.texts_eq, List.countP_append,
      List.countP_replicate, if_pos (decide_eq_true rfl)]
  have before := account.asked_eq untold real
  have after := account'.asked_eq untold' real
  omega

/-! ## Executions -/

/-- The gate of a backend is open and stays open while a call is held up, and no refusal is set. -/
structure Backend.Serves (b : Backend) (patience : Patience) : Prop where
  gate : b.gateOpen = true
  untold : b.injections = []
  keeps : patience.KeepsGate

/-- A statement that asks for a data statement once for each of some rows, which is carried out and
gives the row back. Afterwards the statement is as new if it had sealed rows, and as it was if it
had none. An execution waits for the stream of an earlier statement, and it is not given up then if
there is none or the background is let run. -/
structure PreparedStatement.Echoes (s : PreparedStatement) (rows : List NamedValues)
    (client : Client) (b : Backend) (patience : Patience) : Prop where
  sends : (s.execute client b patience).1 ≠ .cancelled → ∃ results client' b' left,
    s.execute client b patience =
        (.done results, if s.batchLength = 0 then s else ⟨.empty s.bindings.descriptor⟩, client',
          b', left) ∧
      b.Adds (List.replicate rows.length (.data, s.bindings.descriptor.canonical)) b' ∧
      Journal.asked b'.journal .dataStatement =
        Journal.asked b.journal .dataStatement + rows.length ∧
      List.Forall₂ (fun result row => ∃ set, result = ⟨List.replicate b.resultSets set⟩ ∧
        set.Echoes s.bindings.descriptor.parameters row) results rows
  lasts : (client.connection.isDraining b = true → ∃ stirs ∈ patience, Stir.settle ∈ stirs) →
    (s.execute client b patience).1 ≠ .cancelled

section

variable {s : PreparedStatement} {rows : List NamedValues} {client : Client} {b : Backend}
  {patience : Patience}

/-- Executing a data statement is executing its rows on the connection. -/
theorem PreparedStatement.execute_eq (data : s.bindings.descriptor.kind = .data)
    (prepared : s.bindings.rowsToExecute = .ok rows) (client : Client) (b : Backend)
    (patience : Patience) :
    let out := client.connection.executeData b patience s.bindings.descriptor rows
    s.execute client b patience = (out.1, if out.1.isDone then s.afterExecution else s,
      { client with connection := out.2.1 }, out.2.2) := by
  rw [PreparedStatement.execute, Connection.executeBound_data data prepared]
  generalize client.connection.executeData b patience s.bindings.descriptor rows = out
  rcases out with ⟨outcome, c', rest⟩
  cases outcome <;> rfl

/-- An execution that nothing hinders, on a connection that is open. -/
theorem PreparedStatement.echoes_of_custody {others : List Hold}
    {refusals : List (CallKind × Status)}
    (custody : b.Custody (client.connection.holds ++ others) [])
    (accords : Connection.Accords refusals client.connection b)
    (usable : client.connection.state.isClosed = false) (serves : b.Serves patience)
    (data : s.bindings.descriptor.kind = .data) (prepared : s.bindings.rowsToExecute = .ok rows)
    (echoes : ∀ row ∈ rows,
      (ResultSet.ofParameters row).Echoes s.bindings.descriptor.parameters row) :
    s.Echoes rows client b patience := by
  have some : rows ≠ [] := Bindings.rowsToExecute_ne_nil prepared
  have answers : (client.connection.awaitDrain b patience).1 = true → ∃ client' b' left,
      s.execute client b patience =
          (.done (rows.map (.echo b.resultSets)), s.afterExecution, client', b', left) ∧
        b'.Account refusals [] ∧ b'.injections = [] := by
    intro waited
    rcases Connection.executeData_echoes custody accords.1 usable serves.gate serves.untold
      serves.keeps waited s.bindings.descriptor some with ⟨c', b', left, executed, untold⟩
    have obeys := (Connection.law_accords refusals).executeData accords patience
      s.bindings.descriptor rows
    rw [PreparedStatement.execute_eq data prepared]
    rw [executed] at obeys ⊢
    exact ⟨_, b', left, rfl, obeys.1.2, untold⟩
  constructor
  · intro unbroken
    have waited : (client.connection.awaitDrain b patience).1 = true := by
      by_contra givenUp
      apply unbroken
      rw [PreparedStatement.execute_eq data prepared]
      exact Connection.executeData_of_givenUp usable (Bool.eq_false_iff.mpr givenUp) _ some
    rcases answers waited with ⟨client', b', left, executed, account, untold⟩
    have adds := (PreparedStatement.execute_data data prepared executed).2.1
    have asked := adds.asked_eq accords.2 serves.untold account untold
    refine ⟨_, client', b', left, executed, adds, asked, ?_⟩
    rw [List.forall₂_map_left_iff, List.forall₂_same]
    intro row member
    exact ⟨_, rfl, echoes row member⟩
  · intro settles
    have waited : (client.connection.awaitDrain b patience).1 = true := by
      cases draining : client.connection.isDraining b with
      | false => rw [Connection.awaitDrain_of_not_draining draining]
      | true => exact Connection.awaitDrain_of_settle serves.gate serves.keeps (settles draining)
    rcases answers waited with ⟨client', b', left, executed, -⟩
    rw [executed]
    intro cancelled
    cases cancelled

/-- An execution on a connection that a run has left open. -/
theorem PreparedStatement.echoes_of_run {events : List World.Event} {place : Nat} {c : Connection}
    (found : (World.run events).connections[place]? = some c) (usable : c.state.isClosed = false)
    (cache : Cache) {mode : ReadingMode} {text : String} {d : Descriptor}
    (parsed : Descriptor.parse mode text = .ok d) (data : d.kind = .data)
    {calls : List Bindings.Call}
    (prepared : (Bindings.run d calls).rowsToExecute = .ok rows)
    (serves : (World.run events).backend.Serves patience) :
    PreparedStatement.Echoes ⟨Bindings.run d calls⟩ rows ⟨c, cache⟩ (World.run events).backend
      patience := by
  rcases World.accords_run events with ⟨agree, account⟩
  have accords := And.intro (agree c (List.mem_of_getElem? found)) account
  have same : (Bindings.run d calls).descriptor = d := (Bindings.run_follows d calls).1
  rcases List.getElem?_eq_some_iff.mp found with ⟨inside, rfl⟩
  have custody := (World.custody_run events).at_place inside
  have data' : (Bindings.run d calls).descriptor.kind = .data := by rwa [same]
  refine PreparedStatement.echoes_of_custody custody accords usable serves data' prepared ?_
  intro row member
  rw [same]
  exact ResultSet.ofParameters_echoes parsed (Bindings.bound_of_mem prepared member)

end

/-- What is bound is what the backend gets and gives back. A data statement is prepared from a text
that is accepted, some calls bind values to its parameters, and it is executed on a connection that
any run has left open, whatever the number of result sets the backend gives. While the gate is open
and no refusal is set, the backend gets the canonical text once for each row, and the answer has a
result for each row, in order: that many equal result sets with the names of the parameters, the
types and the values of the row. Then the statement is as new, or as it was if it had no sealed row.
An execution that fails or is given up, whatever the reason, leaves the statement as it was, so that
another one on what it has left does the same with the same rows. -/
theorem PreparedStatement.execute_echoes {events : List World.Event} {place : Nat}
    {c : Connection} (found : (World.run events).connections[place]? = some c)
    (usable : c.state.isClosed = false) (cache : Cache) {mode : ReadingMode} {text : String}
    {d : Descriptor} (parsed : Descriptor.parse mode text = .ok d) (data : d.kind = .data)
    {calls : List Bindings.Call} {rows : List NamedValues}
    (prepared : (Bindings.run d calls).rowsToExecute = .ok rows) :
    let s : PreparedStatement := ⟨Bindings.run d calls⟩
    let b := (World.run events).backend
    (∀ patience, b.Serves patience → s.Echoes rows ⟨c, cache⟩ b patience) ∧
      ∀ patience outcome s' client' b' left,
        s.execute ⟨c, cache⟩ b patience = (outcome, s', client', b', left) →
        outcome.isDone = false →
        s' = s ∧ ∀ patience', b'.Serves patience' → s'.Echoes rows client' b' patience' := by
  intro s b
  refine ⟨fun patience serves =>
    PreparedStatement.echoes_of_run found usable cache parsed data prepared serves, ?_⟩
  intro patience outcome s' client' b' left executed unfinished
  have same : s.bindings.descriptor = d := (Bindings.run_follows d calls).1
  have data' : s.bindings.descriptor.kind = .data := by rwa [same]
  have usable' := Connection.executeData_usable (b := b) usable patience d rows
  have reached := World.run_concat events (.call place (.data d rows) patience)
  rw [World.step, World.call, found, Option.map_some, Connection.perform] at reached
  rw [PreparedStatement.execute_eq data' prepared, same] at executed
  generalize c.executeData b patience d rows = run at usable' reached executed
  rcases run with ⟨ended, c', b'', left'⟩
  cases executed
  refine ⟨if_neg (Bool.eq_false_iff.mp unfinished), ?_⟩
  intro patience' serves
  rw [if_neg (Bool.eq_false_iff.mp unfinished)]
  have inside := (List.getElem?_eq_some_iff.mp found).1
  have found' : (World.run (events ++ [.call place (.data d rows) patience])).connections[place]? =
      some c' := by
    rw [reached]
    exact List.getElem?_set_self inside
  have backend : (World.run (events ++ [.call place (.data d rows) patience])).backend = b' := by
    rw [reached]
    rfl
  rw [← backend] at serves ⊢
  exact PreparedStatement.echoes_of_run found' usable' cache parsed data prepared serves

/-- Two rows, executed in a transaction after a statement that was given up. The first time the wait
for its stream is given up too; the second time the background is let run. -/
theorem PreparedStatement.execute_echoes_second_time :
    let text := "INSERT INTO t VALUES (?)"
    let d : Descriptor := ⟨text, "INSERT INTO t VALUES ($jp1)", .data, ["$jp1"], [.update]⟩
    let w := World.run [.setResultSets 2, .connect .default, .call 0 (.begin .default) [],
      .stir .closeGate, .call 0 (.data ⟨"DELETE", "DELETE", .data, [], [.update]⟩ []) [],
      .stir .openGate]
    let s : PreparedStatement := ⟨Bindings.run d [.change (.bind (.index 1) (.bool true)),
      .change .add, .change (.bindNull (.name "$jp1") .text)]⟩
    Descriptor.parse .strict text = .ok d ∧ w.backend.gateOpen = true ∧ w.backend.injections = [] ∧
      ∃ c client b left, w.connections[0]? = some c ∧ c.isDraining w.backend = true ∧
        s.execute ⟨c, .default⟩ w.backend [] = (.cancelled, s, client, b, left) ∧
        ∃ first second client' b' left',
          s.execute client b [[.settle]] = (.done [first, second], ⟨.empty d⟩, client', b', left') ∧
          b.Adds [(.data, d.canonical), (.data, d.canonical)] b' ∧
          (∃ set, first = ⟨[set, set]⟩ ∧ set.Echoes ["$jp1"] [("$jp1", ⟨.bool true, .bool⟩)]) ∧
          ∃ set, second = ⟨[set, set]⟩ ∧ set.Echoes ["$jp1"] [("$jp1", ⟨.null, .text⟩)] := by
  intro text d w s
  have parsed : Descriptor.parse .strict text = .ok d := by decide +kernel
  have prepared : s.bindings.rowsToExecute =
      .ok [[("$jp1", ⟨.bool true, .bool⟩)], [("$jp1", ⟨.null, .text⟩)]] := rfl
  have gate : w.backend.gateOpen = true := by decide +kernel
  have untold : w.backend.injections = [] := by decide +kernel
  have state : (w.connections[0]?.map fun c =>
      (c.state.isClosed, c.isDraining w.backend)) = some (false, true) := by decide +kernel
  have left : (w.connections[0]?.map fun c =>
      let b := (s.execute ⟨c, .default⟩ w.backend []).2.2.2.1
      (b.gateOpen, b.injections, b.resultSets)) = some (true, [], 2) := by decide +kernel
  rcases Option.map_eq_some_iff.mp state with ⟨c, found, facts⟩
  rcases Prod.mk.inj facts with ⟨usable, draining⟩
  rw [found, Option.map_some] at left
  have givenUp : (s.execute ⟨c, .default⟩ w.backend []).1 = .cancelled := by
    rw [PreparedStatement.execute_eq rfl prepared]
    apply Connection.executeData_of_givenUp usable
    · rw [Connection.awaitDrain, if_pos draining]
    · exact Bindings.rowsToExecute_ne_nil prepared
  rcases PreparedStatement.execute_echoes found usable .default parsed rfl prepared with
    ⟨-, again⟩
  generalize first : s.execute ⟨c, .default⟩ w.backend [] = run at givenUp left
  rcases run with ⟨outcome, s', client, b, rest⟩
  cases givenUp
  rcases again _ _ _ _ _ _ first rfl with ⟨rfl, echoes⟩
  rcases Prod.mk.inj (Option.some.inj left) with ⟨gate', others⟩
  rcases Prod.mk.inj others with ⟨untold', count⟩
  have keeps : Patience.KeepsGate [[.settle]] := by
    intro stirs member
    rw [List.mem_singleton.mp member]
    decide
  rcases echoes [[.settle]] ⟨gate', untold', keeps⟩ with ⟨sends, lasts⟩
  have settles : ∃ stirs ∈ ([[.settle]] : Patience), Stir.settle ∈ stirs :=
    ⟨[.settle], List.mem_singleton_self _, List.mem_singleton_self _⟩
  rcases sends (lasts fun _ => settles) with ⟨results, client', b', left', second, adds, -, rows⟩
  cases rows with
  | cons one rows =>
    cases rows with
    | cons two rows =>
      cases rows
      rw [count] at one two
      exact ⟨parsed, gate, untold, c, client, b, rest, found, draining, first, _, _, client', b',
        left', second, adds, one, two⟩

end SqlDriver
