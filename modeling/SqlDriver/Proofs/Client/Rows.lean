import Mathlib.Data.List.Basic
import SqlDriver.Client.Prepared
import SqlDriver.Proofs.Connection.Texts

/-!
The rows of a prepared statement. A data statement is executed once for each row to execute, in
order, and answers with one result for each; so do the calls for its rows one by one. A schema
statement takes no values, and is carried out once however many rows were added.
-/

namespace SqlDriver

/-- There is always a row to execute: the current one, or those that were sealed. So an execution
that succeeds has sent its statement at least once. -/
theorem Bindings.rowsToExecute_ne_nil {bindings : Bindings} {rows : List NamedValues}
    (prepared : bindings.rowsToExecute = .ok rows) : rows ≠ [] := by
  rw [Bindings.rowsToExecute] at prepared
  split at prepared
  · rename_i sealedOnly
    cases prepared
    rw [Bool.and_eq_true, Bool.not_eq_true', List.isEmpty_eq_false_iff] at sealedOnly
    exact mt List.map_eq_nil_iff.mp sealedOnly.2
  · cases checked : bindings.check with
    | error error =>
      rw [checked] at prepared
      cases prepared
    | ok complete =>
      rw [checked] at prepared
      cases prepared
      simp

/-- A call for some rows that succeeds answers with the results of the calls for each of them, in
order, and leaves what they leave. -/
theorem Connection.executeData_each {c : Connection} {b : Backend} {patience : Patience}
    {descriptor : Descriptor} {rows : List NamedValues} (some : rows ≠ [])
    {results : List QueryResult} {rest : Connection × Backend × Patience}
    (executed : c.executeData b patience descriptor rows = (.done results, rest)) :
    results.length = rows.length ∧
      c.executeEach b patience descriptor rows =
        (results.map fun result => .done [result], rest) := by
  cases closed : c.state.isClosed with
  | true =>
    unfold Connection.executeData at executed
    rw [if_pos closed] at executed
    cases executed
  | false =>
    match rows, some with
    | [row], _ =>
      rw [Connection.executeEach, executed]
      rw [Connection.executeData_single closed] at executed
      generalize c.executeOne b patience descriptor.canonical row = run at executed
      obtain ⟨outcome, rest'⟩ := run
      cases outcome with
      | done result =>
        cases executed
        exact ⟨rfl, rfl⟩
      | failed error => cases executed
      | cancelled => cases executed
    | first :: second :: others, _ =>
      have several : 2 ≤ (first :: second :: others).length := Nat.le_add_left 2 others.length
      obtain ⟨same, combines⟩ := Connection.executeAll_combines closed b patience descriptor []
        (first :: second :: others)
      rw [← Connection.executeData_several closed b patience descriptor several, executed]
        at same combines
      generalize c.executeEach b patience descriptor (first :: second :: others) = each
        at same combines
      obtain ⟨answers, rest'⟩ := each
      cases same
      generalize answer : (Outcome.done results : Outcome (List QueryResult)) = outcome at combines
      cases combines with
      | done results' all =>
        cases answer
        exact ⟨all, rfl⟩
      | failed results' some error => cases answer
      | cancelled results' some => cases answer

/-! ## Bound rows on a connection -/

section

variable {c : Connection} {b : Backend} {patience : Patience} {bindings : Bindings}

/-- The rows of a data statement are executed as a batch on the connection. -/
theorem Connection.executeBound_data (data : bindings.descriptor.kind = .data)
    {rows : List NamedValues} (prepared : bindings.rowsToExecute = .ok rows) :
    c.executeBound b patience bindings = c.executeData b patience bindings.descriptor rows := by
  rw [Connection.executeBound, data]
  dsimp only
  rw [prepared]

/-- A schema statement is carried out once, without an open transaction, or not at all. -/
theorem Connection.executeBound_schema (c : Connection) (b : Backend) (patience : Patience)
    (schema : bindings.descriptor.kind = .schema) :
    let out := c.executeBound b patience bindings
    out.2.1 = c ∧
      ((out.1 = .done [.empty] ∧ (∃ settings, c.state = .outside settings) ∧
          out.2.2.1.journal = b.journal ++
            c.config.schemaEntries (Journal.acquired b.journal + 1)
              bindings.descriptor.canonical) ∨
        out.1.isDone = false ∧ b.Adds [] out.2.2.1) := by
  dsimp only
  rw [Connection.executeBound, schema]
  dsimp only
  split
  · cases bindings.check with
    | error error => exact ⟨rfl, Or.inr ⟨rfl, .refl b⟩⟩
    | ok complete =>
      have adds := c.executeSchema_adds b bindings.descriptor.canonical
      dsimp only at adds ⊢
      generalize c.executeSchema b bindings.descriptor.canonical = run at adds
      obtain ⟨outcome, b'⟩ := run
      refine ⟨rfl, ?_⟩
      rcases adds with ⟨rfl, outside, whole⟩ | ⟨failed, adds⟩
      · exact Or.inl ⟨rfl, outside, whole⟩
      · exact Or.inr ⟨(Outcome.isDone_map _ _).trans failed, adds⟩
  · exact ⟨rfl, Or.inr ⟨rfl, .refl b⟩⟩

end

/-! ## Prepared statements -/

section

variable {s s' : PreparedStatement} {client client' : Client} {b b' : Backend}
  {patience patience' : Patience} {results : List QueryResult} {rows : List NamedValues}

/-- A prepared statement that succeeds has executed its rows on the connection, and answers with
what came of them. -/
theorem PreparedStatement.executeBound_of_execute
    (executed : s.execute client b patience = (.done results, s', client', b', patience')) :
    client.connection.executeBound b patience s.bindings =
      (.done results, client'.connection, b', patience') := by
  rw [PreparedStatement.execute] at executed
  generalize client.connection.executeBound b patience s.bindings = run at executed
  obtain ⟨outcome, connection, b'', patience''⟩ := run
  cases outcome with
  | done results' =>
    cases executed
    rfl
  | failed error => cases executed
  | cancelled => cases executed

/-- A prepared data statement that succeeds has sent its canonical text once for each row, and has a
result for each. -/
theorem PreparedStatement.execute_data (data : s.bindings.descriptor.kind = .data)
    (prepared : s.bindings.rowsToExecute = .ok rows)
    (executed : s.execute client b patience = (.done results, s', client', b', patience')) :
    let descriptor := s.bindings.descriptor
    results.length = rows.length ∧
      b.Adds (List.replicate rows.length (.data, descriptor.canonical)) b' ∧
      client.connection.executeEach b patience descriptor rows =
        (results.map fun result => .done [result], client'.connection, b', patience') := by
  have bound := PreparedStatement.executeBound_of_execute executed
  rw [Connection.executeBound_data data prepared] at bound
  have nonempty := Bindings.rowsToExecute_ne_nil prepared
  obtain ⟨length, each⟩ := Connection.executeData_each nonempty bound
  obtain ⟨count, low, high, adds⟩ :=
    client.connection.executeData_sends b patience s.bindings.descriptor rows
  rw [bound] at low adds
  have all : max 1 rows.length = rows.length :=
    Nat.max_eq_right (List.length_pos_iff.mpr nonempty)
  rw [all] at high
  obtain rfl : count = rows.length :=
    Nat.le_antisymm high (Nat.le_trans (Nat.le_of_eq all.symm) low)
  exact ⟨length, adds, each⟩

/-- A prepared schema statement that succeeds has sent its canonical text once, however many rows
were sealed for it. -/
theorem PreparedStatement.execute_schema (schema : s.bindings.descriptor.kind = .schema)
    (executed : s.execute client b patience = (.done results, s', client', b', patience')) :
    results = [.empty] ∧ b.Adds [(.schema, s.bindings.descriptor.canonical)] b' ∧
      client'.connection = client.connection := by
  have bound := PreparedStatement.executeBound_of_execute executed
  obtain ⟨same, done | ⟨failed, -⟩⟩ :=
    client.connection.executeBound_schema b patience schema
  · rw [bound] at same done
    obtain ⟨empty, -, whole⟩ := done
    cases empty
    exact ⟨rfl, ⟨_, whole, Config.texts_schemaEntries _ _ _⟩, same⟩
  · rw [bound] at failed
    cases failed

/-- What a prepared statement answers with that succeeds. A data statement was executed for each of
its rows: it answers with the results of the calls for the rows one by one, in order, leaves what
these leave, and the journal has the statement once for each row. A schema statement was carried out
once, whatever the number of rows. So there is one result for each row exactly when the statement is
a data statement or the row is the only one. -/
theorem PreparedStatement.execute_results (prepared : s.bindings.rowsToExecute = .ok rows)
    (executed : s.execute client b patience = (.done results, s', client', b', patience')) :
    let descriptor := s.bindings.descriptor
    (descriptor.kind = .data →
        results.length = rows.length ∧
          b.Adds (List.replicate rows.length (.data, descriptor.canonical)) b' ∧
          client.connection.executeEach b patience descriptor rows =
            (results.map fun result => .done [result], client'.connection, b', patience')) ∧
      (descriptor.kind = .schema →
        results = [.empty] ∧ b.Adds [(.schema, descriptor.canonical)] b' ∧
          client'.connection = client.connection) ∧
      (results.length = rows.length ↔ descriptor.kind = .data ∨ rows.length = 1) := by
  intro descriptor
  refine ⟨fun data => PreparedStatement.execute_data data prepared executed,
    fun schema => PreparedStatement.execute_schema schema executed, ?_⟩
  cases kind : descriptor.kind with
  | data =>
    exact iff_of_true (PreparedStatement.execute_data kind prepared executed).1 (Or.inl rfl)
  | schema =>
    obtain ⟨rfl, -⟩ := PreparedStatement.execute_schema kind executed
    constructor
    · exact fun same => Or.inr same.symm
    · rintro (data | single)
      · cases data
      · exact single.symm

end

/-- An insertion with a sealed row and one that is complete but was not sealed. -/
theorem PreparedStatement.execute_results_two_rows :
    let insert : Descriptor := ⟨"INSERT INTO t VALUES (?)", "INSERT INTO t VALUES ($jp1)", .data,
      ["$jp1"], [.update]⟩
    let s : PreparedStatement := ⟨⟨insert, [[("$jp1", ⟨.bool true, .bool⟩)]],
      [("$jp1", ⟨.bool false, .bool⟩)]⟩⟩
    ∃ rows results s' client' b' patience',
      s.bindings.rowsToExecute = .ok rows ∧
      s.execute (.open .default) .fresh [] = (.done results, s', client', b', patience') ∧
      rows.length = 2 ∧ results.length = 2 ∧
      Backend.fresh.Adds (List.replicate 2 (.data, "INSERT INTO t VALUES ($jp1)")) b' := by
  intro insert s
  have prepared : s.bindings.rowsToExecute =
      .ok [[("$jp1", ⟨.bool true, .bool⟩)], [("$jp1", ⟨.bool false, .bool⟩)]] := rfl
  have succeeds : (s.execute (.open .default) .fresh []).1.isDone = true := by decide +kernel
  obtain ⟨results, done⟩ := Outcome.eq_done_of_isDone succeeds
  generalize executed : s.execute (.open .default) .fresh [] = run at done
  obtain ⟨outcome, s', client', b', patience'⟩ := run
  obtain rfl : outcome = .done results := done
  obtain ⟨data, -, -⟩ := PreparedStatement.execute_results prepared executed
  obtain ⟨length, adds, -⟩ := data rfl
  exact ⟨_, results, s', client', b', patience', prepared, rfl, rfl, length, adds⟩

/-- A schema statement to which two rows were added is carried out once, and answers with one
result. -/
theorem PreparedStatement.schema_rows_run_once :
    let create := "CREATE TABLE t (id Int32)"
    let descriptor : Descriptor := ⟨create, create, .schema, [], [.scheme]⟩
    let s : PreparedStatement := (PreparedStatement.add (PreparedStatement.add
      ⟨.empty descriptor⟩).2).2
    Descriptor.parse .tolerant create = .ok descriptor ∧
      s.bindings.rowsToExecute = .ok [[], []] ∧
      ∃ results s' client' b' patience',
        s.execute (.open .default) .fresh [] = (.done results, s', client', b', patience') ∧
        results.length = 1 ∧ Journal.texts b'.journal = [(.schema, create)] := by
  intro create descriptor s
  refine ⟨by decide +kernel, rfl, ?_⟩
  have succeeds : (s.execute (.open .default) .fresh []).1.isDone = true := by decide +kernel
  have texts : Journal.texts (s.execute (.open .default) .fresh []).2.2.2.1.journal =
      [(.schema, create)] := by
    decide +kernel
  obtain ⟨results, done⟩ := Outcome.eq_done_of_isDone succeeds
  generalize executed : s.execute (.open .default) .fresh [] = run at done texts
  obtain ⟨outcome, s', client', b', patience'⟩ := run
  obtain rfl : outcome = .done results := done
  obtain ⟨rfl, -⟩ := PreparedStatement.execute_schema rfl executed
  exact ⟨[.empty], s', client', b', patience', rfl, rfl, texts⟩

end SqlDriver
