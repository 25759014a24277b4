import SqlDriver.Proofs.Connection.Paths

/-!
Batches. A batch is nothing but its rows: it does to the connection and to the backend what a call
for each row alone does, one after the other, up to the first that does not succeed. It answers with
the results of all rows, or with the results of the rows before the failing one and the error of
that row, which is the backend's own: a row of a connection that is not closed fails with nothing
else, and does not close it.
-/

namespace SqlDriver

/-- Makes a call for each row alone, in order, up to the first that does not succeed. The answers
are those of the calls that were made. -/
def Connection.executeEach (c : Connection) (b : Backend) (patience : Patience)
    (descriptor : Descriptor) :
    List NamedValues → List (Outcome (List QueryResult)) × Connection × Backend × Patience
  | [] => ([], c, b, patience)
  | row :: rows =>
    match c.executeData b patience descriptor [row] with
    | (.done results, c, b, patience) =>
      let (answers, rest) := c.executeEach b patience descriptor rows
      (.done results :: answers, rest)
    | (answer, rest) => ([answer], rest)

/-! ## One row -/

/-- A row leaves the connection usable, and fails with nothing but an error of the backend. -/
def Connection.Serves {α : Type} (out : Outcome α × Connection × Backend × Patience) : Prop :=
  out.2.1.state.isClosed = false ∧ ∀ error, out.1 = .failed error → ∃ e, error = .backend e

section OneRow

variable {c : Connection} {b : Backend} {patience : Patience}

theorem Connection.serves_done {α : Type} (usable : c.state.isClosed = false) (value : α) :
    Connection.Serves (.done value, c, b, patience) :=
  ⟨usable, by intro error failed; cases failed⟩

theorem Connection.serves_refused {α : Type} (usable : c.state.isClosed = false)
    (error : BackendError) :
    Connection.Serves ((.failed (.backend error) : Outcome α), c, b, patience) :=
  ⟨usable, by intro other failed; cases failed; exact ⟨error, rfl⟩⟩

theorem Connection.serves_cancelled {α : Type} (usable : c.state.isClosed = false) :
    Connection.Serves ((.cancelled : Outcome α), c, b, patience) :=
  ⟨usable, by intro error failed; cases failed⟩

/-- Following what was reported of a transaction does not close a connection: at most it takes it
outside. -/
theorem Connection.isClosed_followReport (usable : c.state.isClosed = false)
    (reported : Option TransactionId) : (c.followReport b reported).1.state.isClosed = false := by
  cases state : c.state with
  | closed =>
    rw [state] at usable
    cases usable
  | _ => cases reported <;> simp [Connection.followReport, Connection.leave, state,
      Connection.State.isClosed]

/-- Taking in a stream fails for nothing but an error of the backend. -/
theorem ResultStream.collect_fails {stream : ResultStream} {error : DriverError} {rest}
    (failed : stream.collect b patience = (.failed error, rest)) : ∃ e, error = .backend e := by
  rw [ResultStream.collect] at failed
  split at failed <;> cases failed
  exact ⟨_, rfl⟩

/-- A statement in an open transaction leaves the connection usable, whatever it comes to. -/
theorem Connection.executeInside_serves (c : Connection) (b : Backend) (patience : Patience)
    (transaction : TransactionId) (session : Session) (settings : TransactionSettings)
    (text : String) (parameters : NamedValues) :
    Connection.Serves
      (c.executeInside b patience transaction session settings text parameters) := by
  rw [Connection.executeInside]
  generalize session.runData b text _ parameters _ = started
  obtain ⟨answer, session', b'⟩ := started
  cases answer with
  | error error => exact Connection.serves_refused rfl error
  | ok stream =>
    simp only
    cases collected : stream.collect b' patience with
    | mk outcome rest =>
      cases outcome with
      | done contents => exact Connection.serves_done (Connection.isClosed_followReport rfl _) _
      | failed error =>
        obtain ⟨e, rfl⟩ := ResultStream.collect_fails collected
        exact Connection.serves_refused rfl e
      | cancelled => exact Connection.serves_cancelled rfl

theorem Config.runData_fails {config : Config} {text : String} {control : TransactionControl}
    {parameters : NamedValues} {error : DriverError} {rest}
    (failed : config.runData b patience text control parameters = (.failed error, rest)) :
    ∃ e, error = .backend e := by
  rw [Config.runData] at failed
  split at failed
  · cases failed
    exact ⟨_, rfl⟩
  · split at failed
    · cases failed
      exact ⟨_, rfl⟩
    · rw [ResultStream.collectWith] at failed
      split at failed <;> cases failed <;> exact ⟨_, rfl⟩

/-- A statement outside a transaction leaves the connection usable, inside or outside. -/
theorem Connection.executeOutside_serves (usable : c.state.isClosed = false) (b : Backend)
    (patience : Patience) (settings : TransactionSettings) (text : String)
    (parameters : NamedValues) :
    Connection.Serves (c.executeOutside b patience settings text parameters) := by
  rw [Connection.executeOutside]
  cases ran : c.config.runData b patience text (.start settings.mode settings.autoCommit)
      parameters with
  | mk outcome rest =>
    cases outcome with
    | done value =>
      obtain ⟨contents, session⟩ := value
      simp only
      split
      · exact Connection.serves_done rfl _
      · exact Connection.serves_done usable _
    | failed error =>
      obtain ⟨e, rfl⟩ := Config.runData_fails ran
      exact Connection.serves_refused usable e
    | cancelled => exact Connection.serves_cancelled usable

/-- A connection that is not closed serves each row: it is not closed after it either, and fails for
nothing but the backend. So the next row is always tried on a connection that can be used. -/
theorem Connection.executeOne_serves (usable : c.state.isClosed = false) (b : Backend)
    (patience : Patience) (text : String) (parameters : NamedValues) :
    Connection.Serves (c.executeOne b patience text parameters) := by
  have waits := c.awaitsDrain b patience
  rw [Connection.executeOne]
  generalize c.awaitDrain b patience = wait at waits
  obtain ⟨drained, c', b', patience'⟩ := wait
  have usable' : c'.state.isClosed = false := (congrArg _ waits.state).trans usable
  cases drained with
  | false => exact Connection.serves_cancelled usable'
  | true =>
    simp only
    split
    · exact c'.executeInside_serves ..
    · exact Connection.executeOutside_serves usable' ..
    · rename_i state
      rw [state] at usable'
      cases usable'

/-- A call for one row runs it, and wraps its result alone. -/
theorem Connection.executeData_single (usable : c.state.isClosed = false) (b : Backend)
    (patience : Patience) (descriptor : Descriptor) (row : NamedValues) :
    c.executeData b patience descriptor [row] =
      ((c.executeOne b patience descriptor.canonical row).1.map ([·]),
        (c.executeOne b patience descriptor.canonical row).2) := by
  rw [Connection.executeData, usable]
  rfl

/-- A call for several rows is a batch, which starts without a result. -/
theorem Connection.executeData_several (usable : c.state.isClosed = false) (b : Backend)
    (patience : Patience) (descriptor : Descriptor) {rows : List NamedValues}
    (several : 2 ≤ rows.length) :
    c.executeData b patience descriptor rows =
      c.executeAll b patience descriptor.canonical [] rows := by
  match rows, several with
  | _ :: _ :: _, _ =>
    rw [Connection.executeData, usable]
    · rfl
    · simp
    · simp

/-- A call for at most one row is one for a single row, and a call for several is a batch. -/
theorem Connection.executeData_rows (usable : c.state.isClosed = false) (b : Backend)
    (patience : Patience) (descriptor : Descriptor) (rows : List NamedValues) :
    (∃ row, max 1 rows.length = 1 ∧ c.executeData b patience descriptor rows =
        ((c.executeOne b patience descriptor.canonical row).1.map ([·]),
          (c.executeOne b patience descriptor.canonical row).2)) ∨
      ∃ first rest, rows = first :: rest ∧ c.executeData b patience descriptor rows =
        c.executeAll b patience descriptor.canonical [] (first :: rest) := by
  match rows with
  | [] => exact Or.inl ⟨[], rfl, Connection.executeData_single usable b patience descriptor []⟩
  | [row] => exact Or.inl ⟨row, rfl, Connection.executeData_single usable b patience descriptor row⟩
  | first :: second :: rest =>
    have several : 2 ≤ (first :: second :: rest).length := Nat.le_add_left 2 rest.length
    exact Or.inr ⟨first, second :: rest, rfl,
      Connection.executeData_several usable b patience descriptor several⟩

end OneRow

/-! ## Rows one by one -/

/-- The answer of a batch of `count` rows, by the answers of its rows alone, when the results
`before` are already there. -/
inductive Connection.Combines (before : List QueryResult) (count : Nat) :
    List (Outcome (List QueryResult)) → Outcome (List QueryResult) → Prop
  | done (results : List QueryResult) (all : results.length = count) :
      Connection.Combines before count (results.map fun result => .done [result])
        (.done (before ++ results))
  | failed (results : List QueryResult) (some : results.length < count) (error : BackendError) :
      Connection.Combines before count
        (results.map (fun result => .done [result]) ++ [.failed (.backend error)])
        (.failed (.batch (before ++ results).length (before ++ results) (.backend error)))
  | cancelled (results : List QueryResult) (some : results.length < count) :
      Connection.Combines before count
        (results.map (fun result => .done [result]) ++ [.cancelled]) .cancelled

/-- The result of a row that comes first. -/
theorem Connection.Combines.cons {before : List QueryResult} {count : Nat} {result : QueryResult}
    {answers : List (Outcome (List QueryResult))} {answer : Outcome (List QueryResult)}
    (combines : Connection.Combines (before ++ [result]) count answers answer) :
    Connection.Combines before (count + 1) (.done [result] :: answers) answer := by
  cases combines with
  | done results all =>
    rw [List.append_assoc]
    exact .done (result :: results) (congrArg _ all)
  | failed results some error =>
    rw [List.append_assoc]
    exact .failed (result :: results) (Nat.succ_lt_succ some) error
  | cancelled results some => exact .cancelled (result :: results) (Nat.succ_lt_succ some)

/-- The rows of a batch leave what they leave one by one. The induction is on the rows, and every
row leaves the connection usable for the next. -/
theorem Connection.executeAll_combines {c : Connection} (usable : c.state.isClosed = false)
    (b : Backend) (patience : Patience) (descriptor : Descriptor) (before : List QueryResult)
    (rows : List NamedValues) :
    let batch := c.executeAll b patience descriptor.canonical before rows
    let each := c.executeEach b patience descriptor rows
    batch.2 = each.2 ∧ Connection.Combines before rows.length each.1 batch.1 := by
  induction rows generalizing c b patience before with
  | nil =>
    refine ⟨rfl, ?_⟩
    have none : Connection.Combines before 0 [] (.done (before ++ [])) := .done [] rfl
    rwa [List.append_nil] at none
  | cons row rows ih =>
    have serves := Connection.executeOne_serves usable b patience descriptor.canonical row
    rw [Connection.executeAll, Connection.executeEach, Connection.executeData_single usable]
    generalize c.executeOne b patience descriptor.canonical row = run at serves
    obtain ⟨outcome, c', b', patience'⟩ := run
    cases outcome with
    | done result =>
      obtain ⟨same, combines⟩ := ih serves.1 b' patience' (before ++ [result])
      exact ⟨same, combines.cons⟩
    | failed error =>
      obtain ⟨e, rfl⟩ := serves.2 error rfl
      have first : Connection.Combines before (rows.length + 1) [.failed (.backend e)]
          (.failed (.batch (before ++ []).length (before ++ []) (.backend e))) :=
        .failed [] (Nat.succ_pos rows.length) e
      rw [List.append_nil] at first
      exact ⟨rfl, first⟩
    | cancelled => exact ⟨rfl, .cancelled [] (Nat.succ_pos rows.length)⟩

/-- A batch is its rows run one by one. It leaves the connection and the backend as a call for each
row alone does, in order, up to the first that does not succeed; and it answers with the results of
all rows, or tells how many rows were completed, with their results, and the error of the next,
which is one of the backend's and nothing else. No rows at all are one row without parameters. -/
theorem Connection.batch_runs_rows {c : Connection} (usable : c.state.isClosed = false)
    (b : Backend) (patience : Patience) (descriptor : Descriptor) {rows : List NamedValues}
    (several : 2 ≤ rows.length) :
    let batch := c.executeData b patience descriptor rows
    let each := c.executeEach b patience descriptor rows
    batch.2 = each.2 ∧
      (∃ results : List QueryResult,
        results.length = rows.length ∧
            each.1 = results.map (fun result => .done [result]) ∧ batch.1 = .done results ∨
          results.length < rows.length ∧
            ((∃ error : BackendError,
                each.1 =
                  results.map (fun result => .done [result]) ++ [.failed (.backend error)] ∧
                batch.1 = .failed (.batch results.length results (.backend error))) ∨
              each.1 = results.map (fun result => .done [result]) ++ [.cancelled] ∧
                batch.1 = .cancelled)) ∧
      c.executeData b patience descriptor [] = c.executeData b patience descriptor [[]] := by
  intro batch each
  obtain ⟨same, combines⟩ : batch.2 = each.2 ∧
      Connection.Combines [] rows.length each.1 batch.1 := by
    have whole := Connection.executeAll_combines usable b patience descriptor [] rows
    rwa [← Connection.executeData_several usable b patience descriptor several] at whole
  refine ⟨same, ?_, rfl⟩
  generalize each.1 = answers at combines
  generalize batch.1 = answer at combines
  cases combines with
  | done results all => exact ⟨results, Or.inl ⟨all, rfl, rfl⟩⟩
  | failed results some error => exact ⟨results, Or.inr ⟨some, Or.inl ⟨error, rfl, rfl⟩⟩⟩
  | cancelled results some => exact ⟨results, Or.inr ⟨some, Or.inr ⟨rfl, rfl⟩⟩⟩

/-- A batch outside a transaction, without automatic committing, whose second row is refused: the
first has opened a transaction, and the third is not run. -/
theorem Connection.batch_stops_at_second_row :
    let insert : Descriptor := ⟨"INSERT", "INSERT", .data, [], [.update]⟩
    let c := (Connection.open .default).changeSettings (·.withAutoCommit false) |>.2
    let b := Backend.fresh.inject .dataStatement 1 .unavailable
    let batch := c.executeData b [] insert [[], [], []]
    let each := c.executeEach b [] insert [[], [], []]
    c.state.isClosed = false ∧ batch.2 = each.2 ∧
      batch.2.1.state.transaction? = some (.issued 0) ∧
      Journal.dataStatements batch.2.2.1.journal = 1 ∧
      ∃ result : QueryResult,
        each.1 = [.done [result], .failed (.backend ⟨.unavailable, .injected .dataStatement⟩)] ∧
        batch.1 = .failed
          (.batch 1 [result] (.backend ⟨.unavailable, .injected .dataStatement⟩)) := by
  intro insert c b batch each
  have usable : c.state.isClosed = false := by decide +kernel
  have several : 2 ≤ ([[], [], []] : List NamedValues).length := by decide
  obtain ⟨same, ⟨results, answers⟩, -⟩ := Connection.batch_runs_rows usable b [] insert several
  have inside : batch.2.1.state.transaction? = some (.issued 0) := by decide +kernel
  have ran : Journal.dataStatements batch.2.2.1.journal = 1 := by decide +kernel
  refine ⟨usable, same, inside, ran, ?_⟩
  have refused : (match batch.1 with
      | .failed (.batch row completed (.backend error)) => some (row, completed.length, error)
      | _ => none) = some (1, 1, ⟨.unavailable, .injected .dataStatement⟩) := by
    decide +kernel
  rcases answers with ⟨-, -, done⟩ | ⟨-, ⟨error, each', failed⟩ | ⟨-, cancelled⟩⟩
  · rw [done] at refused
    cases refused
  · rw [failed] at refused
    obtain ⟨one, -, rfl⟩ : results.length = 1 ∧ results.length = 1 ∧
        error = ⟨.unavailable, .injected .dataStatement⟩ := by simpa using refused
    obtain ⟨result, rfl⟩ := List.length_eq_one_iff.mp one
    exact ⟨result, each', failed⟩
  · rw [cancelled] at refused
    cases refused

end SqlDriver
