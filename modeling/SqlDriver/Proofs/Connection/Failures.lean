import SqlDriver.Proofs.Connection.Agreement

/-!
Calls that fail or are given up. Every call succeeds or leaves the state of the connection as it
was, with the transaction that is open, the session that is held and the settings; only a batch may
have come through some of its rows before. Inside a transaction a data statement changes the session
as soon as it is accepted, but not to another state than it was in, since the two agree.
-/

namespace SqlDriver

/-- A call succeeded, or left the state as it was. -/
def Connection.Atomic {α : Type} (c : Connection) (out : Outcome α × Connection × Backend) : Prop :=
  out.1.isDone = true ∨ out.2.1.state = c.state

/-- A batch is a data statement with more than one row of parameters. -/
def Request.isBatch : Request → Bool
  | .data _ (_ :: _ :: _) => true
  | _ => false

/-- How a batch comes out whose rows before were completed, by how the next row comes out. -/
def Outcome.inBatch (completed : List QueryResult) :
    Outcome QueryResult → Outcome (List QueryResult)
  | .done result => .done (completed ++ [result])
  | .failed error => .failed (.batch completed.length completed error)
  | .cancelled => .cancelled

namespace Connection.Atomic

variable {c c' : Connection} {b b' : Backend} {text : String} {parameters : NamedValues}

theorem map {α β : Type} {out : Outcome α × Connection × Backend} (f : α → β)
    (atomic : c.Atomic out) : c.Atomic (out.1.map f, out.2) := by
  rcases atomic with done | same
  · exact Or.inl ((Outcome.isDone_map f out.1).trans done)
  · exact Or.inr same

/-- Waiting for a stream leaves the state as it was, so what comes after it decides. A wait that is
given up has left it as it was, too. -/
theorem after {α : Type} {out : Outcome α × Connection × Backend} {drained : Bool}
    (waits : c.AwaitsDrain b (drained, c', b')) (atomic : c'.Atomic out) : c.Atomic out := by
  rcases atomic with done | same
  · exact Or.inl done
  · exact Or.inr (same.trans waits.state)

/-- A statement on the held session leaves it as it was if it fails: the same transaction is open on
it. -/
theorem afterInside {transaction : TransactionId} {session : Session}
    {settings : TransactionSettings} {deadline : Duration}
    {result : Except BackendError (Nat × Collected) × Session × Backend}
    (state : c.state = .inside transaction session settings)
    (same : session.openTransaction = some transaction)
    (executes : session.Executes b text (.resume transaction false) parameters deadline
      (fun stream _ => .sign stream) result) :
    c.Atomic (c.afterInside transaction settings result) := by
  have unchanged : { session with openTransaction := some transaction } = session := by
    rw [← same]
  cases executes with
  | refused error requested => exact Or.inr state.symm
  | misplaced error requested checked => exact Or.inr state.symm
  | complete opened left requested opens consulted idles => exact Or.inl rfl
  | failed opened status left requested opens consulted idles =>
    rw [Session.opens_open same] at opens
    cases opens
    rw [unchanged]
    exact Or.inr state.symm
  | cancelled opened failure left rest requested opens consulted idles finishing =>
    rw [Session.opens_open same] at opens
    cases opens
    rw [unchanged]
    exact Or.inr state.symm

/-- A statement outside a transaction leaves the connection outside if it fails or is given up, and
gives back the session that it got. -/
theorem afterOutside {session : Session} {settings : TransactionSettings}
    {control : TransactionControl} {deadline : Duration}
    {result : Except BackendError (Nat × Collected) × Session × Backend}
    (executes : session.Executes b text control parameters deadline
      (fun _ session => .lease session) result) : c.Atomic (c.afterOutside settings result) := by
  cases executes with
  | complete opened left requested opens consulted idles =>
    cases opened with
    | none => exact Or.inl rfl
    | some transaction => exact Or.inl rfl
  | _ => exact Or.inr rfl

/-- A single data statement succeeds or leaves the state as it was. -/
theorem executesOne (agrees : c.Agrees) {out : Outcome QueryResult × Connection × Backend}
    (executes : c.ExecutesOne b text parameters out) : c.Atomic out := by
  cases executes with
  | givenUp waits => exact Or.inr waits.state
  | closed waits state => exact Or.inr waits.state
  | inside waits state executes =>
    have same := agrees _ _ _ (waits.state.symm.trans state)
    exact after waits (afterInside state same executes)
  | outside waits state executes =>
    apply after waits
    cases executes with
    | unserved error requested => exact Or.inr rfl
    | served requested executes => exact afterOutside executes

theorem begins {settings : TransactionSettings} {out : Outcome Unit × Connection × Backend}
    (begins : c.Begins b settings out) : c.Atomic out := by
  cases begins with
  | already isInside => exact Or.inl rfl
  | done transaction state requested begins => exact Or.inl rfl
  | _ => exact Or.inr rfl

/-- Ending the transaction succeeds or leaves it open. -/
theorem finishes {ending : Ending} {out : Outcome Unit × Connection × Backend}
    (finishes : c.Finishes b ending out) : c.Atomic out := by
  cases finishes with
  | givenUp waits => exact Or.inr waits.state
  | nothingOpen waits state => exact Or.inl rfl
  | refused error waits state finishes =>
    apply after waits
    cases finishes with
    | refused error requested => exact Or.inr state.symm
    | misplaced error requested checked => exact Or.inr state.symm
  | done waits state finishes => exact Or.inl rfl

/-- A forced close fails in no other way than by being given up while it waits. -/
theorem forceCloses {out : Outcome Unit × Connection × Backend} (closes : c.ForceCloses b out) :
    c.Atomic out := by
  cases closes with
  | givenUp waits => exact Or.inr waits.state
  | nothingOpen waits state => exact Or.inl rfl
  | rolledBack answer waits state finishes => exact Or.inl rfl

theorem changeSettings (c : Connection) (b : Backend)
    (change : TransactionSettings → TransactionSettings) :
    c.Atomic ((c.changeSettings change).1, (c.changeSettings change).2, b) := by
  rw [Connection.changeSettings]
  cases c.state with
  | outside settings => exact Or.inl rfl
  | inside transaction session settings => exact Or.inr rfl
  | closed => exact Or.inr rfl

/-- Turning on automatic committing does not stop between the commit and the change of the
settings: once the transaction is committed, the settings may be changed. -/
theorem setAutoCommit (c : Connection) (b : Backend) (patience : Patience) (autoCommit : Bool) :
    let run := c.setAutoCommit b patience autoCommit
    c.Atomic (run.1, run.2.1, run.2.2.1) := by
  have finishes := c.finishes b patience .commit
  unfold Connection.setAutoCommit
  split
  · exact Or.inr rfl
  · exact changeSettings c b _
  · exact Or.inl rfl
  · rename_i transaction session settings state
    have atomic := Connection.Atomic.finishes finishes
    rw [Connection.commit]
    generalize c.finish b patience .commit = run at finishes atomic
    obtain ⟨outcome, c', b', patience'⟩ := run
    cases outcome with
    | done value =>
      obtain ⟨settings', outside⟩ : ∃ settings, c'.state = .outside settings :=
        finishes.outside (by rw [state]; rfl)
      simp only [Connection.changeSettings_of_outside outside]
      exact Or.inl rfl
    | failed error => exact atomic
    | cancelled => exact atomic

/-- A close that fails leaves the connection as it was before, with its transaction still open. -/
theorem close (c : Connection) (b : Backend) (patience : Patience) :
    let run := c.close b patience
    c.Atomic (run.1, run.2.1, run.2.2.1) := by
  have atomic := finishes (c.finishes b patience .commit)
  rw [Connection.close]
  split
  · exact Or.inr rfl
  · rw [Connection.commit]
    generalize c.finish b patience .commit = run at atomic
    obtain ⟨outcome, c', b', patience'⟩ := run
    cases outcome with
    | done value => exact Or.inl rfl
    | failed error => exact atomic
    | cancelled => exact atomic

theorem executeData (agrees : c.Agrees) (unreported : b.reports = []) (patience : Patience)
    (descriptor : Descriptor) (rows : List NamedValues)
    (single : (Request.data descriptor rows).isBatch = false) :
    let run := c.executeData b patience descriptor rows
    c.Atomic (run.1, run.2.1, run.2.2.1) := by
  have one := fun row => map (fun result : QueryResult => [result])
    (executesOne agrees (c.executesOne unreported patience descriptor.canonical row))
  unfold Connection.executeData
  split
  · exact Or.inr rfl
  · cases rows with
    | nil => exact one []
    | cons row rows =>
      cases rows with
      | nil => exact one row
      | cons row' rows => cases single

end Connection.Atomic

/-- Every call but a batch succeeds or leaves the state as it was. A batch may have come through
some of its rows, which is what the next theorems are about. -/
theorem Connection.perform_atomic {c : Connection} {b : Backend} (agrees : c.Agrees)
    (unreported : b.reports = []) (patience : Patience) (request : Request)
    (single : request.isBatch = false) :
    let run := c.perform b patience request
    c.Atomic (run.1, run.2.1, run.2.2.1) := by
  cases request with
  | data descriptor rows =>
    exact (Connection.Atomic.executeData agrees unreported patience descriptor rows single).map _
  | schema text => exact Or.inr rfl
  | begin settings => exact (Connection.Atomic.begins (c.begins b settings)).map _
  | commit => exact (Connection.Atomic.finishes (c.finishes b patience .commit)).map _
  | rollback => exact (Connection.Atomic.finishes (c.finishes b patience .rollback)).map _
  | setAutoCommit autoCommit =>
    exact (Connection.Atomic.setAutoCommit c b patience autoCommit).map _
  | setIsolationLevel level => exact (Connection.Atomic.changeSettings c b _).map _
  | setReadOnly readOnly => exact (Connection.Atomic.changeSettings c b _).map _
  | setQueryTimeout timeout => exact Or.inl rfl
  | close => exact (Connection.Atomic.close c b patience).map _
  | forceClose => exact (Connection.Atomic.forceCloses (c.forceCloses b patience)).map _

/-! ## Batches -/

/-- A batch that does not succeed has come through the rows before the one that does not, and has
answered with their results. -/
theorem Connection.executeAll_stops {c : Connection} {b : Backend} {patience : Patience}
    {text : String} {completed : List QueryResult} {rows : List NamedValues}
    (unfinished : (c.executeAll b patience text completed rows).1.isDone = false) :
    ∃ k, ∃ inside : k < rows.length, ∃ results c' b' patience',
      c.executeAll b patience text completed (rows.take k) =
          (.done (completed ++ results), c', b', patience') ∧ results.length = k ∧
        let stop := c'.executeOne b' patience' text rows[k]
        stop.1.isDone = false ∧
          c.executeAll b patience text completed rows =
            (stop.1.inBatch (completed ++ results), stop.2) := by
  induction rows generalizing c b patience completed with
  | nil => cases unfinished
  | cons row rows ih =>
    generalize one : c.executeOne b patience text row = first at unfinished
    obtain ⟨outcome, c', b', patience'⟩ := first
    rw [Connection.executeAll, one] at unfinished ⊢
    cases outcome with
    | done result =>
      obtain ⟨k, inside, results, c₁, b₁, patience₁, reached, count, stops, whole⟩ := ih unfinished
      rw [List.append_assoc] at reached whole
      refine ⟨k + 1, Nat.succ_lt_succ inside, result :: results, c₁, b₁, patience₁, ?_, ?_, stops,
        whole⟩
      · rw [List.take_succ_cons, Connection.executeAll, one]
        exact reached
      · rw [List.length_cons, count]
    | failed | cancelled =>
      refine ⟨0, Nat.succ_pos _, [], c, b, patience, ?_, rfl, ?_⟩
      · rw [List.append_nil]
        rfl
      · rw [List.getElem_cons_zero, one, List.append_nil]
        exact ⟨rfl, rfl⟩

/-- The first `k` rows of a batch are completed and reach a connection on which the next row comes
out with an answer that is no success. -/
def Connection.StopsAt (c : Connection) (b : Backend) (patience : Patience) (text : String)
    (rows : List NamedValues) (k : Nat) (completed : List QueryResult) (reached : Connection)
    (answer : Outcome QueryResult) : Prop :=
  ∃ b' patience' row, rows[k]? = some row ∧ completed.length = k ∧
    c.executeAll b patience text [] (rows.take k) = (.done completed, reached, b', patience') ∧
    (reached.executeOne b' patience' text row).1 = answer ∧ answer.isDone = false

/-- A batch that does not succeed leaves the state that the rows before have left: the row that
fails adds nothing of its own. -/
theorem Connection.executeData_stops {refusals : List (CallKind × Status)} {c : Connection}
    {b : Backend} (accords : Connection.Accords refusals c b) {patience : Patience}
    {descriptor : Descriptor} {rows : List NamedValues}
    (batch : (Request.data descriptor rows).isBatch = true) (usable : c.state.isClosed = false)
    (unfinished : (c.executeData b patience descriptor rows).1.isDone = false) :
    ∃ k completed reached answer,
      c.StopsAt b patience descriptor.canonical rows k completed reached answer ∧
        (c.executeData b patience descriptor rows).1 = answer.inBatch completed ∧
        (c.executeData b patience descriptor rows).2.1.state = reached.state := by
  have all : c.executeData b patience descriptor rows =
      c.executeAll b patience descriptor.canonical [] rows := by
    unfold Connection.executeData
    rw [usable]
    cases rows with
    | nil => cases batch
    | cons row rows =>
      cases rows with
      | nil => cases batch
      | cons row' rows => rfl
  rw [all] at unfinished ⊢
  obtain ⟨k, inside, completed, c', b', patience', before, count, stops, whole⟩ :=
    Connection.executeAll_stops unfinished
  rw [List.nil_append] at before whole
  have kept := (Connection.law_accords refusals).executeAll descriptor.canonical (rows.take k)
    accords patience []
  rw [before] at kept
  have accords' : Connection.Accords refusals c' b' := kept.1
  have executes := c'.executesOne accords'.2.unreported patience' descriptor.canonical rows[k]
  refine ⟨k, completed, c', _, ⟨b', patience', rows[k], List.getElem?_eq_getElem inside, count,
    before, rfl, stops⟩, ?_, ?_⟩
  · rw [whole]
  · rw [whole]
    rcases Connection.Atomic.executesOne accords'.1 executes with done | same
    · rw [stops] at done
      cases done
    · exact same

end SqlDriver
