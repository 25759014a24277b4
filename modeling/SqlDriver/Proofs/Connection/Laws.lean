import SqlDriver.Proofs.Connection.Paths

/-!
Laws of connections: a property of a connection and its backend, and one of the refusals that its
calls may fail with. When every path that a call may take keeps the one and fails only with the
other, so does every call, a batch of any number of rows included.
-/

namespace SqlDriver

/-- The refusal that a call failed with. -/
def Outcome.refusal? {α : Type} : Outcome α → Option BackendError
  | .failed error => error.refusal?
  | _ => none

/-- Whether a call succeeded. -/
def Outcome.isDone {α : Type} : Outcome α → Bool
  | .done _ => true
  | _ => false

theorem Outcome.eq_done_of_isDone {α : Type} {outcome : Outcome α} (done : outcome.isDone = true) :
    ∃ value, outcome = .done value := by
  cases outcome with
  | done value => exact ⟨value, rfl⟩
  | failed error => cases done
  | cancelled => cases done

theorem Outcome.isDone_map {α β : Type} (f : α → β) (outcome : Outcome α) :
    (outcome.map f).isDone = outcome.isDone := by
  cases outcome <;> rfl

/-- A call leaves what it should, and failed with no other refusal than it may. -/
def Connection.Obeys {α : Type} (I : Connection → Backend → Prop) (E : BackendError → Prop)
    (out : Outcome α × Connection × Backend) : Prop :=
  I out.2.1 out.2.2 ∧ ∀ error, out.1.refusal? = some error → E error

section Outcomes

variable {α : Type} {I : Connection → Backend → Prop} {E : BackendError → Prop} {c : Connection}
  {b : Backend}

theorem Connection.obeys_done (holds : I c b) (value : α) :
    Connection.Obeys I E (.done value, c, b) :=
  ⟨holds, by intro error refused; cases refused⟩

theorem Connection.obeys_cancelled (holds : I c b) :
    Connection.Obeys I E ((.cancelled : Outcome α), c, b) :=
  ⟨holds, by intro error refused; cases refused⟩

theorem Connection.obeys_misused (holds : I c b) (fault : StateFault) :
    Connection.Obeys I E ((.failed (.state fault) : Outcome α), c, b) :=
  ⟨holds, by intro error refused; cases refused⟩

theorem Connection.obeys_refused (holds : I c b) {error : BackendError} (may : E error) :
    Connection.Obeys I E ((.failed (.backend error) : Outcome α), c, b) := by
  refine ⟨holds, ?_⟩
  intro other refused
  cases refused
  exact may

end Outcomes

/-- Every path of a call keeps `I`, and fails only with refusals that satisfy `E`. -/
structure Connection.Law (I : Connection → Backend → Prop) (E : BackendError → Prop) : Prop where
  unreported : ∀ {c b}, I c b → b.reports = []
  executesOne : ∀ {c b text parameters out}, I c b → c.ExecutesOne b text parameters out →
    Connection.Obeys I E out
  runsSchema : ∀ {c b text out}, I c b → c.config.RunsSchema b text out →
    Connection.Obeys I E (out.1, c, out.2)
  begins : ∀ {c b settings out}, I c b → c.Begins b settings out → Connection.Obeys I E out
  finishes : ∀ {c b ending out}, I c b → c.Finishes b ending out → Connection.Obeys I E out
  forceCloses : ∀ {c b out}, I c b → c.ForceCloses b out → Connection.Obeys I E out
  /-- Without an open transaction, the state is of no account as long as none is opened. -/
  idle : ∀ {c b state}, I c b → c.state.isInside = false → state.isInside = false →
    I { c with state := state } b
  setQueryTimeout : ∀ {c b} (timeout : Duration), I c b → I (c.setQueryTimeout timeout) b

namespace Connection.Law

variable {I : Connection → Backend → Prop} {E : BackendError → Prop} {c : Connection} {b : Backend}

theorem obeys_map {α β : Type} {out : Outcome α × Connection × Backend} (f : α → β)
    (obeys : Connection.Obeys I E out) : Connection.Obeys I E (out.1.map f, out.2) := by
  obtain ⟨kept, fails⟩ := obeys
  refine ⟨kept, ?_⟩
  cases outcome : out.1 with
  | failed error => rw [outcome] at fails; exact fails
  | _ => intro error refused; cases refused

/-- A batch obeys a law that each of its rows obeys: a row that fails ends it, and otherwise the
next row starts from where the law holds again. -/
theorem executeAll (law : Connection.Law I E) (text : String) (rows : List NamedValues)
    (holds : I c b) (patience : Patience) (completed : List QueryResult) :
    let run := c.executeAll b patience text completed rows
    Connection.Obeys I E (run.1, run.2.1, run.2.2.1) := by
  induction rows generalizing c b patience completed with
  | nil => exact Connection.obeys_done holds completed
  | cons row rows ih =>
    have obeys := law.executesOne holds (c.executesOne (law.unreported holds) patience text row)
    rw [Connection.executeAll]
    generalize c.executeOne b patience text row = run at obeys
    obtain ⟨outcome, c', b', patience'⟩ := run
    cases outcome with
    | done result => exact ih obeys.1 patience' (completed ++ [result])
    | failed error => exact obeys
    | cancelled => exact obeys

/-- A data statement obeys the law as a batch of its rows does, or as a single row. -/
theorem executeData (law : Connection.Law I E) (holds : I c b) (patience : Patience)
    (descriptor : Descriptor) (rows : List NamedValues) :
    let run := c.executeData b patience descriptor rows
    Connection.Obeys I E (run.1, run.2.1, run.2.2.1) := by
  have one := fun row => obeys_map (fun result : QueryResult => [result])
    (law.executesOne holds (c.executesOne (law.unreported holds) patience descriptor.canonical row))
  unfold Connection.executeData
  split
  · exact Connection.obeys_misused holds _
  · split
    · exact one []
    · exact one _
    · exact law.executeAll descriptor.canonical _ holds patience []

/-- A schema statement runs on a session of its own, and only where the law allows it. -/
theorem executeSchema (law : Connection.Law I E) (holds : I c b) (text : String) :
    let run := c.executeSchema b text
    Connection.Obeys I E (run.1, c, run.2) := by
  rw [Connection.executeSchema]
  cases c.state with
  | closed => exact Connection.obeys_misused holds _
  | inside transaction session settings => exact Connection.obeys_misused holds _
  | outside settings => exact law.runsSchema holds (c.config.runsSchema b text)

theorem changeSettings (law : Connection.Law I E) (holds : I c b)
    (change : TransactionSettings → TransactionSettings) :
    let run := c.changeSettings change
    Connection.Obeys I E (run.1, run.2, b) := by
  rw [Connection.changeSettings]
  cases state : c.state with
  | closed => exact Connection.obeys_misused holds _
  | inside transaction session settings => exact Connection.obeys_misused holds _
  | outside settings =>
    exact Connection.obeys_done (law.idle holds (by rw [state]; rfl) rfl) ()

/-- A transaction that was ended is not open any more, so what follows in the same call is done
outside. -/
theorem isInside_of_finishes {ending : Ending} {c' : Connection} {b' : Backend}
    (finishes : c.Finishes b ending (.done (), c', b')) : c'.state.isInside = false := by
  cases finishes with
  | nothingOpen waits state => exact state
  | done waits state finishes => rfl

/-- Turning auto-commit on is committing what is open, and then a change of the settings. -/
theorem setAutoCommit (law : Connection.Law I E) (holds : I c b) (patience : Patience)
    (autoCommit : Bool) :
    let run := c.setAutoCommit b patience autoCommit
    Connection.Obeys I E (run.1, run.2.1, run.2.2.1) := by
  have finishes := c.finishes b patience .commit
  have obeys := law.finishes holds finishes
  unfold Connection.setAutoCommit
  split
  · exact Connection.obeys_misused holds _
  · exact law.changeSettings holds _
  · exact Connection.obeys_done holds ()
  · rw [Connection.commit]
    generalize c.finish b patience .commit = run at obeys
    obtain ⟨outcome, c', b', patience'⟩ := run
    cases outcome with
    | done result => exact law.changeSettings obeys.1 _
    | failed error => exact obeys
    | cancelled => exact obeys

/-- Closing is committing what is open, and then letting go of it. -/
theorem close (law : Connection.Law I E) (holds : I c b) (patience : Patience) :
    let run := c.close b patience
    Connection.Obeys I E (run.1, run.2.1, run.2.2.1) := by
  have finishes := c.finishes b patience .commit
  have obeys := law.finishes holds finishes
  rw [Connection.close]
  split
  · exact Connection.obeys_misused holds _
  · rw [Connection.commit]
    generalize c.finish b patience .commit = run at finishes obeys
    obtain ⟨outcome, c', b', patience'⟩ := run
    cases outcome with
    | done result =>
      exact Connection.obeys_done (law.idle obeys.1 (isInside_of_finishes finishes) rfl) ()
    | failed error => exact obeys
    | cancelled => exact obeys

/-- A law that every path obeys is obeyed by every call. So to show something of all calls it is
enough to show it of the few paths that calls are put together from. -/
theorem perform (law : Connection.Law I E) (holds : I c b) (patience : Patience)
    (request : Request) :
    let run := c.perform b patience request
    Connection.Obeys I E (run.1, run.2.1, run.2.2.1) := by
  cases request with
  | data descriptor rows => exact obeys_map _ (law.executeData holds patience descriptor rows)
  | schema text => exact obeys_map _ (law.executeSchema holds text)
  | begin settings => exact obeys_map _ (law.begins holds (c.begins b settings))
  | commit => exact obeys_map _ (law.finishes holds (c.finishes b patience .commit))
  | rollback => exact obeys_map _ (law.finishes holds (c.finishes b patience .rollback))
  | setAutoCommit autoCommit => exact obeys_map _ (law.setAutoCommit holds patience autoCommit)
  | setIsolationLevel level => exact obeys_map _ (law.changeSettings holds _)
  | setReadOnly readOnly => exact obeys_map _ (law.changeSettings holds _)
  | setQueryTimeout timeout => exact Connection.obeys_done (law.setQueryTimeout timeout holds) _
  | close => exact obeys_map _ (law.close holds patience)
  | forceClose => exact obeys_map _ (law.forceCloses holds (c.forceCloses b patience))

end Connection.Law

end SqlDriver
