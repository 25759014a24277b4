import SqlDriver.Client.Basic
import SqlDriver.Connection.Request

/-!
How query texts are read and kept is nothing to a connection: the configuration says it, but no call
on a connection asks for it. So the calls on two connections that differ in nothing else answer
alike, and do the same to the backend.
-/

namespace SqlDriver

/-- The configuration, with another size of the cache and another way of reading. -/
def Config.withReading (config : Config) (size : Nat) (mode : ReadingMode) : Config :=
  { config with cacheSize := size, readingMode := mode }

/-- The connection, with another size of the cache and another way of reading. -/
def Connection.withReading (c : Connection) (size : Nat) (mode : ReadingMode) : Connection :=
  { c with config := c.config.withReading size mode }

/-- What a call comes to, with another size of the cache and another way of reading. -/
def Connection.outWithReading {α β : Type} (size : Nat) (mode : ReadingMode)
    (out : α × Connection × β) : α × Connection × β :=
  (out.1, out.2.1.withReading size mode, out.2.2)

section

variable (config : Config) (size : Nat) (mode : ReadingMode) (b : Backend) (patience : Patience)

@[simp] theorem Config.queryTimeout_withReading :
    (config.withReading size mode).queryTimeout = config.queryTimeout := rfl

@[simp] theorem Config.sessionTimeout_withReading :
    (config.withReading size mode).sessionTimeout = config.sessionTimeout := rfl

@[simp] theorem Config.transactionTimeout_withReading :
    (config.withReading size mode).transactionTimeout = config.transactionTimeout := rfl

/-- Running a statement reads nothing of how query texts are read and kept. -/
theorem Config.runData_withReading (text : String) (control : TransactionControl)
    (parameters : NamedValues) :
    (config.withReading size mode).runData b patience text control parameters =
      config.runData b patience text control parameters := rfl

end

namespace Connection

variable (c : Connection) (size : Nat) (mode : ReadingMode) (b : Backend) (patience : Patience)

@[simp] theorem config_withReading :
    (c.withReading size mode).config = c.config.withReading size mode := rfl

@[simp] theorem state_withReading : (c.withReading size mode).state = c.state := rfl

@[simp] theorem isDraining_withReading :
    (c.withReading size mode).isDraining b = c.isDraining b := rfl

/-- Waiting looks at the stream to wait for, and at nothing of the configuration. -/
theorem awaitDrain_withReading :
    (c.withReading size mode).awaitDrain b patience =
      outWithReading size mode (c.awaitDrain b patience) := by
  induction patience generalizing b with
  | nil =>
    rw [awaitDrain, awaitDrain, isDraining_withReading]
    cases c.isDraining b <;> rfl
  | cons stirs patience ih =>
    rw [awaitDrain, awaitDrain, isDraining_withReading]
    cases c.isDraining b with
    | true => exact ih (b.stirAll stirs)
    | false => rfl

/-! ## Statements -/

/-- What a stream reports is followed whatever the configuration says. -/
theorem followReport_withReading (reported : Option TransactionId) :
    (c.withReading size mode).followReport b reported =
      ((c.followReport b reported).1.withReading size mode, (c.followReport b reported).2) := by
  obtain ⟨config, state, pending⟩ := c
  cases state <;> cases reported <;> rfl

theorem executeInside_withReading (transaction : TransactionId) (session : Session)
    (settings : TransactionSettings) (text : String) (parameters : NamedValues) :
    (c.withReading size mode).executeInside b patience transaction session settings text
        parameters =
      outWithReading size mode
        (c.executeInside b patience transaction session settings text parameters) := by
  rw [executeInside, executeInside, config_withReading, Config.queryTimeout_withReading]
  generalize session.runData b text _ parameters _ = run
  obtain ⟨answer, session, b⟩ := run
  cases answer with
  | error error => rfl
  | ok stream =>
    dsimp only
    generalize stream.collect b patience = collected
    obtain ⟨outcome, b, patience⟩ := collected
    cases outcome with
    | done contents =>
      have follows := followReport_withReading
        { c with state := .inside transaction session settings, pending := some stream.number }
        size mode b contents.transaction
      exact congrArg (fun left : Connection × Backend =>
        (Outcome.done (⟨contents.resultSets⟩ : QueryResult), left.1, left.2, patience)) follows
    | failed error => rfl
    | cancelled => rfl

theorem executeOutside_withReading (settings : TransactionSettings) (text : String)
    (parameters : NamedValues) :
    (c.withReading size mode).executeOutside b patience settings text parameters =
      outWithReading size mode (c.executeOutside b patience settings text parameters) := by
  rw [executeOutside, executeOutside, config_withReading, Config.runData_withReading]
  generalize c.config.runData b patience text _ parameters = run
  obtain ⟨outcome, b, patience⟩ := run
  cases outcome with
  | done out =>
    obtain ⟨contents, session⟩ := out
    dsimp only
    cases contents.transaction <;> rfl
  | failed error => rfl
  | cancelled => rfl

/-- A data statement looks at the deadlines of the configuration only. -/
theorem executeOne_withReading (text : String) (parameters : NamedValues) :
    (c.withReading size mode).executeOne b patience text parameters =
      outWithReading size mode (c.executeOne b patience text parameters) := by
  rw [executeOne, executeOne, awaitDrain_withReading]
  generalize c.awaitDrain b patience = wait
  obtain ⟨drained, c, b, patience⟩ := wait
  cases drained with
  | false => rfl
  | true =>
    dsimp only [outWithReading]
    rw [state_withReading]
    cases c.state with
    | inside transaction session settings => exact executeInside_withReading ..
    | outside settings => exact executeOutside_withReading ..
    | closed => rfl

/-- A batch does not depend on how texts are read: its text was read before. -/
theorem executeAll_withReading (text : String) (completed : List QueryResult)
    (rows : List NamedValues) :
    (c.withReading size mode).executeAll b patience text completed rows =
      outWithReading size mode (c.executeAll b patience text completed rows) := by
  induction rows generalizing c b patience completed with
  | nil => rfl
  | cons row rows ih =>
    rw [executeAll, executeAll, executeOne_withReading]
    generalize c.executeOne b patience text row = run
    obtain ⟨outcome, c, b, patience⟩ := run
    cases outcome with
    | done result => exact ih c b patience (completed ++ [result])
    | failed error => rfl
    | cancelled => rfl

theorem executeData_withReading (descriptor : Descriptor) (rows : List NamedValues) :
    (c.withReading size mode).executeData b patience descriptor rows =
      outWithReading size mode (c.executeData b patience descriptor rows) := by
  have one := c.executeOne_withReading size mode b patience descriptor.canonical
  unfold executeData
  rw [state_withReading]
  split
  · rfl
  · split
    · rw [one]
      rfl
    · rw [one]
      rfl
    · exact c.executeAll_withReading size mode b patience descriptor.canonical [] _

/-- The rows of a prepared statement are executed alike, since its query was read when it was
prepared. -/
theorem executeBound_withReading (bindings : Bindings) :
    (c.withReading size mode).executeBound b patience bindings =
      outWithReading size mode (c.executeBound b patience bindings) := by
  rw [executeBound, executeBound]
  cases bindings.descriptor.kind with
  | schema =>
    dsimp only
    cases bindings.descriptor.parameters.isEmpty with
    | false => rfl
    | true => cases bindings.check <;> rfl
  | data =>
    dsimp only
    cases bindings.rowsToExecute with
    | error error => rfl
    | ok rows => exact executeData_withReading ..

/-! ## Transactions and settings -/

/-- Beginning a transaction looks at the deadlines of the configuration only. -/
theorem begin_withReading (settings : TransactionSettings) :
    (c.withReading size mode).begin b settings = outWithReading size mode (c.begin b settings) := by
  rw [begin, begin, state_withReading, config_withReading, Config.sessionTimeout_withReading,
    Config.transactionTimeout_withReading]
  cases c.state with
  | closed => rfl
  | inside transaction session old => rfl
  | outside old =>
    dsimp only
    generalize b.acquire c.config.sessionTimeout = acquired
    obtain ⟨answer, b⟩ := acquired
    cases answer with
    | error error => rfl
    | ok session =>
      dsimp only
      generalize session.begin b settings.mode c.config.transactionTimeout = begun
      obtain ⟨answer, session, b⟩ := begun
      cases answer <;> rfl

/-- Ending a transaction looks at the deadlines of the configuration only, the wait for the stream
before it included. -/
theorem finish_withReading (ending : Ending) :
    (c.withReading size mode).finish b patience ending =
      outWithReading size mode (c.finish b patience ending) := by
  rw [finish, finish, awaitDrain_withReading]
  generalize c.awaitDrain b patience = wait
  obtain ⟨drained, c, b, patience⟩ := wait
  cases drained with
  | false => rfl
  | true =>
    dsimp only [outWithReading]
    rw [state_withReading, config_withReading, Config.transactionTimeout_withReading]
    cases c.state with
    | outside settings => rfl
    | closed => rfl
    | inside transaction session settings =>
      dsimp only
      generalize session.finish b ending transaction _ = ended
      obtain ⟨answer, session, b⟩ := ended
      cases answer <;> rfl

theorem changeSettings_withReading (change : TransactionSettings → TransactionSettings) :
    (c.withReading size mode).changeSettings change =
      ((c.changeSettings change).1, (c.changeSettings change).2.withReading size mode) := by
  rw [changeSettings, changeSettings, state_withReading]
  cases c.state <;> rfl

theorem setAutoCommit_withReading (autoCommit : Bool) :
    (c.withReading size mode).setAutoCommit b patience autoCommit =
      outWithReading size mode (c.setAutoCommit b patience autoCommit) := by
  unfold setAutoCommit
  rw [state_withReading]
  split
  · rfl
  · rw [changeSettings_withReading]
    rfl
  · rfl
  · rw [commit, commit, finish_withReading]
    generalize c.finish b patience .commit = ended
    obtain ⟨outcome, c, b, patience⟩ := ended
    cases outcome with
    | done value =>
      dsimp only [outWithReading]
      rw [changeSettings_withReading]
    | failed error => rfl
    | cancelled => rfl

theorem close_withReading :
    (c.withReading size mode).close b patience =
      outWithReading size mode (c.close b patience) := by
  rw [close, close, state_withReading]
  split
  · rfl
  · rw [commit, commit, finish_withReading]
    generalize c.finish b patience .commit = ended
    obtain ⟨outcome, c, b, patience⟩ := ended
    cases outcome <;> rfl

theorem forceClose_withReading :
    (c.withReading size mode).forceClose b patience =
      outWithReading size mode (c.forceClose b patience) := by
  rw [forceClose, forceClose, awaitDrain_withReading]
  generalize c.awaitDrain b patience = wait
  obtain ⟨drained, c, b, patience⟩ := wait
  cases drained <;> rfl

theorem drop_withReading : (c.withReading size mode).drop b = c.drop b := by
  obtain ⟨config, state, pending⟩ := c
  cases state <;> cases pending <;> rfl

/-- A call on a connection does not depend on how query texts are read and kept, so clients may be
compared that read the same texts through different caches. -/
theorem perform_withReading (request : Request) :
    (c.withReading size mode).perform b patience request =
      outWithReading size mode (c.perform b patience request) := by
  cases request with
  | data descriptor rows =>
    rw [perform, perform, executeData_withReading]
    rfl
  | schema text => rfl
  | begin settings =>
    rw [perform, perform, begin_withReading]
    rfl
  | commit =>
    rw [perform, perform, commit, commit, finish_withReading]
    rfl
  | rollback =>
    rw [perform, perform, rollback, rollback, finish_withReading]
    rfl
  | setAutoCommit autoCommit =>
    rw [perform, perform, setAutoCommit_withReading]
    rfl
  | setIsolationLevel level =>
    rw [perform, perform, setIsolationLevel, setIsolationLevel, changeSettings_withReading]
    rfl
  | setReadOnly readOnly =>
    rw [perform, perform, setReadOnly, setReadOnly, changeSettings_withReading]
    rfl
  | setQueryTimeout timeout => rfl
  | close =>
    rw [perform, perform, close_withReading]
    rfl
  | forceClose =>
    rw [perform, perform, forceClose_withReading]
    rfl

end Connection

end SqlDriver
