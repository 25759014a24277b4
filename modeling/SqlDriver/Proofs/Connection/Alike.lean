import SqlDriver.Connection.Request
import SqlDriver.Proofs.Backend.Alike
import SqlDriver.Proofs.Connection.Collect

/-!
Calls over backends that differ only in the order in which their streams came to their events. Every
call answers alike over the one and the other, leaves the connection the same, and leaves such
backends.
-/

namespace SqlDriver

/-- Backends that are alike, with the same patience left. -/
abbrev Backend.AlikeWith : Backend × Patience → Backend × Patience → Prop :=
  WithPatience Backend.Alike

/-- Calls that answer the same and leave the same connection, over backends that are alike. -/
abbrev Connection.SameCall {α : Type} :
    α × Connection × Backend × Patience → α × Connection × Backend × Patience → Prop :=
  SameAnswer (SameAnswer Backend.AlikeWith)

namespace Backend.Alike

variable {b b' : Backend}

/-! ## Taking in a stream -/

/-- Backends that are alike are in step also as to what happens while a call is held up, so taking
in a stream comes to the same on both. -/
theorem backstage : Backstage.InStep Backend.Alike where
  toInStep := inStep
  leave left _ _ h := h.resume [] left
  stir stirs _ _ h := h.stirAll stirs

/-- The stream of a statement on a session that is held comes to the same on both. -/
theorem collectStream (h : b.Alike b') (stream : ResultStream) (patience : Patience) :
    SameAnswer AlikeWith (stream.collect b patience) (stream.collect b' patience) := by
  have collects := backstage.collect stream.script (.sign stream.number) .empty patience h
  rw [ResultStream.collect, ResultStream.collect, Relay.wrap]
  generalize Relay.collect _ _ b patience = run at collects
  generalize Relay.collect _ _ b' patience = run' at collects
  obtain ⟨collected, ⟨h, patience⟩⟩ := collects
  cases collected <;> exact .intro _ (.intro h _)

/-- The stream of a statement on a session of its own comes to the same on both, and the session
comes back from both or from neither. -/
theorem collectWith (h : b.Alike b') (stream : ResultStream) (session : Session)
    (patience : Patience) :
    SameAnswer AlikeWith (stream.collectWith session b patience)
      (stream.collectWith session b' patience) := by
  have collects := backstage.collect stream.script (.lease session) .empty patience h
  rw [ResultStream.collectWith, ResultStream.collectWith, Relay.wrap]
  generalize Relay.collect _ _ b patience = run at collects
  generalize Relay.collect _ _ b' patience = run' at collects
  obtain ⟨collected, ⟨h, patience⟩⟩ := collects
  cases collected with
  | complete contents kept =>
    cases kept with
    | none => exact .intro _ (.intro h _)
    | some guard => cases guard <;> exact .intro _ (.intro h _)
  | failed error => exact .intro _ (.intro h _)
  | cancelled => exact .intro _ (.intro h _)

/-! ## Statements on a session of their own -/

/-- A data statement on a new session: the sessions have the same number, the streams the same
script. -/
theorem runDataNew (h : b.Alike b') (config : Config) (patience : Patience) (text : String)
    (control : TransactionControl) (parameters : NamedValues) :
    SameAnswer AlikeWith (config.runData b patience text control parameters)
      (config.runData b' patience text control parameters) := by
  have acquires := h.acquire config.sessionTimeout
  rw [Config.runData, Config.runData]
  generalize b.acquire config.sessionTimeout = acquired at acquires
  generalize b'.acquire config.sessionTimeout = acquired' at acquires
  obtain ⟨answer, h⟩ := acquires
  cases answer with
  | error error => exact .intro _ (.intro h _)
  | ok session =>
    have runs := h.runData session text control parameters config.queryTimeout
    simp only
    generalize session.runData _ text control parameters _ = run at runs
    generalize session.runData _ text control parameters _ = run' at runs
    obtain ⟨answer, ⟨session, h⟩⟩ := runs
    cases answer with
    | error error => exact .intro _ (.intro (h.release session) _)
    | ok stream => exact h.collectWith stream session patience

theorem runSchemaNew (h : b.Alike b') (config : Config) (text : String) :
    SameAnswer Backend.Alike (config.runSchema b text) (config.runSchema b' text) := by
  have acquires := h.acquire config.sessionTimeout
  rw [Config.runSchema, Config.runSchema]
  generalize b.acquire config.sessionTimeout = acquired at acquires
  generalize b'.acquire config.sessionTimeout = acquired' at acquires
  obtain ⟨answer, h⟩ := acquires
  cases answer with
  | error error => exact .intro _ h
  | ok session =>
    have runs := h.runSchema session text config.queryTimeout
    simp only
    generalize session.runSchema _ text _ = run at runs
    generalize session.runSchema _ text _ = run' at runs
    obtain ⟨answer, h⟩ := runs
    cases answer <;> exact .intro _ (h.release session)

/-! ## Calls on a connection -/

/-- A connection waits equally long on both, since the stream that it waits for is in both
backgrounds or in neither. -/
theorem awaitDrain (h : b.Alike b') (c : Connection) (patience : Patience) :
    Connection.SameCall (c.awaitDrain b patience) (c.awaitDrain b' patience) := by
  have draining : ∀ {b b' : Backend}, b.Alike b' → c.isDraining b = c.isDraining b' := by
    intro b b' h
    rw [Connection.isDraining, Connection.isDraining, funext h.hasSign]
  induction patience generalizing b b' with
  | nil =>
    rw [Connection.awaitDrain, Connection.awaitDrain, draining h]
    split <;> exact .intro _ (.intro _ (.intro h _))
  | cons stirs patience ih =>
    rw [Connection.awaitDrain, Connection.awaitDrain, draining h]
    split
    · exact ih (h.stirAll stirs)
    · exact .intro _ (.intro _ (.intro h _))

theorem leave (h : b.Alike b') (c : Connection) :
    SameAnswer Backend.Alike (c.leave b) (c.leave b') := by
  rw [Connection.leave, Connection.leave]
  cases c.state with
  | inside transaction session settings => exact .intro _ (h.release session)
  | outside settings => exact .intro _ h
  | closed => exact .intro _ h

/-- What a stream reports decides whether the connection stays inside, and is the same on both. -/
theorem followReport (h : b.Alike b') (c : Connection) (reported : Option TransactionId) :
    SameAnswer Backend.Alike (c.followReport b reported) (c.followReport b' reported) := by
  unfold Connection.followReport
  split
  · exact .intro _ h
  · exact .intro _ h
  · exact h.leave c

/-- A statement in an open transaction answers the same and leaves the connection in the same state.
-/
theorem executeInside (h : b.Alike b') (c : Connection) (patience : Patience)
    (transaction : TransactionId) (session : Session) (settings : TransactionSettings)
    (text : String) (parameters : NamedValues) :
    Connection.SameCall
      (c.executeInside b patience transaction session settings text parameters)
      (c.executeInside b' patience transaction session settings text parameters) := by
  have runs := h.runData session text (.resume transaction false) parameters c.config.queryTimeout
  rw [Connection.executeInside, Connection.executeInside]
  generalize session.runData b text _ parameters _ = run at runs
  generalize session.runData b' text _ parameters _ = run' at runs
  obtain ⟨answer, ⟨session, h⟩⟩ := runs
  cases answer with
  | error error => exact .intro _ (.intro _ (.intro h _))
  | ok stream =>
    have collects := h.collectStream stream patience
    simp only
    generalize stream.collect _ patience = run at collects
    generalize stream.collect _ patience = run' at collects
    obtain ⟨outcome, ⟨h, patience⟩⟩ := collects
    cases outcome with
    | done contents =>
      have follows := h.followReport
        { c with
          state := .inside transaction session settings
          pending := some stream.number } contents.transaction
      simp only
      generalize Connection.followReport _ _ contents.transaction = left at follows
      generalize Connection.followReport _ _ contents.transaction = left' at follows
      obtain ⟨c', h⟩ := follows
      exact .intro _ (.intro _ (.intro h _))
    | failed error => exact .intro _ (.intro _ (.intro h _))
    | cancelled => exact .intro _ (.intro _ (.intro h _))

/-- A statement outside a transaction answers the same. If it leaves one open, the connection goes
inside with the same session and the same transaction. -/
theorem executeOutside (h : b.Alike b') (c : Connection) (patience : Patience)
    (settings : TransactionSettings) (text : String) (parameters : NamedValues) :
    Connection.SameCall (c.executeOutside b patience settings text parameters)
      (c.executeOutside b' patience settings text parameters) := by
  have runs := h.runDataNew c.config patience text (.start settings.mode settings.autoCommit)
    parameters
  rw [Connection.executeOutside, Connection.executeOutside]
  generalize c.config.runData b patience text _ parameters = run at runs
  generalize c.config.runData b' patience text _ parameters = run' at runs
  obtain ⟨outcome, ⟨h, patience⟩⟩ := runs
  cases outcome with
  | done out =>
    obtain ⟨contents, session⟩ := out
    simp only
    cases contents.transaction with
    | some transaction => exact .intro _ (.intro _ (.intro h _))
    | none => exact .intro _ (.intro _ (.intro (h.release session) _))
  | failed error => exact .intro _ (.intro _ (.intro h _))
  | cancelled => exact .intro _ (.intro _ (.intro h _))

/-- One statement comes to the same, whatever the state of the connection. -/
theorem executeOne (h : b.Alike b') (c : Connection) (patience : Patience) (text : String)
    (parameters : NamedValues) :
    Connection.SameCall (c.executeOne b patience text parameters)
      (c.executeOne b' patience text parameters) := by
  have waits := h.awaitDrain c patience
  rw [Connection.executeOne, Connection.executeOne]
  generalize c.awaitDrain b patience = wait at waits
  generalize c.awaitDrain b' patience = wait' at waits
  obtain ⟨drained, ⟨c, ⟨h, patience⟩⟩⟩ := waits
  cases drained with
  | false => exact .intro _ (.intro _ (.intro h _))
  | true =>
    simp only
    cases c.state with
    | inside transaction session settings =>
      exact h.executeInside c patience transaction session settings text parameters
    | outside settings => exact h.executeOutside c patience settings text parameters
    | closed => exact .intro _ (.intro _ (.intro h _))

/-- A batch stops at the same row on both, if it stops. -/
theorem executeAll (h : b.Alike b') (c : Connection) (patience : Patience) (text : String)
    (completed : List QueryResult) (rows : List NamedValues) :
    Connection.SameCall (c.executeAll b patience text completed rows)
      (c.executeAll b' patience text completed rows) := by
  induction rows generalizing b b' c patience completed with
  | nil => exact .intro _ (.intro _ (.intro h _))
  | cons row rows ih =>
    have executes := h.executeOne c patience text row
    rw [Connection.executeAll, Connection.executeAll]
    generalize c.executeOne b patience text row = run at executes
    generalize c.executeOne b' patience text row = run' at executes
    obtain ⟨outcome, ⟨c, ⟨h, patience⟩⟩⟩ := executes
    cases outcome with
    | done result => exact ih h c patience (completed ++ [result])
    | failed error => exact .intro _ (.intro _ (.intro h _))
    | cancelled => exact .intro _ (.intro _ (.intro h _))

theorem executeData (h : b.Alike b') (c : Connection) (patience : Patience)
    (descriptor : Descriptor) (rows : List NamedValues) :
    Connection.SameCall (c.executeData b patience descriptor rows)
      (c.executeData b' patience descriptor rows) := by
  have one := fun row => (h.executeOne c patience descriptor.canonical row).map
    fun outcome => outcome.map fun result => [result]
  unfold Connection.executeData
  split
  · exact .intro _ (.intro _ (.intro h _))
  · split
    · exact one []
    · exact one _
    · exact h.executeAll c patience descriptor.canonical [] _

theorem executeSchema (h : b.Alike b') (c : Connection) (text : String) :
    SameAnswer Backend.Alike (c.executeSchema b text) (c.executeSchema b' text) := by
  rw [Connection.executeSchema, Connection.executeSchema]
  cases c.state with
  | outside settings => exact h.runSchemaNew c.config text
  | inside transaction session settings => exact .intro _ h
  | closed => exact .intro _ h

/-- Beginning comes to the same; the next transaction has the same identifier on both. -/
theorem beginTransaction (h : b.Alike b') (c : Connection) (settings : TransactionSettings) :
    SameAnswer (SameAnswer Backend.Alike) (c.begin b settings) (c.begin b' settings) := by
  rw [Connection.begin, Connection.begin]
  cases c.state with
  | closed => exact .intro _ (.intro _ h)
  | inside transaction session settings => exact .intro _ (.intro _ h)
  | outside old =>
    have acquires := h.acquire c.config.sessionTimeout
    simp only
    generalize b.acquire c.config.sessionTimeout = acquired at acquires
    generalize b'.acquire c.config.sessionTimeout = acquired' at acquires
    obtain ⟨answer, h⟩ := acquires
    cases answer with
    | error error => exact .intro _ (.intro _ h)
    | ok session =>
      have begins := h.begin session settings.mode c.config.transactionTimeout
      simp only
      generalize session.begin _ settings.mode _ = run at begins
      generalize session.begin _ settings.mode _ = run' at begins
      obtain ⟨answer, ⟨session, h⟩⟩ := begins
      cases answer with
      | error error => exact .intro _ (.intro _ (h.release session))
      | ok transaction => exact .intro _ (.intro _ h)

/-- Committing and rolling back come to the same. -/
theorem finishTransaction (h : b.Alike b') (c : Connection) (patience : Patience)
    (ending : Ending) :
    Connection.SameCall (c.finish b patience ending) (c.finish b' patience ending) := by
  have waits := h.awaitDrain c patience
  rw [Connection.finish, Connection.finish]
  generalize c.awaitDrain b patience = wait at waits
  generalize c.awaitDrain b' patience = wait' at waits
  obtain ⟨drained, ⟨c, ⟨h, patience⟩⟩⟩ := waits
  cases drained with
  | false => exact .intro _ (.intro _ (.intro h _))
  | true =>
    simp only
    cases c.state with
    | outside settings => exact .intro _ (.intro _ (.intro h _))
    | closed => exact .intro _ (.intro _ (.intro h _))
    | inside transaction session settings =>
      have finishes := h.finish session ending transaction c.config.transactionTimeout
      simp only
      generalize session.finish _ ending transaction _ = run at finishes
      generalize session.finish _ ending transaction _ = run' at finishes
      obtain ⟨answer, ⟨session, h⟩⟩ := finishes
      cases answer with
      | error error => exact .intro _ (.intro _ (.intro h _))
      | ok finished => exact .intro _ (.intro _ (.intro (h.release session) _))

theorem setAutoCommit (h : b.Alike b') (c : Connection) (patience : Patience)
    (autoCommit : Bool) :
    Connection.SameCall (c.setAutoCommit b patience autoCommit)
      (c.setAutoCommit b' patience autoCommit) := by
  unfold Connection.setAutoCommit
  split
  · exact .intro _ (.intro _ (.intro h _))
  · exact .intro _ (.intro _ (.intro h _))
  · exact .intro _ (.intro _ (.intro h _))
  · have finishes := h.finishTransaction c patience .commit
    rw [Connection.commit, Connection.commit]
    generalize c.finish b patience .commit = run at finishes
    generalize c.finish b' patience .commit = run' at finishes
    obtain ⟨outcome, ⟨c, ⟨h, patience⟩⟩⟩ := finishes
    cases outcome <;> exact .intro _ (.intro _ (.intro h _))

theorem close (h : b.Alike b') (c : Connection) (patience : Patience) :
    Connection.SameCall (c.close b patience) (c.close b' patience) := by
  rw [Connection.close, Connection.close]
  split
  · exact .intro _ (.intro _ (.intro h _))
  · have finishes := h.finishTransaction c patience .commit
    rw [Connection.commit, Connection.commit]
    generalize c.finish b patience .commit = run at finishes
    generalize c.finish b' patience .commit = run' at finishes
    obtain ⟨outcome, ⟨c, ⟨h, patience⟩⟩⟩ := finishes
    cases outcome <;> exact .intro _ (.intro _ (.intro h _))

theorem forceClose (h : b.Alike b') (c : Connection) (patience : Patience) :
    Connection.SameCall (c.forceClose b patience) (c.forceClose b' patience) := by
  have waits := h.awaitDrain c patience
  rw [Connection.forceClose, Connection.forceClose]
  generalize c.awaitDrain b patience = wait at waits
  generalize c.awaitDrain b' patience = wait' at waits
  obtain ⟨drained, ⟨c, ⟨h, patience⟩⟩⟩ := waits
  cases drained with
  | false => exact .intro _ (.intro _ (.intro h _))
  | true =>
    refine .intro _ (.intro _ (.intro ?_ _))
    cases c.state with
    | outside settings => exact h
    | closed => exact h
    | inside transaction session settings =>
      have rolls := h.finish session .rollback transaction c.config.transactionTimeout
      simp only [Session.finish] at rolls ⊢
      generalize session.rollback _ transaction _ = run at rolls
      generalize session.rollback _ transaction _ = run' at rolls
      obtain ⟨answer, ⟨session, h⟩⟩ := rolls
      exact h.release session

theorem dropConnection (h : b.Alike b') (c : Connection) : (c.drop b).Alike (c.drop b') := by
  unfold Connection.drop
  split
  · exact h.releaseAfter _ _
  · exact h.release _
  · exact h

/-- Every call on a connection answers alike over backends that are alike, and leaves such backends.
The proof goes call by call, with one lemma for each. -/
theorem perform (h : b.Alike b') (c : Connection) (patience : Patience) (request : Request) :
    Connection.SameCall (c.perform b patience request) (c.perform b' patience request) := by
  cases request with
  | data descriptor rows => exact (h.executeData c patience descriptor rows).map _
  | schema text =>
    have executes := h.executeSchema c text
    rw [Connection.perform, Connection.perform]
    generalize c.executeSchema b text = run at executes
    generalize c.executeSchema b' text = run' at executes
    obtain ⟨outcome, h⟩ := executes
    exact .intro _ (.intro _ (.intro h _))
  | begin settings =>
    have begins := h.beginTransaction c settings
    rw [Connection.perform, Connection.perform]
    generalize c.begin b settings = run at begins
    generalize c.begin b' settings = run' at begins
    obtain ⟨outcome, ⟨c, h⟩⟩ := begins
    exact .intro _ (.intro _ (.intro h _))
  | commit => exact (h.finishTransaction c patience .commit).map _
  | rollback => exact (h.finishTransaction c patience .rollback).map _
  | setAutoCommit autoCommit => exact (h.setAutoCommit c patience autoCommit).map _
  | setIsolationLevel level => exact .intro _ (.intro _ (.intro h _))
  | setReadOnly readOnly => exact .intro _ (.intro _ (.intro h _))
  | setQueryTimeout timeout => exact .intro _ (.intro _ (.intro h _))
  | close => exact (h.close c patience).map _
  | forceClose => exact (h.forceClose c patience).map _

end Backend.Alike

end SqlDriver
