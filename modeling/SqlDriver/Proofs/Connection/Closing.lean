import SqlDriver.Proofs.Connection.Agreement
import SqlDriver.Proofs.Connection.Texts
import SqlDriver.Proofs.Journal.Streams

/-!
The end of a connection. A close commits the open transaction first, and stops there unless that
succeeds; a forced close asks once for a rollback and goes on whatever comes of it. A connection
without an open transaction has no stream to wait for, so one that is closed is never held up: it
answers every call at once, and asks nothing of the backend any more.
-/

namespace SqlDriver

/-! ## Streams to wait for -/

/-- Without an open transaction there is no stream to wait for. -/
def Connection.Rests (c : Connection) : Prop := c.state.isInside = false → c.pending = none

/-- Without a stream to wait for a connection rests. -/
theorem Connection.rests_of_idle {c : Connection} (idle : c.pending = none) : c.Rests :=
  fun _ => idle

/-- Inside a transaction a stream to wait for is one on the session that is held. -/
theorem Connection.rests_of_inside {c : Connection} (inside : c.state.isInside = true) :
    c.Rests := by
  intro outside
  rw [inside] at outside
  cases outside

/-- A statement on a session of its own leaves no stream on a session that is held, so there is
nothing to wait for after it. -/
theorem Connection.pending_afterOutside (c : Connection) (settings : TransactionSettings)
    (result : Except BackendError (Nat × Collected) × Session × Backend) :
    (c.afterOutside settings result).2.1.pending = c.pending := by
  unfold Connection.afterOutside
  split
  · rfl
  · split <;> rfl
  · rfl
  · rfl
  · rfl

namespace Connection.Rests

variable {c c' : Connection} {b b' : Backend} {text : String} {parameters : NamedValues}

theorem awaitsDrain {drained : Bool} (h : c.Rests) (waits : c.AwaitsDrain b (drained, c', b')) :
    c'.Rests := by
  cases waits with
  | givenUp idles => exact h
  | drained idles drained => exact rests_of_idle rfl

/-- A statement on the held session follows its stream only as long as the transaction stays open,
which it does where the connection agrees with its session. -/
theorem afterInside {transaction : TransactionId} {session : Session}
    {settings : TransactionSettings} {deadline : Duration}
    {result : Except BackendError (Nat × Collected) × Session × Backend}
    (same : session.openTransaction = some transaction)
    (executes : session.Executes b text (.resume transaction false) parameters deadline
      (fun stream _ => .sign stream) result) :
    (c.afterInside transaction settings result).2.1.Rests := by
  cases executes with
  | complete opened left requested opens consulted idles =>
    rw [Session.opens_open same] at opens
    cases opens
    exact rests_of_inside rfl
  | _ => exact rests_of_inside rfl

/-- A statement leaves a stream to wait for only inside a transaction, where it was given up on the
session that is held. -/
theorem executesOne {out : Outcome QueryResult × Connection × Backend} (h : c.Rests)
    (agrees : c.Agrees) (executes : c.ExecutesOne b text parameters out) : out.2.1.Rests := by
  cases executes with
  | givenUp waits => exact h.awaitsDrain waits
  | closed waits state => exact h.awaitsDrain waits
  | inside waits state executes =>
    exact afterInside (agrees _ _ _ (waits.state.symm.trans state)) executes
  | outside waits state executes =>
    cases executes with
    | unserved error requested => exact rests_of_idle waits.pending
    | served requested executes =>
      exact rests_of_idle ((Connection.pending_afterOutside _ _ _).trans waits.pending)

theorem begins {settings : TransactionSettings} {out : Outcome Unit × Connection × Backend}
    (h : c.Rests) (begins : c.Begins b settings out) : out.2.1.Rests := by
  cases begins with
  | done transaction state requested begins => exact rests_of_inside rfl
  | _ => exact h

/-- Ending the transaction leaves nothing to wait for outside of it. -/
theorem finishes {ending : Ending} {out : Outcome Unit × Connection × Backend} (h : c.Rests)
    (finishes : c.Finishes b ending out) : out.2.1.Rests := by
  cases finishes with
  | givenUp waits => exact h.awaitsDrain waits
  | nothingOpen waits state => exact h.awaitsDrain waits
  | refused error waits state finishes => exact rests_of_inside rfl
  | done waits state finishes => exact rests_of_idle waits.pending

theorem forceCloses {out : Outcome Unit × Connection × Backend} (h : c.Rests)
    (closes : c.ForceCloses b out) : out.2.1.Rests := by
  cases closes with
  | givenUp waits => exact h.awaitsDrain waits
  | nothingOpen waits state => exact rests_of_idle waits.pending
  | rolledBack answer waits state finishes => exact rests_of_idle waits.pending

end Connection.Rests

/-- Every call leaves a connection with a stream to wait for only while a transaction is open. With
this a connection that is outside can be closed at once. -/
theorem Connection.law_rests (refusals : List (CallKind × Status)) :
    Connection.Law (fun c b => Connection.Accords refusals c b ∧ c.Rests)
      (BackendError.Injected refusals) where
  unreported h := h.1.2.unreported
  executesOne h executes := by
    have obeys := h.1.executesOne executes
    exact ⟨⟨obeys.1, h.2.executesOne h.1.1 executes⟩, obeys.2⟩
  runsSchema h runs := by
    have obeys := h.1.runsSchema runs
    exact ⟨⟨obeys.1, h.2⟩, obeys.2⟩
  begins h begins := by
    have obeys := h.1.begins begins
    exact ⟨⟨obeys.1, h.2.begins begins⟩, obeys.2⟩
  finishes h finishes := by
    have obeys := h.1.finishes finishes
    exact ⟨⟨obeys.1, h.2.finishes finishes⟩, obeys.2⟩
  forceCloses h closes := by
    have obeys := h.1.forceCloses closes
    exact ⟨⟨obeys.1, h.2.forceCloses closes⟩, obeys.2⟩
  idle h outside outside' :=
    ⟨(Connection.law_accords refusals).idle h.1 outside outside', fun _ => h.2 outside⟩
  setQueryTimeout timeout h := h

/-! ## Closed connections -/

/-- A connection that is closed and waits for nothing. -/
structure Connection.IsOver (c : Connection) : Prop where
  closed : c.state = .closed
  idle : c.pending = none

/-- The answer of a closed connection. Ending a transaction and closing by force have nothing left
to do, and the deadline of statements is no matter of the state. -/
def Request.answerWhenClosed : Request → Outcome Response
  | .commit | .rollback | .forceClose | .setQueryTimeout _ => .done .acknowledged
  | _ => .failed (.state .closed)

/-- A wait is over at once if nothing is left of the stream, and a wait is given up only while the
stream goes on. -/
theorem Connection.awaitDrain_of_not_draining {c : Connection} {b : Backend}
    (idle : c.isDraining b = false) (patience : Patience) :
    c.awaitDrain b patience = (true, { c with pending := none }, b, patience) := by
  cases patience with
  | nil => rw [Connection.awaitDrain, idle]; rfl
  | cons stirs patience => rw [Connection.awaitDrain, idle]; rfl

namespace Connection.IsOver

variable {c : Connection} {b : Backend}

/-- A closed connection waits for nothing. -/
theorem rest (h : c.IsOver) : { c with pending := none } = c := by
  rw [← h.idle]

theorem awaitDrain (h : c.IsOver) (patience : Patience) :
    c.awaitDrain b patience = (true, c, b, patience) := by
  have idle : c.isDraining b = false := by
    rw [Connection.isDraining, h.idle]
    rfl
  rw [Connection.awaitDrain_of_not_draining idle, h.rest]

theorem finish (h : c.IsOver) (patience : Patience) (ending : Ending) :
    c.finish b patience ending = (.done (), c, b, patience) := by
  rw [Connection.finish, h.awaitDrain patience]
  simp only [h.closed]

theorem forceClose (h : c.IsOver) (patience : Patience) :
    c.forceClose b patience = (.done (), c, b, patience) := by
  rw [Connection.forceClose, h.awaitDrain patience]
  simp only [h.closed]
  rw [← h.closed]

theorem executeData (h : c.IsOver) (patience : Patience) (descriptor : Descriptor)
    (rows : List NamedValues) :
    c.executeData b patience descriptor rows = (.failed (.state .closed), c, b, patience) := by
  unfold Connection.executeData
  rw [h.closed]
  rfl

theorem setAutoCommit (h : c.IsOver) (patience : Patience) (autoCommit : Bool) :
    c.setAutoCommit b patience autoCommit = (.failed (.state .closed), c, b, patience) := by
  unfold Connection.setAutoCommit
  rw [h.closed]

theorem changeSettings (h : c.IsOver) (change : TransactionSettings → TransactionSettings) :
    c.changeSettings change = (.failed (.state .closed), c) := by
  rw [Connection.changeSettings, h.closed]

/-- A closed connection answers at once, stays closed and leaves the backend alone, whatever is
asked of it and however it is held up. -/
theorem perform (h : c.IsOver) (patience : Patience) (request : Request) :
    ∃ c', c'.IsOver ∧ c.perform b patience request =
      (request.answerWhenClosed, c', b, patience) := by
  cases request with
  | setQueryTimeout timeout => exact ⟨c.setQueryTimeout timeout, ⟨h.closed, h.idle⟩, rfl⟩
  | data descriptor rows =>
    refine ⟨c, h, ?_⟩
    rw [Connection.perform, h.executeData patience descriptor rows]
    rfl
  | schema text =>
    refine ⟨c, h, ?_⟩
    rw [Connection.perform, Connection.executeSchema, h.closed]
    rfl
  | begin settings =>
    refine ⟨c, h, ?_⟩
    rw [Connection.perform, Connection.begin, h.closed]
    rfl
  | setAutoCommit autoCommit =>
    refine ⟨c, h, ?_⟩
    rw [Connection.perform, h.setAutoCommit patience autoCommit]
    rfl
  | setIsolationLevel level =>
    refine ⟨c, h, ?_⟩
    rw [Connection.perform, Connection.setIsolationLevel, h.changeSettings]
    rfl
  | setReadOnly readOnly =>
    refine ⟨c, h, ?_⟩
    rw [Connection.perform, Connection.setReadOnly, h.changeSettings]
    rfl
  | close =>
    refine ⟨c, h, ?_⟩
    rw [Connection.perform, Connection.close, h.closed]
    rfl
  | commit =>
    refine ⟨c, h, ?_⟩
    rw [Connection.perform, Connection.commit, h.finish patience]
    rfl
  | rollback =>
    refine ⟨c, h, ?_⟩
    rw [Connection.perform, Connection.rollback, h.finish patience]
    rfl
  | forceClose =>
    refine ⟨c, h, ?_⟩
    rw [Connection.perform, h.forceClose patience]
    rfl

/-- Dropping a closed connection gives nothing back. -/
theorem drop (h : c.IsOver) : c.drop b = b := by
  rw [Connection.drop, h.closed]

theorem abandon (h : c.IsOver) : c.abandon b = b := by
  rw [Connection.abandon, h.closed]

end Connection.IsOver

/-! ## What closing asks for -/

/-- What is added to the journal when the open transaction, if there is one, is ended and its
session given back, by whether the request was accepted. -/
def Connection.parting (c : Connection) (ending : Ending) (accepted : Bool) : Journal :=
  match c.state with
  | .inside transaction session _ =>
    .requested ending.call (some session.number) c.config.transactionTimeout ::
      ((if accepted then [ending.entry session.number transaction] else []) ++
        [.released session.number])
  | _ => []

theorem Connection.parting_of_not_inside {c : Connection} (outside : c.state.isInside = false)
    (ending : Ending) (accepted : Bool) : c.parting ending accepted = [] := by
  rw [Connection.parting]
  cases state : c.state with
  | inside transaction session settings => rw [state] at outside; cases outside
  | outside settings => rfl
  | closed => rfl

theorem Connection.parting_congr {c c' : Connection} (state : c'.state = c.state)
    (config : c'.config = c.config) (ending : Ending) (accepted : Bool) :
    c'.parting ending accepted = c.parting ending accepted := by
  rw [Connection.parting, Connection.parting, state, config]

/-- The open transaction is asked to be ended once; without one, nothing is asked. -/
theorem Connection.asked_parting (c : Connection) (ending : Ending) (accepted : Bool) :
    Journal.asked (c.parting ending accepted) ending.call = if c.state.isInside then 1 else 0 := by
  rw [Connection.parting]
  cases state : c.state with
  | inside transaction session settings => cases ending <;> cases accepted <;> rfl
  | outside settings => rfl
  | closed => rfl

/-- The session that was held is given back, also when ending the transaction was refused. -/
theorem Connection.mem_releases_parting {c : Connection} {session : Session}
    (held : c.state.session? = some session) (ending : Ending) (accepted : Bool) :
    session.number ∈ Journal.releases (c.parting ending accepted) := by
  rw [Connection.parting]
  cases state : c.state with
  | inside transaction session' settings =>
    rw [state] at held
    cases held
    cases ending <;> cases accepted <;> exact List.mem_singleton_self _
  | outside settings => rw [state] at held; cases held
  | closed => rw [state] at held; cases held

/-- Streams ask for nothing. -/
theorem Backend.StreamWork.asked {b b' : Backend} (work : b.StreamWork b') (call : CallKind) :
    Journal.asked b'.journal call = Journal.asked b.journal call := by
  obtain ⟨entries, added, own⟩ := work.journal
  have asks : entries.countP (Entry.asks call) = 0 := by
    rw [List.countP_eq_zero]
    intro entry member
    rw [(Entry.idle_of_isStreamWork (own entry member)).1 call]
    exact Bool.false_ne_true
  rw [Journal.asked, added, List.countP_append, asks]
  rfl

/-- A request to end a transaction is recorded, and what it ends only when it is carried out. The
session keeps its number. -/
theorem Session.Finishes.journal {s s' : Session} {b b' : Backend} {ending : Ending}
    {transaction : TransactionId} {deadline : Duration} {answer : Except BackendError Unit}
    (finishes : s.Finishes b ending transaction deadline (answer, s', b')) :
    s'.number = s.number ∧ b'.journal = b.journal ++
      .requested ending.call (some s.number) deadline ::
        if answer.isOk then [ending.entry s.number transaction] else [] := by
  cases finishes with
  | refused error requested => exact ⟨rfl, requested.journal⟩
  | misplaced error requested checked => exact ⟨rfl, requested.journal⟩
  | done requested checked =>
    refine ⟨rfl, ?_⟩
    rw [Backend.record, requested.journal, List.append_assoc]
    rfl

theorem Connection.AwaitsDrain.config {c c' : Connection} {b b' : Backend} {drained : Bool}
    (waits : c.AwaitsDrain b (drained, c', b')) : c'.config = c.config := by
  cases waits with
  | givenUp idles => rfl
  | drained idles drained => rfl

/-- Ending the transaction after the wait and giving its session back adds just this to the journal:
what streams have added in the meantime comes before it. -/
theorem Connection.AwaitsDrain.parting {c c' : Connection} {b b' b'' : Backend} {ending : Ending}
    {transaction : TransactionId} {session session' : Session} {settings : TransactionSettings}
    {answer : Except BackendError Unit} (waits : c.AwaitsDrain b (true, c', b'))
    (state : c'.state = .inside transaction session settings)
    (finishes : session.Finishes b' ending transaction c'.config.transactionTimeout
      (answer, session', b'')) :
    (b''.release session').journal = b'.journal ++ c.parting ending answer.isOk := by
  obtain ⟨number, added⟩ := finishes.journal
  rw [← Connection.parting_congr waits.state waits.config, Connection.parting, state,
    Backend.release, Backend.record, added, number, List.append_assoc]
  rfl

/-- A forced close is given up while it waits, or it closes the connection, whether the rollback is
accepted or not. -/
theorem Connection.ForceCloses.closes {c c' : Connection} {b b' : Backend}
    {outcome : Outcome Unit} (closes : c.ForceCloses b (outcome, c', b')) :
    outcome = .cancelled ∧ c' = c ∧ b.StreamWork b' ∨
      outcome = .done () ∧ c'.state = .closed ∧ ∃ b₁ accepted, b.StreamWork b₁ ∧
        b'.journal = b₁.journal ++ c.parting .rollback accepted := by
  cases closes with
  | givenUp waits =>
    cases waits with
    | givenUp idles => exact Or.inl ⟨rfl, rfl, idles.streamWork⟩
  | nothingOpen waits state =>
    refine Or.inr ⟨rfl, rfl, _, true, waits.streamWork, ?_⟩
    rw [waits.state] at state
    rw [Connection.parting_of_not_inside state, List.append_nil]
  | rolledBack answer waits state finishes =>
    exact Or.inr ⟨rfl, rfl, _, answer.isOk, waits.streamWork,
      waits.parting state finishes⟩

/-- A forced close is given up only while the stream of a given-up statement still goes on. -/
theorem Connection.forceClose_of_not_draining {c : Connection} {b : Backend}
    (idle : c.isDraining b = false) (patience : Patience) :
    (c.forceClose b patience).1 = .done () := by
  rw [Connection.forceClose, Connection.awaitDrain_of_not_draining idle]

/-- Ending the transaction that is open closes no connection; closing is a step of its own after it.
-/
theorem Connection.Finishes.state {c c' : Connection} {b b' : Backend} {ending : Ending}
    {outcome : Outcome Unit} (finishes : c.Finishes b ending (outcome, c', b'))
    (unclosed : c.state ≠ .closed) : c'.state ≠ .closed := by
  cases finishes with
  | givenUp waits => rwa [waits.state]
  | nothingOpen waits state => rwa [waits.state]
  | refused error waits state finishes => exact fun closed => by cases closed
  | done waits state finishes => exact fun closed => by cases closed

/-- When the transaction was ended, its session was given back after that. -/
theorem Connection.Finishes.parting {c c' : Connection} {b b' : Backend} {ending : Ending}
    (finishes : c.Finishes b ending (.done (), c', b')) :
    ∃ b₁, b.StreamWork b₁ ∧ b'.journal = b₁.journal ++ c.parting ending true := by
  cases finishes with
  | nothingOpen waits state =>
    refine ⟨b', waits.streamWork, ?_⟩
    rw [waits.state] at state
    rw [Connection.parting_of_not_inside state, List.append_nil]
  | done waits state finishes => exact ⟨_, waits.streamWork, waits.parting state finishes⟩

/-- Closing, after committing what is open. -/
inductive Connection.Closes (c : Connection) (b : Backend) :
    Outcome Unit × Connection × Backend → Prop
  | already (state : c.state = .closed) : Connection.Closes c b (.failed (.state .closed), c, b)
  | kept {outcome : Outcome Unit} {c' : Connection} {b' : Backend} (unclosed : c.state ≠ .closed)
      (undone : outcome.isDone = false) (finishes : c.Finishes b .commit (outcome, c', b')) :
      Connection.Closes c b (outcome, c', b')
  | closed {c' : Connection} {b' : Backend} (unclosed : c.state ≠ .closed)
      (finishes : c.Finishes b .commit (.done (), c', b')) :
      Connection.Closes c b (.done (), { c' with state := .closed }, b')

/-- Every way in which a close may come out: refused since the connection is closed already, failed
with what committing failed with, or done. -/
theorem Connection.closes (c : Connection) (b : Backend) (patience : Patience) :
    let run := c.close b patience
    c.Closes b (run.1, run.2.1, run.2.2.1) := by
  have finishes := c.finishes b patience .commit
  rw [Connection.close]
  by_cases closed : c.state = .closed
  · rw [if_pos (by rw [closed]; rfl)]
    exact .already closed
  · have unclosed : c.state.isClosed = false := by
      cases state : c.state with
      | closed => exact (closed state).elim
      | _ => rfl
    rw [unclosed, if_neg Bool.false_ne_true, Connection.commit]
    generalize c.finish b patience .commit = run at finishes
    obtain ⟨outcome, c', b', patience'⟩ := run
    cases outcome with
    | done ended => exact .closed closed finishes
    | failed error => exact .kept closed rfl finishes
    | cancelled => exact .kept closed rfl finishes

/-- A close succeeds exactly when it brings the connection to its end. So a close that fails has
left the connection open, and may be tried again. -/
theorem Connection.Closes.isDone_iff {c c' : Connection} {b b' : Backend} {outcome : Outcome Unit}
    (closes : c.Closes b (outcome, c', b')) :
    outcome.isDone = true ↔ c.state ≠ .closed ∧ c'.state = .closed := by
  cases closes with
  | already state => simp [Outcome.isDone, state]
  | kept unclosed undone finishes => simp [undone, finishes.state unclosed]
  | closed unclosed finishes => simp [Outcome.isDone, unclosed]

/-- When a close succeeds, the open transaction was committed before its session was given back, and
nothing came in between. -/
theorem Connection.Closes.parting {c c' : Connection} {b b' : Backend} {outcome : Outcome Unit}
    (closes : c.Closes b (outcome, c', b')) (done : outcome.isDone = true) :
    ∃ b₁, b.StreamWork b₁ ∧ b'.journal = b₁.journal ++ c.parting .commit true := by
  cases closes with
  | already state => cases done
  | kept unclosed undone finishes => rw [undone] at done; cases done
  | closed unclosed finishes => exact finishes.parting

end SqlDriver
