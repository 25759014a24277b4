import SqlDriver.Proofs.Connection.Laws
import SqlDriver.Proofs.Journal.Endings

/-!
What a call makes of the open transaction. The caller knows which transaction a call has ended: the
one that was open, when a call that is to end it succeeds, or when the rollback of a forced close is
accepted. The journal of the backend says just this of the call. Statements, settings and the
opening of a transaction end nothing, and neither does a call that fails or is given up.
-/

namespace SqlDriver

/-! ## What the caller knows -/

/-- How a call is to end the transaction that is open. -/
def Request.ending? : Request → Option Ending
  | .commit => some .commit
  | .close => some .commit
  | .setAutoCommit true => some .commit
  | .rollback => some .rollback
  | .forceClose => some .rollback
  | _ => none

/-- Whether a forced close rolls the open transaction back. It does not say so itself, as it closes
the connection in any case. -/
def Connection.rollbackAccepted (c : Connection) (b : Backend) (patience : Patience) : Bool :=
  match c.awaitDrain b patience with
  | (false, _) => false
  | (true, c, b, _) =>
    match c.state with
    | .inside transaction session _ =>
      (session.rollback b transaction c.config.transactionTimeout).1.isOk
    | _ => false

/-- Whether a call comes to what it is made for. -/
def Connection.accomplishes (c : Connection) (b : Backend) (patience : Patience) :
    Request → Bool
  | .forceClose => c.rollbackAccepted b patience
  | request => (c.perform b patience request).1.isDone

/-- The transaction that is open, when it is ended in a certain way. -/
def Connection.State.endedAs (state : Connection.State) (ending : Ending) :
    List (Ending × TransactionId) :=
  state.transaction?.toList.map fun transaction => (ending, transaction)

/-- The transaction that a call has ended, if any, as the caller knows it. -/
def Connection.endedBy (c : Connection) (b : Backend) (patience : Patience) (request : Request) :
    List (Ending × TransactionId) :=
  if c.accomplishes b patience request then (request.ending?.map c.state.endedAs).getD [] else []

/-- A call that ends nothing has nothing ended for its caller. -/
theorem Connection.endedBy_of_none {request : Request} (none : request.ending? = none)
    (c : Connection) (b : Backend) (patience : Patience) : c.endedBy b patience request = [] := by
  rw [Connection.endedBy, none]
  split <;> rfl

theorem Connection.State.transaction?_of_not_inside {state : Connection.State}
    (outside : state.isInside = false) : state.transaction? = none := by
  cases state with
  | inside transaction session settings => cases outside
  | _ => rfl

theorem Connection.State.endedAs_of_not_inside {state : Connection.State}
    (outside : state.isInside = false) (ending : Ending) : state.endedAs ending = [] := by
  rw [Connection.State.endedAs, Connection.State.transaction?_of_not_inside outside]
  rfl

/-! ## Where nothing is ended -/

theorem Backend.issued_record_le (b : Backend) (entry : Entry) :
    Journal.issued b.journal ≤ Journal.issued (b.record entry).journal := by
  rw [Backend.record, Journal.issued_append]
  exact Nat.le_add_right _ _

/-- An entry that ends a transaction adds that to the endings in the journal. -/
theorem Backend.endings_record (b : Backend) (entry : Entry) :
    Journal.endings (b.record entry).journal =
      Journal.endings b.journal ++ entry.ending?.toList := by
  rw [Backend.record, Journal.endings_append]
  cases entry <;> rfl

/-- No transaction was ended at a backend, though some may have been issued. -/
structure Backend.Unended (b b' : Backend) : Prop where
  endings : Journal.endings b'.journal = Journal.endings b.journal
  issued : Journal.issued b.journal ≤ Journal.issued b'.journal
  reports : b'.reports = b.reports

namespace Backend.Unended

variable {b b' b'' : Backend}

theorem refl (b : Backend) : b.Unended b := ⟨rfl, Nat.le_refl _, rfl⟩

theorem trans (first : b.Unended b') (second : b'.Unended b'') : b.Unended b'' where
  endings := second.endings.trans first.endings
  issued := Nat.le_trans first.issued second.issued
  reports := second.reports.trans first.reports

theorem record (b : Backend) {entry : Entry} (none : entry.ending? = none) :
    b.Unended (b.record entry) where
  endings := by rw [Backend.endings_record, none, Option.toList_none, List.append_nil]
  issued := b.issued_record_le entry
  reports := rfl

/-- Streams end no transaction. -/
theorem streamWork (work : b.StreamWork b') : b.Unended b' := by
  obtain ⟨⟨entries, added, only⟩, -, -, reports⟩ := work
  have nothing : Journal.endings entries = [] := by
    rw [Journal.endings, List.filterMap_eq_nil_iff]
    intro entry member
    have work := only entry member
    cases entry with
    | committed => cases work
    | rolledBack => cases work
    | _ => rfl
  constructor
  · rw [added, Journal.endings_append, nothing, List.append_nil]
  · rw [added, Journal.issued_append]
    exact Nat.le_add_right _ _
  · exact reports

theorem release (h : b.Unended b') (session : Session) : b.Unended (b'.release session) :=
  h.trans (record b' rfl)

theorem completed (b : Backend) (stream : Nat) : b.Unended (b.record (.completed stream)) :=
  record b rfl

/-- A request ends nothing by being made. -/
theorem requests {call : CallKind} {on : Option Nat} {deadline : Duration}
    {answer : Except BackendError Unit} (requested : b.Requests call on deadline (answer, b')) :
    b.Unended b' := by
  cases requested with
  | refused status left consulted => exact (record b rfl).trans ⟨rfl, Nat.le_refl _, rfl⟩
  | granted left consulted => exact (record b rfl).trans ⟨rfl, Nat.le_refl _, rfl⟩

theorem serve {deadline : Duration} (requested : b.Requests .acquire none deadline (.ok (), b')) :
    b.Unended b'.serve :=
  (requests requested).trans (record b' rfl)

end Backend.Unended

section Session

variable {s : Session} {b b' b'' : Backend} {text : String} {control : TransactionControl}
  {parameters : NamedValues} {deadline : Duration} {guard : Nat → Session → Guard}
  {opened : Option TransactionId} {left : List Injection}

/-- Accepting a statement ends nothing by request, though the statement may commit what it does. -/
theorem Backend.Unended.accept (b : Backend) (text : String) (control : TransactionControl)
    (session : Nat) (opened : Option TransactionId) (left : List Injection) :
    b.Unended (b.accept text control session opened left) :=
  (record b rfl).trans ⟨rfl, Nat.le_refl _, rfl⟩

/-- A statement that was accepted, to the end of the call that takes in its stream, ends nothing by
request. -/
theorem Backend.Unended.started
    (requested : b.Requests .dataStatement s.number deadline (.ok (), b'))
    (idles : (b'.accept text control s.number opened left).Idles b'') : b.Unended b'' :=
  ((requests requested).trans (accept b' text control s.number opened left)).trans
    (streamWork idles.streamWork)

theorem Session.Executes.unended
    {result : Except BackendError (Nat × Collected) × Session × Backend}
    (executes : s.Executes b text control parameters deadline guard result) :
    b.Unended result.2.2 := by
  cases executes with
  | refused error requested => exact .requests requested
  | misplaced error requested checked => exact .requests requested
  | complete opened left requested opens consulted idles =>
    exact (Backend.Unended.started requested idles).trans (.completed _ _)
  | failed opened status left requested opens consulted idles =>
    exact ((Backend.Unended.started requested idles).trans (.completed _ _)).trans
      (.streamWork (.dropKept _ _))
  | cancelled opened failure left rest requested opens consulted idles finishing =>
    exact (Backend.Unended.started requested idles).trans (.streamWork (.setBackground _ _))

/-- A statement that starts a transaction and leaves it open was issued a new one, which no other
connection can have open. -/
theorem Backend.Unended.starts {mode : TransactionMode} {commit : Bool}
    {transaction : TransactionId}
    (requested : b.Requests .dataStatement s.number deadline (.ok (), b'))
    (opens : s.opens b' (.start mode commit) = .ok (some transaction))
    (idles : (b'.accept text (.start mode commit) s.number (some transaction) left).Idles b'') :
    ∃ serial, Journal.issued b.journal ≤ serial ∧ serial < Journal.issued b''.journal ∧
      transaction = .issued serial := by
  cases commit with
  | true => cases opens
  | false =>
    cases opens
    have before := (Backend.Unended.requests requested).issued
    have after := (Backend.Unended.streamWork idles.streamWork).issued
    rw [Backend.accept, Backend.record, Journal.issued_append] at after
    exact ⟨Journal.issued b'.journal, before, after, rfl⟩

end Session

/-! ## What paths make of the open transaction -/

/-- A call has ended nothing, and has left the open transaction as it was or opened a new one. -/
structure Connection.Carries (c : Connection) (b : Backend) (c' : Connection) (b' : Backend) :
    Prop where
  unended : b.Unended b'
  transaction : c'.state.transaction? = c.state.transaction? ∨
    c.state.transaction? = none ∧ ∃ serial, Journal.issued b.journal ≤ serial ∧
      serial < Journal.issued b'.journal ∧ c'.state.transaction? = some (.issued serial)

/-- What a call makes of the open transaction, with what it has ended. -/
inductive Connection.Turns (c : Connection) (b : Backend) :
    List (Ending × TransactionId) → Connection → Backend → Prop
  | carried {c' : Connection} {b' : Backend} (carries : c.Carries b c' b') :
      Connection.Turns c b [] c' b'
  | ended {c' : Connection} {b' : Backend} {ending : Ending} {transaction : TransactionId}
      (state : c.state.transaction? = some transaction)
      (endings : Journal.endings b'.journal =
        Journal.endings b.journal ++ [(ending, transaction)])
      (issued : Journal.issued b.journal ≤ Journal.issued b'.journal)
      (reports : b'.reports = b.reports) (outside : c'.state.transaction? = none) :
      Connection.Turns c b [(ending, transaction)] c' b'
  /-- The open transaction, if any, was left to the backend. -/
  | left {c' : Connection} {b' : Backend} (unended : b.Unended b')
      (outside : c'.state.transaction? = none) : Connection.Turns c b [] c' b'

namespace Connection.Carries

variable {c c' c'' : Connection} {b b' b'' : Backend} {text : String} {parameters : NamedValues}

theorem same (unended : b.Unended b')
    (state : c'.state.transaction? = c.state.transaction?) : c.Carries b c' b' :=
  ⟨unended, Or.inl state⟩

theorem refl (c : Connection) (b : Backend) : c.Carries b c b := same (.refl b) rfl

theorem trans (first : c.Carries b c' b') (second : c'.Carries b' c'' b'') :
    c.Carries b c'' b'' := by
  have later := second.unended.issued
  refine ⟨first.unended.trans second.unended, ?_⟩
  rcases first.transaction with kept | ⟨none, serial, new, there, opened⟩
  · rcases second.transaction with kept' | ⟨none', serial, new, there, opened⟩
    · exact Or.inl (kept'.trans kept)
    · exact Or.inr ⟨kept.symm.trans none', serial, Nat.le_trans first.unended.issued new, there,
        opened⟩
  · rcases second.transaction with kept' | ⟨none', _⟩
    · exact Or.inr ⟨none, serial, new, Nat.lt_of_lt_of_le there later, kept'.trans opened⟩
    · rw [opened] at none'
      cases none'

theorem awaitsDrain {drained : Bool} (waits : c.AwaitsDrain b (drained, c', b')) :
    c.Carries b c' b' := by
  cases waits with
  | givenUp idles => exact same (.streamWork idles.streamWork) rfl
  | drained idles drained => exact same (.streamWork idles.streamWork) rfl

/-- A statement on the held session leaves the transaction open that it was asked to run in, or the
connection leaves it without ending it. -/
theorem afterInside {transaction : TransactionId} {session : Session}
    {settings : TransactionSettings} {deadline : Duration}
    {result : Except BackendError (Nat × Collected) × Session × Backend}
    (state : c.state.transaction? = some transaction)
    (executes : session.Executes b text (.resume transaction false) parameters deadline
      (fun stream _ => .sign stream) result) :
    c.Carries b (c.afterInside transaction settings result).2.1
      (c.afterInside transaction settings result).2.2 := by
  have unended := executes.unended
  cases executes with
  | complete opened left requested opens consulted idles =>
    cases checked : session.check transaction with
    | error error => rw [Session.opens, checked] at opens; cases opens
    | ok ok =>
      rw [Session.opens, checked] at opens
      cases opens
      exact same unended state.symm
  | _ => exact same unended state.symm

/-- A statement on a session of its own ends nothing. If it leaves a transaction open, that one is
new. -/
theorem afterOutside {session : Session} {settings : TransactionSettings} {mode : TransactionMode}
    {commit : Bool} {deadline : Duration}
    {result : Except BackendError (Nat × Collected) × Session × Backend}
    (state : c.state.transaction? = none)
    (executes : session.Executes b text (.start mode commit) parameters deadline
      (fun _ session => .lease session) result) :
    c.Carries b (c.afterOutside settings result).2.1 (c.afterOutside settings result).2.2 := by
  have unended := executes.unended
  cases executes with
  | refused error requested => exact same (unended.release session) rfl
  | misplaced error requested checked => exact same (unended.release session) rfl
  | @complete b' b'' opened left requested opens consulted idles =>
    cases opened with
    | none => exact same (unended.release _) rfl
    | some transaction =>
      obtain ⟨serial, new, there, rfl⟩ := Backend.Unended.starts requested opens idles
      have later := (Backend.Unended.completed b'' (Journal.dataStatements b'.journal)).issued
      exact ⟨unended, Or.inr ⟨state, serial, new, Nat.lt_of_lt_of_le there later, rfl⟩⟩
  | failed opened status left requested opens consulted idles => exact same unended rfl
  | cancelled opened failure left rest requested opens consulted idles finishing =>
    exact same unended rfl

/-- A data statement ends no transaction by request, and carries on with the one that is open or
with a new one. -/
theorem executesOne {out : Outcome QueryResult × Connection × Backend}
    (executes : c.ExecutesOne b text parameters out) : c.Carries b out.2.1 out.2.2 := by
  cases executes with
  | givenUp waits => exact awaitsDrain waits
  | closed waits state => exact awaitsDrain waits
  | inside waits state executes =>
    exact (awaitsDrain waits).trans (afterInside (by rw [state]; rfl) executes)
  | outside waits state executes =>
    refine (awaitsDrain waits).trans ?_
    cases executes with
    | unserved error requested => exact same (.requests requested) rfl
    | served requested executes =>
      exact (same (.serve requested) rfl).trans (afterOutside (by rw [state]; rfl) executes)

/-- A batch ends no transaction by request, and carries on with what its rows have left open. This
is shown row by row. -/
theorem executeAll (unreported : b.reports = []) (patience : Patience) (text : String)
    (completed : List QueryResult) (rows : List NamedValues) :
    let run := c.executeAll b patience text completed rows
    c.Carries b run.2.1 run.2.2.1 := by
  induction rows generalizing c b patience completed with
  | nil => exact refl c b
  | cons row rows ih =>
    have carries := executesOne (c.executesOne unreported patience text row)
    rw [Connection.executeAll]
    generalize c.executeOne b patience text row = run at carries
    obtain ⟨outcome, c', b', patience'⟩ := run
    have unreported' : b'.reports = [] := carries.unended.reports.trans unreported
    cases outcome with
    | done result => exact carries.trans (ih unreported' patience' (completed ++ [result]))
    | failed error => exact carries
    | cancelled => exact carries

theorem executeData (unreported : b.reports = []) (patience : Patience) (descriptor : Descriptor)
    (rows : List NamedValues) :
    let run := c.executeData b patience descriptor rows
    c.Carries b run.2.1 run.2.2.1 := by
  unfold Connection.executeData
  split
  · exact refl c b
  · split
    · exact executesOne (c.executesOne unreported patience descriptor.canonical [])
    · exact executesOne (c.executesOne unreported patience descriptor.canonical _)
    · exact executeAll unreported patience descriptor.canonical [] _

theorem executeSchema (text : String) : c.Carries b c (c.executeSchema b text).2 := by
  rw [Connection.executeSchema]
  split
  · exact refl c b
  · exact refl c b
  · have runs := c.config.runsSchema b text
    generalize c.config.runSchema b text = out at runs
    cases runs with
    | unserved error requested => exact same (.requests requested) rfl
    | refused error requested runs =>
      have served := Backend.Unended.serve requested
      cases runs with
      | refused error requested => exact same ((served.trans (.requests requested)).release _) rfl
    | done requested runs =>
      have served := Backend.Unended.serve requested
      cases runs with
      | done requested =>
        exact same (((served.trans (.requests requested)).trans (.record _ rfl)).release _) rfl

theorem begins {settings : TransactionSettings} {out : Outcome Unit × Connection × Backend}
    (begins : c.Begins b settings out) : c.Carries b out.2.1 out.2.2 := by
  cases begins with
  | closed state => exact refl c b
  | already isInside => exact refl c b
  | unserved error requested => exact same (.requests requested) rfl
  | refused error state requested begins =>
    have served := Backend.Unended.serve requested
    cases begins with
    | refused error requested => exact same ((served.trans (.requests requested)).release _) rfl
  | done transaction state requested begins =>
    have served := Backend.Unended.serve requested
    cases begins with
    | @done b' requested =>
      have before := served.trans (.requests requested)
      refine ⟨before.trans (.record _ rfl), Or.inr ⟨by rw [state]; rfl, _, before.issued, ?_, rfl⟩⟩
      rw [Backend.record, Journal.issued_append]
      exact Nat.lt_succ_self _

theorem changeSettings (change : TransactionSettings → TransactionSettings) :
    c.Carries b (c.changeSettings change).2 b := by
  rw [Connection.changeSettings]
  cases state : c.state with
  | outside settings => exact same (.refl b) (by rw [state]; rfl)
  | inside transaction session settings => exact refl c b
  | closed => exact refl c b

end Connection.Carries

/-! ## What calls end -/

section Finish

variable {c c' : Connection} {b b' b'' : Backend} {ending : Ending} {transaction : TransactionId}
  {session session' : Session} {deadline : Duration}

theorem Session.Finishes.unended {error : BackendError}
    (finishes : session.Finishes b ending transaction deadline (.error error, session', b')) :
    b.Unended b' := by
  cases finishes with
  | refused error requested => exact .requests requested
  | misplaced error requested checked => exact .requests requested

/-- A transaction that was open is ended, and its session given back; nothing is open on the
connection after that. -/
theorem Connection.Turns.finished (unended : b.Unended b')
    (state : c.state.transaction? = some transaction)
    (finishes : session.Finishes b' ending transaction deadline (.ok (), session', b''))
    (outside : c'.state.transaction? = none) :
    c.Turns b [(ending, transaction)] c' (b''.release session') := by
  cases finishes with
  | @done b₁ requested checked =>
    have before := unended.trans (.requests requested)
    have after := (Backend.Unended.refl
      (b₁.record (ending.entry session.number transaction))).release session
    have ended : (ending.entry session.number transaction).ending? =
        some (ending, transaction) := by
      cases ending <;> rfl
    have issued := b₁.issued_record_le (ending.entry session.number transaction)
    refine .ended state ?_ ?_ (after.reports.trans before.reports) outside
    · refine after.endings.trans ?_
      rw [Backend.endings_record, ended, before.endings]
      rfl
    · exact Nat.le_trans before.issued (Nat.le_trans issued after.issued)

end Finish

namespace Connection.Turns

variable {c c' : Connection} {b b' : Backend}

theorem congr {c'' : Connection} {endings : List (Ending × TransactionId)}
    (turns : c.Turns b endings c' b')
    (same : c''.state.transaction? = c'.state.transaction?) : c.Turns b endings c'' b' := by
  cases turns with
  | carried carries => exact .carried (carries.trans (.same (.refl b') same))
  | ended state endings issued reports outside =>
    exact .ended state endings issued reports (same.trans outside)
  | left unended outside => exact .left unended (same.trans outside)

/-- Committing or rolling back ends the transaction that was open exactly if it succeeds. -/
theorem finishes {ending : Ending} {out : Outcome Unit × Connection × Backend}
    (finishes : c.Finishes b ending out) :
    c.Turns b (if out.1.isDone then c.state.endedAs ending else []) out.2.1 out.2.2 := by
  cases finishes with
  | givenUp waits => exact .carried (.awaitsDrain waits)
  | nothingOpen waits outside =>
    rw [waits.state] at outside
    rw [Connection.State.endedAs_of_not_inside outside]
    exact .carried (.awaitsDrain waits)
  | refused error waits state finishes =>
    have carries := Connection.Carries.awaitsDrain waits
    exact .carried (carries.trans (.same finishes.unended (by rw [state]; rfl)))
  | done waits state finishes =>
    rw [waits.state] at state
    rw [state]
    exact .finished (Connection.Carries.awaitsDrain waits).unended (by rw [state]; rfl) finishes rfl

/-- Turning auto-commit on ends what is open by committing it, if that succeeds. -/
theorem setAutoCommit (c : Connection) (b : Backend) (patience : Patience) (autoCommit : Bool) :
    let run := c.setAutoCommit b patience autoCommit
    c.Turns b
      (if run.1.isDone then
        ((Request.setAutoCommit autoCommit).ending?.map c.state.endedAs).getD [] else [])
      run.2.1 run.2.2.1 := by
  have finishes := c.finishes b patience .commit
  have turns := Connection.Turns.finishes finishes
  unfold Connection.setAutoCommit
  split
  · exact .carried (.refl c b)
  · rename_i settings state
    have nothing (ending : Option Ending) : (ending.map c.state.endedAs).getD [] = [] := by
      cases ending with
      | none => rfl
      | some ending => exact Connection.State.endedAs_of_not_inside (by rw [state]; rfl) ending
    simp only [nothing, ite_self]
    exact .carried (.changeSettings _)
  · exact .carried (.refl c b)
  · rename_i transaction session settings state
    rw [Connection.commit]
    generalize c.finish b patience .commit = run at finishes turns
    obtain ⟨outcome, c', b', patience'⟩ := run
    cases outcome with
    | done value =>
      obtain ⟨settings', outside⟩ : ∃ settings, c'.state = .outside settings :=
        finishes.outside (by rw [state]; rfl)
      simp only [Connection.changeSettings_of_outside outside]
      exact turns.congr (by rw [outside]; rfl)
    | failed error => exact turns
    | cancelled => exact turns

/-- Closing ends what is open by committing it, and only then closes. -/
theorem close (c : Connection) (b : Backend) (patience : Patience) :
    let run := c.close b patience
    c.Turns b (if run.1.isDone then c.state.endedAs .commit else []) run.2.1 run.2.2.1 := by
  have finishes := c.finishes b patience .commit
  have turns := Connection.Turns.finishes finishes
  rw [Connection.close]
  split
  · exact .carried (.refl c b)
  · rw [Connection.commit]
    generalize c.finish b patience .commit = run at finishes turns
    obtain ⟨outcome, c', b', patience'⟩ := run
    cases outcome with
    | done value =>
      have outside := Connection.Law.isInside_of_finishes finishes
      exact turns.congr (Connection.State.transaction?_of_not_inside outside).symm
    | failed error => exact turns
    | cancelled => exact turns

/-- What a forced close has ended depends on whether rolling back was accepted, which its answer
does not say. -/
theorem forceClose (c : Connection) (b : Backend) (patience : Patience) :
    let run := c.forceClose b patience
    c.Turns b (if c.rollbackAccepted b patience then c.state.endedAs .rollback else []) run.2.1
      run.2.2.1 := by
  have waits := c.awaitsDrain b patience
  rw [Connection.forceClose, Connection.rollbackAccepted]
  generalize c.awaitDrain b patience = wait at waits
  obtain ⟨drained, c', b', patience'⟩ := wait
  have unended := (Connection.Carries.awaitsDrain waits).unended
  cases drained with
  | false => exact .carried (.awaitsDrain waits)
  | true =>
    cases state : c'.state with
    | outside settings =>
      simp only [state]
      exact .left unended rfl
    | closed =>
      simp only [state]
      exact .left unended rfl
    | inside transaction session settings =>
      have finishes := session.finishes b' .rollback transaction c'.config.transactionTimeout
      simp only [state]
      rw [Session.finish] at finishes
      rw [waits.state] at state
      rw [state]
      generalize session.rollback b' transaction _ = result at finishes ⊢
      obtain ⟨answer, session', b''⟩ := result
      cases answer with
      | error error => exact .left ((unended.trans finishes.unended).release session') rfl
      | ok value => exact .finished unended (by rw [state]; rfl) finishes rfl

end Connection.Turns

theorem Connection.endedBy_of_acknowledge {c : Connection} {b : Backend} {patience : Patience}
    {request : Request} {outcome : Outcome Unit} (other : request ≠ .forceClose)
    (answer : (c.perform b patience request).1 = outcome.acknowledge) :
    c.endedBy b patience request =
      if outcome.isDone then (request.ending?.map c.state.endedAs).getD [] else [] := by
  have succeeds : c.accomplishes b patience request = (c.perform b patience request).1.isDone := by
    cases request with
    | forceClose => exact absurd rfl other
    | _ => rfl
  rw [Connection.endedBy, succeeds, answer, Outcome.acknowledge, Outcome.isDone_map]

/-- What a call makes of the open transaction is what its caller knows: from the answer alone it can
be told which transaction was ended, and how. -/
theorem Connection.perform_turns (c : Connection) {b : Backend} (unreported : b.reports = [])
    (patience : Patience) (request : Request) :
    let run := c.perform b patience request
    c.Turns b (c.endedBy b patience request) run.2.1 run.2.2.1 := by
  cases request with
  | data descriptor rows =>
    rw [Connection.endedBy_of_none rfl]
    exact .carried (.executeData unreported patience descriptor rows)
  | schema text =>
    rw [Connection.endedBy_of_none rfl]
    exact .carried (.executeSchema text)
  | begin settings =>
    rw [Connection.endedBy_of_none rfl]
    exact .carried (.begins (c.begins b settings))
  | commit =>
    rw [Connection.endedBy_of_acknowledge (by nofun) rfl]
    exact .finishes (c.finishes b patience .commit)
  | rollback =>
    rw [Connection.endedBy_of_acknowledge (by nofun) rfl]
    exact .finishes (c.finishes b patience .rollback)
  | setAutoCommit autoCommit =>
    rw [Connection.endedBy_of_acknowledge (by nofun) rfl]
    exact .setAutoCommit c b patience autoCommit
  | setIsolationLevel level =>
    rw [Connection.endedBy_of_none rfl]
    exact .carried (.changeSettings _)
  | setReadOnly readOnly =>
    rw [Connection.endedBy_of_none rfl]
    exact .carried (.changeSettings _)
  | setQueryTimeout timeout =>
    rw [Connection.endedBy_of_none rfl]
    exact .carried (.same (.refl b) rfl)
  | close =>
    rw [Connection.endedBy_of_acknowledge (by nofun) rfl]
    exact .close c b patience
  | forceClose => exact .forceClose c b patience

/-- The endings that the journal has gained are those that the call has brought about. -/
theorem Connection.Turns.endings {c c' : Connection} {b b' : Backend}
    {ended : List (Ending × TransactionId)} (turns : c.Turns b ended c' b') :
    Journal.endings b'.journal = Journal.endings b.journal ++ ended := by
  cases turns with
  | carried carries => rw [carries.unended.endings, List.append_nil]
  | ended state endings issued reports outside => exact endings
  | left unended outside => rw [unended.endings, List.append_nil]

/-- A call keeps the ended and the open transactions apart, those of other connections included. A
transaction that is newly open was never issued before. -/
theorem Journal.Distinct.turns {c c' : Connection} {b b' : Backend}
    {ended : List (Ending × TransactionId)} {others : List TransactionId}
    (h : Journal.Distinct b.journal (c.state.transaction?.toList ++ others))
    (turns : c.Turns b ended c' b') :
    Journal.Distinct b'.journal (c'.state.transaction?.toList ++ others) := by
  cases turns with
  | carried carries =>
    obtain ⟨endings, issued, -⟩ := carries.unended
    rcases carries.transaction with same | ⟨none, serial, new, there, opened⟩
    · rw [same]
      exact h.keep endings issued
    · rw [none] at h
      rw [opened]
      exact h.opens endings new there
  | ended state endings issued reports outside =>
    rw [state] at h
    rw [outside]
    exact h.ends endings issued
  | left unended outside =>
    have kept := h.keep unended.endings unended.issued
    rw [outside]
    cases state : c.state.transaction? with
    | none =>
      rw [state] at kept
      exact kept
    | some transaction =>
      rw [state] at kept
      exact kept.sublist (List.sublist_cons_self _ _)

/-- A call has committed nothing, or it was to commit the transaction that was open before it and
succeeded. -/
theorem Connection.commits_endedBy (c : Connection) (b : Backend) (patience : Patience)
    (request : Request) :
    Ending.commit.select (c.endedBy b patience request) = [] ∨
      ∃ transaction, Ending.commit.select (c.endedBy b patience request) = [transaction] ∧
        c.state.transaction? = some transaction ∧
        (request = .commit ∨ request = .close ∨ request = .setAutoCommit true) ∧
        (c.perform b patience request).1.isDone = true := by
  rw [Connection.endedBy]
  split
  · rename_i accomplished
    cases asked : request.ending? with
    | none => exact Or.inl rfl
    | some ending =>
      rw [Option.map_some, Option.getD_some, Connection.State.endedAs]
      cases state : c.state.transaction? with
      | none => exact Or.inl rfl
      | some transaction =>
        cases ending with
        | rollback => exact Or.inl rfl
        | commit =>
          refine Or.inr ⟨transaction, rfl, rfl, ?_⟩
          cases request with
          | commit => exact ⟨Or.inl rfl, accomplished⟩
          | close => exact ⟨Or.inr (Or.inl rfl), accomplished⟩
          | setAutoCommit autoCommit =>
            cases autoCommit with
            | true => exact ⟨Or.inr (Or.inr rfl), accomplished⟩
            | false => cases asked
          | _ => cases asked
  · exact Or.inl rfl

end SqlDriver
