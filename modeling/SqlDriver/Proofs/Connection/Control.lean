import SqlDriver.Proofs.Connection.Failures
import SqlDriver.Proofs.Connection.Texts
import SqlDriver.Proofs.Journal.Openings

/-!
What data statements say of transactions. It is decided by the state of the connection at the time:
inside a transaction a statement is to run in that one and to leave it open, and otherwise it starts
one in the mode of the settings, to be committed at once if they say so. The rows of a batch go from
state to state, and other calls record no data statement.
-/

namespace SqlDriver

/-! ## What calls log -/

/-- What a call has added to the journal: what the data statements said of transactions, and which
transactions were begun. Transactions that were begun in the order of their identifiers go on so. -/
structure Backend.Logs (b : Backend) (controls : List TransactionControl)
    (openings : List (TransactionId × TransactionMode)) (b' : Backend) : Prop where
  controls : Journal.controls b'.journal = Journal.controls b.journal ++ controls
  openings : Journal.openings b'.journal = Journal.openings b.journal ++ openings
  numbered : Journal.Numbered b.journal → Journal.Numbered b'.journal

namespace Backend.Logs

variable {b b' b'' : Backend} {controls controls' : List TransactionControl}
  {openings openings' : List (TransactionId × TransactionMode)}

theorem refl (b : Backend) : b.Logs [] [] b where
  controls := (List.append_nil _).symm
  openings := (List.append_nil _).symm
  numbered := id

theorem trans (first : b.Logs controls openings b') (second : b'.Logs controls' openings' b'') :
    b.Logs (controls ++ controls') (openings ++ openings') b'' where
  controls := by rw [second.controls, first.controls, List.append_assoc]
  openings := by rw [second.openings, first.openings, List.append_assoc]
  numbered := second.numbered ∘ first.numbered

/-- Only the journal matters. -/
theorem congr (logs : b.Logs controls openings b') (same : b''.journal = b'.journal) :
    b.Logs controls openings b'' where
  controls := by rw [same, logs.controls]
  openings := by rw [same, logs.openings]
  numbered := by
    rw [same]
    exact logs.numbered

/-- Logging nothing, and then something. -/
theorem after (first : b.Logs [] [] b') (second : b'.Logs controls openings b'') :
    b.Logs controls openings b'' :=
  first.trans second

/-- Logging something, and then nothing. -/
theorem quiet (first : b.Logs controls openings b') (second : b'.Logs [] [] b'') :
    b.Logs controls openings b'' := by
  have whole := first.trans second
  rwa [List.append_nil, List.append_nil] at whole

/-- Entries that neither are data statements nor begin transactions log nothing, however many they
are. -/
theorem of_plain {entries : Journal} (whole : b'.journal = b.journal ++ entries)
    (unsaid : ∀ entry ∈ entries, entry.control? = none)
    (begins : ∀ entry ∈ entries, entry.opening? = none)
    (issues : ∀ entry ∈ entries, entry.issues = false) : b.Logs [] [] b' where
  controls := by
    have none : Journal.controls entries = [] := List.filterMap_eq_nil_iff.mpr unsaid
    rw [whole, Journal.controls_append, none]
  openings := by
    have none : Journal.openings entries = [] := List.filterMap_eq_nil_iff.mpr begins
    rw [whole, Journal.openings_append, none]
  numbered numbered := by
    rw [whole]
    exact numbered.append_plain begins issues

theorem record_plain (b : Backend) {entry : Entry} (unsaid : entry.control? = none)
    (begins : entry.opening? = none) (issues : entry.issues = false) :
    b.Logs [] [] (b.record entry) := by
  refine of_plain rfl ?_ ?_ ?_ <;>
  · intro other member
    rw [List.mem_singleton.mp member]
    assumption

/-- Streams log nothing. -/
theorem of_streamWork (work : b.StreamWork b') : b.Logs [] [] b' := by
  obtain ⟨added, whole, streams⟩ := work.journal
  refine of_plain whole ?_ ?_ ?_ <;>
  · intro entry member
    have stream := streams entry member
    cases entry <;> first | rfl | cases stream

theorem release (b : Backend) (session : Session) : b.Logs [] [] (b.release session) :=
  of_streamWork (.release b session)

/-- A request logs nothing by itself, whether it is granted or refused. -/
theorem requests {call : CallKind} {session : Option Nat} {deadline : Duration}
    {answer : Except BackendError Unit}
    (requested : b.Requests call session deadline (answer, b')) : b.Logs [] [] b' := by
  have recorded : b.Logs [] [] (b.record (.requested call session deadline)) :=
    record_plain b rfl rfl rfl
  cases requested with
  | refused status left consulted => exact recorded.congr rfl
  | granted left consulted => exact recorded.congr rfl

theorem serve (b : Backend) : b.Logs [] [] b.serve := record_plain b rfl rfl rfl

/-- A transaction is begun by request. -/
theorem begun (b : Backend) (session : Nat) (mode : TransactionMode) :
    b.Logs [] [(b.nextTransaction, mode)] (b.record (.begun session b.nextTransaction mode)) where
  controls := by rw [Backend.record, Journal.controls_append]; rfl
  openings := by rw [Backend.record, Journal.openings_append]; rfl
  numbered numbered := numbered.append_opening rfl rfl

end Backend.Logs

/-- The transaction that a data statement begins, if it is to leave one open. -/
def TransactionControl.opening? (control : TransactionControl) (opened : Option TransactionId) :
    Option (TransactionId × TransactionMode) :=
  match control with
  | .start mode _ => opened.map fun transaction => (transaction, mode)
  | .resume _ _ => none

/-- A data statement is accepted, and says of its transaction what it says: which one it goes on
with, or how one is started. -/
theorem Backend.Logs.accept {b : Backend} {s : Session} {text : String}
    {control : TransactionControl} {opened : Option TransactionId}
    (opens : s.opens b control = .ok opened) (left : List Injection) :
    b.Logs [control] (control.opening? opened).toList (b.accept text control s.number opened left)
    where
  controls := by rw [Backend.accept, Backend.record, Journal.controls_append]; rfl
  openings := by
    rw [Backend.accept, Backend.record, Journal.openings_append]
    cases control <;> cases opened <;> rfl
  numbered numbered := by
    cases control with
    | resume transaction commit =>
      exact numbered.append_plain (by simp [Entry.opening?]) (by simp [Entry.issues])
    | start mode commit =>
      cases commit with
      | true =>
        cases opens
        exact numbered.append_plain (by simp [Entry.opening?]) (by simp [Entry.issues])
      | false =>
        cases opens
        exact numbered.append_opening rfl rfl

section

variable {s s' : Session} {b b' : Backend} {deadline : Duration}

theorem Session.RunsSchema.logs {text : String} {answer : Except BackendError Unit}
    (runs : s.RunsSchema b text deadline (answer, b')) : b.Logs [] [] b' := by
  cases runs with
  | refused error requested => exact .requests requested
  | done requested => exact (Backend.Logs.requests requested).after (.record_plain _ rfl rfl rfl)

/-- A transaction that is begun by request is logged with its mode, and without a data statement. -/
theorem Session.Begins.logs {mode : TransactionMode} {transaction : TransactionId}
    (begins : s.Begins b mode deadline (.ok transaction, s', b')) :
    b.Logs [] [(transaction, mode)] b' := by
  cases begins with
  | done requested => exact (Backend.Logs.requests requested).after (.begun _ s.number mode)

theorem Session.Begins.logs_refused {mode : TransactionMode} {error : BackendError}
    (begins : s.Begins b mode deadline (.error error, s', b')) : b.Logs [] [] b' := by
  cases begins with
  | refused error requested => exact .requests requested

/-- Ending a transaction says nothing about how transactions are begun. -/
theorem Session.Finishes.logs {transaction : TransactionId} {ending : Ending}
    {answer : Except BackendError Unit}
    (finishes : s.Finishes b ending transaction deadline (answer, s', b')) : b.Logs [] [] b' := by
  cases finishes with
  | refused error requested => exact .requests requested
  | misplaced error requested checked => exact .requests requested
  | done requested checked =>
    refine (Backend.Logs.requests requested).after (.record_plain _ ?_ ?_ ?_) <;>
    · cases ending <;> rfl

/-- Nothing is logged by getting a session. -/
theorem Backend.Requests.logs_serve
    (requested : b.Requests .acquire none deadline (.ok (), b')) : b.Logs [] [] b'.serve :=
  (Backend.Logs.requests requested).after (.serve b')

theorem Connection.AwaitsDrain.logs {c : Connection} {out : Bool × Connection × Backend}
    (waits : c.AwaitsDrain b out) : b.Logs [] [] out.2.2 := by
  cases waits with
  | givenUp idles => exact .of_streamWork idles.streamWork
  | drained idles drained => exact .of_streamWork idles.streamWork

end

/-! ## Data statements by states -/

/-- What a data statement says of its transaction when a connection is in a state. -/
def Connection.State.control? : Connection.State → Option TransactionControl
  | .outside settings => some (.start settings.mode settings.autoCommit)
  | .inside transaction _ _ => some (.resume transaction false)
  | .closed => none

/-- Whether a data statement that succeeds leaves a transaction open. -/
def Connection.State.staysOpen : Connection.State → Bool
  | .outside settings => !settings.autoCommit
  | .inside _ _ _ => true
  | .closed => false

/-- The state that a data statement leaves that succeeds. -/
inductive Connection.State.Follows : Connection.State → Connection.State → Prop
  | inside (transaction : TransactionId) (session : Session) (settings : TransactionSettings) :
      Connection.State.Follows (.inside transaction session settings)
        (.inside transaction session settings)
  | committed {settings : TransactionSettings} (automatic : settings.autoCommit = true) :
      Connection.State.Follows (.outside settings) (.outside settings)
  | opened {settings : TransactionSettings} (manual : settings.autoCommit = false)
      (transaction : TransactionId) (session : Session) :
      Connection.State.Follows (.outside settings) (.inside transaction session settings)

/-- What one data statement may log, and the state that it leaves. -/
inductive Connection.RunsRow {α : Type} (c : Connection) (b : Backend) :
    Outcome α × Connection × Backend → Prop
  | unaccepted {outcome : Outcome α} {c' : Connection} {b' : Backend}
      (unfinished : outcome.isDone = false) (same : c'.state = c.state) (logs : b.Logs [] [] b') :
      Connection.RunsRow c b (outcome, c', b')
  | unfinished {outcome : Outcome α} {c' : Connection} {b' : Backend}
      {control : TransactionControl} {openings : List (TransactionId × TransactionMode)}
      (unfinished : outcome.isDone = false) (same : c'.state = c.state)
      (said : c.state.control? = some control) (logs : b.Logs [control] openings b') :
      Connection.RunsRow c b (outcome, c', b')
  | resumed {value : α} {c' : Connection} {b' : Backend} {transaction : TransactionId}
      {session : Session} {settings : TransactionSettings}
      (state : c.state = .inside transaction session settings) (same : c'.state = c.state)
      (logs : b.Logs [.resume transaction false] [] b') :
      Connection.RunsRow c b (.done value, c', b')
  | committed {value : α} {c' : Connection} {b' : Backend} {settings : TransactionSettings}
      (state : c.state = .outside settings) (automatic : settings.autoCommit = true)
      (same : c'.state = c.state) (logs : b.Logs [.start settings.mode true] [] b') :
      Connection.RunsRow c b (.done value, c', b')
  | opened {value : α} {c' : Connection} {b' : Backend} {settings : TransactionSettings}
      (state : c.state = .outside settings) (manual : settings.autoCommit = false)
      {transaction : TransactionId} {session : Session}
      (opens : c'.state = .inside transaction session settings)
      (logs : b.Logs [.start settings.mode false] [(transaction, settings.mode)] b') :
      Connection.RunsRow c b (.done value, c', b')

section

variable {c : Connection} {b b' b'' : Backend} {session : Session} {settings : TransactionSettings}
  {text : String} {parameters : NamedValues} {deadline : Duration}

/-- What a statement logs from its request to the end of its stream, which is what it says when it
is accepted. -/
theorem Backend.Logs.started {control : TransactionControl} {opened : Option TransactionId}
    {left : List Injection}
    (requested : b.Requests .dataStatement session.number deadline (.ok (), b'))
    (opens : session.opens b' control = .ok opened)
    (idles : (b'.accept text control session.number opened left).Idles b'') :
    b.Logs [control] (control.opening? opened).toList b'' :=
  ((Backend.Logs.requests requested).after (.accept opens left)).quiet
    (.of_streamWork idles.streamWork)

/-- A statement that resumes the transaction of its session leaves that one open, and begins none.
-/
theorem Backend.Logs.resumed {transaction : TransactionId} {opened : Option TransactionId}
    {left : List Injection} (same : session.openTransaction = some transaction)
    (requested : b.Requests .dataStatement session.number deadline (.ok (), b'))
    (opens : session.opens b' (.resume transaction false) = .ok opened)
    (idles : (b'.accept text (.resume transaction false) session.number opened left).Idles b'') :
    opened = some transaction ∧ b.Logs [.resume transaction false] [] b'' := by
  have logs := Backend.Logs.started requested opens idles
  rw [Session.opens_open same] at opens
  exact ⟨(Except.ok.inj opens).symm, logs⟩

theorem Backend.Logs.completed {controls : List TransactionControl}
    {openings : List (TransactionId × TransactionMode)} (logs : b.Logs controls openings b')
    (stream : Nat) : b.Logs controls openings (b'.record (.completed stream)) :=
  logs.quiet (.record_plain b' rfl rfl rfl)

/-- A statement on the held session leaves the state as it was: the transaction that it resumes is
the one that is open on the session. -/
theorem Connection.RunsRow.afterInside {transaction : TransactionId}
    {result : Except BackendError (Nat × Collected) × Session × Backend}
    (state : c.state = .inside transaction session settings)
    (same : session.openTransaction = some transaction)
    (executes : session.Executes b text (.resume transaction false) parameters deadline
      (fun stream _ => .sign stream) result) :
    Connection.RunsRow c b (c.afterInside transaction settings result) := by
  have unchanged : { session with openTransaction := some transaction } = session := by
    rw [← same]
  have said : c.state.control? = some (.resume transaction false) := by
    rw [state]
    rfl
  cases executes with
  | refused error requested => exact .unaccepted rfl state.symm (.requests requested)
  | misplaced error requested checked => exact .unaccepted rfl state.symm (.requests requested)
  | complete opened left requested opens consulted idles =>
    obtain ⟨rfl, logs⟩ := Backend.Logs.resumed same requested opens idles
    rw [unchanged]
    exact .resumed state state.symm (logs.completed _)
  | failed opened status left requested opens consulted idles =>
    obtain ⟨rfl, logs⟩ := Backend.Logs.resumed same requested opens idles
    rw [unchanged]
    exact .unfinished rfl state.symm said (logs.completed _)
  | cancelled opened failure left rest requested opens consulted idles finishing =>
    obtain ⟨rfl, logs⟩ := Backend.Logs.resumed same requested opens idles
    rw [unchanged]
    exact .unfinished rfl state.symm said (logs.quiet (.of_streamWork (.setBackground _ _)))

/-- A statement outside a transaction says to start one in the mode of the connection, and whether
to commit it at once. -/
theorem Connection.RunsRow.afterOutside
    {result : Except BackendError (Nat × Collected) × Session × Backend}
    (state : c.state = .outside settings)
    (executes : session.Executes b text (.start settings.mode settings.autoCommit) parameters
      deadline (fun _ session => .lease session) result) :
    Connection.RunsRow c b (c.afterOutside settings result) := by
  have said : c.state.control? = some (.start settings.mode settings.autoCommit) := by
    rw [state]
    rfl
  cases executes with
  | refused error requested =>
    exact .unaccepted rfl rfl ((Backend.Logs.requests requested).quiet (.release _ _))
  | misplaced error requested checked =>
    exact .unaccepted rfl rfl ((Backend.Logs.requests requested).quiet (.release _ _))
  | complete opened left requested opens consulted idles =>
    have logs := (Backend.Logs.started requested opens idles).completed
    cases committing : settings.autoCommit with
    | true =>
      rw [committing] at opens logs
      cases opens
      exact .committed state committing rfl ((logs _).quiet (.release _ _))
    | false =>
      rw [committing] at opens logs
      cases opens
      exact .opened state committing rfl (logs _)
  | failed opened status left requested opens consulted idles =>
    have logs := (Backend.Logs.started requested opens idles).completed
    exact .unfinished rfl rfl said ((logs _).quiet (.release _ _))
  | cancelled opened failure left rest requested opens consulted idles finishing =>
    have logs := Backend.Logs.started requested opens idles
    exact .unfinished rfl rfl said (logs.quiet (.of_streamWork (.setBackground _ _)))

/-- Before a statement nothing was logged, and the state was not changed. -/
theorem Connection.RunsRow.after {α : Type} {c' : Connection}
    {out : Outcome α × Connection × Backend} (quiet : b.Logs [] [] b') (same : c'.state = c.state)
    (runs : Connection.RunsRow c' b' out) : Connection.RunsRow c b out := by
  cases runs with
  | unaccepted unfinished kept logs =>
    exact .unaccepted unfinished (kept.trans same) (quiet.after logs)
  | unfinished unfinished kept said logs =>
    exact .unfinished unfinished (kept.trans same) (same ▸ said) (quiet.after logs)
  | resumed state kept logs =>
    exact .resumed (same.symm.trans state) (kept.trans same) (quiet.after logs)
  | committed state automatic kept logs =>
    exact .committed (same.symm.trans state) automatic (kept.trans same) (quiet.after logs)
  | opened state manual opens logs =>
    exact .opened (same.symm.trans state) manual opens (quiet.after logs)

/-- A data statement for one row runs it as the state of the connection says: in the open
transaction, or in one that it starts. -/
theorem Connection.ExecutesOne.runsRow {out : Outcome QueryResult × Connection × Backend}
    (agrees : c.Agrees) (executes : c.ExecutesOne b text parameters out) :
    Connection.RunsRow c b out := by
  cases executes with
  | givenUp waits => exact .unaccepted rfl waits.state waits.logs
  | closed waits state => exact .unaccepted rfl waits.state waits.logs
  | inside waits state executes =>
    have same := agrees _ _ _ (waits.state.symm.trans state)
    exact .after waits.logs waits.state (.afterInside state same executes)
  | outside waits state executes =>
    refine .after waits.logs waits.state ?_
    cases executes with
    | unserved error requested => exact .unaccepted rfl rfl (.requests requested)
    | served requested executes =>
      exact .after requested.logs_serve rfl (.afterOutside state executes)

end

/-! ## Statements with any number of rows -/

/-- Data statements that succeed one after the other: what they say of their transactions, and the
state that they come to. -/
inductive Connection.State.Succeeds :
    Connection.State → List TransactionControl → Connection.State → Prop
  | none (state : Connection.State) : Connection.State.Succeeds state [] state
  | next {state next last : Connection.State} {control : TransactionControl}
      {controls : List TransactionControl} (said : state.control? = some control)
      (follows : state.Follows next) (rest : Connection.State.Succeeds next controls last) :
      Connection.State.Succeeds state (control :: controls) last

namespace Connection.State

variable {state next last : Connection.State} {controls : List TransactionControl}

/-- After a statement that has succeeded the connection is inside exactly if it was told not to
commit, and so it will be after the next one. -/
theorem Follows.staysOpen (follows : state.Follows next) :
    next.staysOpen = state.staysOpen ∧ next.isInside = state.staysOpen := by
  cases follows with
  | inside transaction session settings => exact ⟨rfl, rfl⟩
  | committed automatic => exact ⟨rfl, by simp [staysOpen, isInside, transaction?, automatic]⟩
  | opened manual transaction session => simp [staysOpen, isInside, transaction?, manual]

/-- After a statement that succeeded a transaction is open exactly if one was open before, or none
was and it was not to be committed at once. -/
theorem Succeeds.isInside (succeeds : state.Succeeds controls last) (some : controls ≠ []) :
    last.isInside = state.staysOpen := by
  induction succeeds with
  | none state => exact (some rfl).elim
  | @next state next last control controls said follows rest ih =>
    obtain ⟨stays, inside⟩ := follows.staysOpen
    cases controls with
    | nil =>
      cases rest
      exact inside
    | cons control controls => exact (ih (List.cons_ne_nil _ _)).trans stays

/-- Statements in an open transaction leave its state as it is. -/
theorem Succeeds.of_inside {transaction : TransactionId} {session : Session}
    {settings : TransactionSettings}
    (succeeds : Succeeds (.inside transaction session settings) controls last) :
    last = .inside transaction session settings := by
  generalize state : Connection.State.inside transaction session settings = first at succeeds
  induction succeeds with
  | none => rfl
  | next said follows rest ih =>
    cases state
    cases follows
    exact ih rfl

end Connection.State

/-- What a call has recorded that brings data statements for `count` rows: those that succeeded, and
at most one more, each by the state at the time. A call that succeeds records one for each row. -/
def Connection.Records {α : Type} (count : Nat) (c : Connection) (b : Backend)
    (out : Outcome α × Connection × Backend) : Prop :=
  ∃ front tail, Journal.controls out.2.2.journal = Journal.controls b.journal ++ (front ++ tail) ∧
    c.state.Succeeds front out.2.1.state ∧
    (tail = [] ∨ ∃ control, tail = [control] ∧ out.2.1.state.control? = some control) ∧
    (out.1.isDone = true → tail = [] ∧ front.length = count)

namespace Connection.Records

variable {α : Type} {c : Connection} {b : Backend}

theorem map {β : Type} {count : Nat} {out : Outcome α × Connection × Backend} (f : α → β)
    (records : Connection.Records count c b out) :
    Connection.Records count c b (out.1.map f, out.2) := by
  obtain ⟨front, tail, controls, succeeds, last, done⟩ := records
  refine ⟨front, tail, controls, succeeds, last, fun finished => done ?_⟩
  rwa [← Outcome.isDone_map f]

/-- A call that does not succeed has recorded what it has recorded, for however many rows. -/
theorem stopped {β : Type} {count count' : Nat} {outcome : Outcome β} {outcome' : Outcome α}
    {rest : Connection × Backend} (records : Connection.Records count c b (outcome, rest))
    (unfinished : outcome'.isDone = false) : Connection.Records count' c b (outcome', rest) := by
  obtain ⟨front, tail, controls, succeeds, last, -⟩ := records
  refine ⟨front, tail, controls, succeeds, last, fun finished => ?_⟩
  rw [unfinished] at finished
  cases finished

/-- A row that succeeded, and those after it, which go on from the state that it has left. -/
theorem cons {β : Type} {count : Nat} {value : β} {c' : Connection} {b' : Backend}
    {out : Outcome α × Connection × Backend}
    (first : Connection.Records 1 c b ((.done value : Outcome β), c', b'))
    (rest : Connection.Records count c' b' out) : Connection.Records (count + 1) c b out := by
  obtain ⟨front, tail, controls, succeeds, -, done⟩ := first
  obtain ⟨rfl, single⟩ := done rfl
  obtain ⟨control, rfl⟩ := List.length_eq_one_iff.mp single
  obtain ⟨front', tail', controls', succeeds', last, done'⟩ := rest
  refine ⟨control :: front', tail', ?_, ?_, last, fun finished => ?_⟩
  · rw [controls', controls]
    simp
  · cases succeeds with
    | next said follows none =>
      cases none
      exact .next said follows succeeds'
  · exact ⟨(done' finished).1, congrArg Nat.succ (done' finished).2⟩

end Connection.Records

section

variable {refusals : List (CallKind × Status)} {c : Connection} {b : Backend}
  (accords : Connection.Accords refusals c b)

include accords

end

/-! ## Calls without data statements -/

/-- Where no statement was added, none said anything of its transaction. -/
theorem Backend.Adds.controls {b b' : Backend} (adds : b.Adds [] b') :
    Journal.controls b'.journal = Journal.controls b.journal := by
  obtain ⟨added, whole, texts⟩ := adds
  have none : Journal.controls added = [] := by
    refine List.filterMap_eq_nil_iff.mpr fun entry member => ?_
    have untold := List.filterMap_eq_nil_iff.mp texts entry member
    cases entry <;> first | rfl | cases untold
  rw [whole, Journal.controls_append, none, List.append_nil]

end SqlDriver
