import SqlDriver.Backend.Basic

/-!
What may be asked of a backend: a session, and on a session a statement, or the beginning or end of
a transaction. At most one transaction is open on a session. A data statement that is accepted
changes it at once, before its result stream is pulled; the stream then reports the transaction that
is left open, if any, and hands out the result sets. All events but the first wait for the gate.
-/

namespace SqlDriver

/-- Asks for a session. Sessions are numbered from one. -/
def Backend.acquire (b : Backend) (deadline : Duration) : Except BackendError Session × Backend :=
  match b.request .acquire none deadline with
  | (.error e, b) => (.error e, b)
  | (.ok (), b) =>
    let session : Session := ⟨Journal.acquired b.journal + 1, none⟩
    (.ok session, b.record (.acquired session.number))

/-- The identifier to be issued next. -/
def Backend.nextTransaction (b : Backend) : TransactionId := .issued (Journal.issued b.journal)

/-- Refuses a transaction that is not the one open on the session. -/
def Session.check (s : Session) (transaction : TransactionId) : Except BackendError Unit :=
  if s.openTransaction = some transaction then .ok ()
  else .error ⟨.notFound, .noSuchTransaction transaction s.number⟩

/-- The transaction that a data statement leaves open. -/
def Session.opens (s : Session) (b : Backend) :
    TransactionControl → Except BackendError (Option TransactionId)
  | .start _ true => .ok none
  | .start _ false => .ok (some b.nextTransaction)
  | .resume transaction commit =>
    match s.check transaction with
    | .error e => .error e
    | .ok () => .ok (if commit then none else some transaction)

/-- The cues of one event. -/
def Mark.event (stream : Nat) (event : ResultEvent) : Script Mark Reply :=
  [.mark (.emit stream), .yield (.ok event)]

/-- The cues of events in order: each but the first waits for the gate. -/
def Mark.events (stream : Nat) : List ResultEvent → Script Mark Reply
  | [] => []
  | first :: others =>
    Mark.event stream first ++ others.flatMap fun event => .mark .gate :: Mark.event stream event

/-- The script of a result stream: its events, the error it ends with if any, and its end. -/
def Mark.stream (stream : Nat) (events : List ResultEvent) (failure : Option Status) :
    Script Mark Reply :=
  let tail : Script Mark Reply := match failure with
    | none => []
    | some status => [.yield (.error ⟨status, .injectedStream⟩)]
  Mark.events stream events ++ tail ++ [.mark (.complete stream)]

/-- Changes what a result stream reports of its transaction. -/
def Report.apply (script : Script Mark Reply) : Option Report → Script Mark Reply
  | none => script
  | some .withheld => script.filter fun
    | .yield (.ok (.transaction _)) => false
    | _ => true
  | some (.replaced transaction) => script.map fun
    | .yield (.ok (.transaction _)) => .yield (.ok (.transaction transaction))
    | cue => cue
  | some (.added transaction) => script ++ [.yield (.ok (.transaction transaction))]

/-- Takes the change to be made to the next result stream. -/
def Backend.takeReport (b : Backend) : Option Report × Backend :=
  match b.reports with
  | [] => (none, b)
  | report :: rest => (some report, { b with reports := rest })

/-- The result stream of a data statement. -/
structure ResultStream where
  number : Nat
  script : Script Mark Reply
deriving Repr

/-- Runs a data statement on a session. -/
def Session.runData (s : Session) (b : Backend) (text : String) (control : TransactionControl)
    (parameters : NamedValues) (deadline : Duration) :
    Except BackendError ResultStream × Session × Backend :=
  match b.request .dataStatement s.number deadline with
  | (.error e, b) => (.error e, s, b)
  | (.ok (), b) =>
    match s.opens b control with
    | .error e => (.error e, s, b)
    | .ok opened =>
      let stream := Journal.dataStatements b.journal
      let b := b.record (.accepted s.number text control opened)
      let (failure, b) := b.consult .streamTail
      let (report, b) := b.takeReport
      let results := List.replicate b.resultSets (ResultEvent.resultSet (.ofParameters parameters))
      let events := (opened.map ResultEvent.transaction).toList ++ results
      let script := Mark.stream stream events failure
      (.ok ⟨stream, Report.apply script report⟩, { s with openTransaction := opened }, b)

/-- Runs a schema statement on a session, outside any transaction. -/
def Session.runSchema (s : Session) (b : Backend) (text : String) (deadline : Duration) :
    Except BackendError Unit × Backend :=
  match b.request .schemaStatement s.number deadline with
  | (.error e, b) => (.error e, b)
  | (.ok (), b) => (.ok (), b.record (.schemaChanged s.number text))

/-- Begins a transaction on a session, in place of one that is open. -/
def Session.begin (s : Session) (b : Backend) (mode : TransactionMode) (deadline : Duration) :
    Except BackendError TransactionId × Session × Backend :=
  match b.request .begin s.number deadline with
  | (.error e, b) => (.error e, s, b)
  | (.ok (), b) =>
    let transaction := b.nextTransaction
    (.ok transaction, { s with openTransaction := some transaction },
      b.record (.begun s.number transaction mode))

/-- Commits the transaction that is open on a session. -/
def Session.commit (s : Session) (b : Backend) (transaction : TransactionId)
    (deadline : Duration) : Except BackendError Unit × Session × Backend :=
  match b.request .commit s.number deadline with
  | (.error e, b) => (.error e, s, b)
  | (.ok (), b) =>
    match s.check transaction with
    | .error e => (.error e, s, b)
    | .ok () =>
      (.ok (), { s with openTransaction := none }, b.record (.committed s.number transaction))

/-- Rolls back the transaction that is open on a session. -/
def Session.rollback (s : Session) (b : Backend) (transaction : TransactionId)
    (deadline : Duration) : Except BackendError Unit × Session × Backend :=
  match b.request .rollback s.number deadline with
  | (.error e, b) => (.error e, s, b)
  | (.ok (), b) =>
    match s.check transaction with
    | .error e => (.error e, s, b)
    | .ok () =>
      (.ok (), { s with openTransaction := none }, b.record (.rolledBack s.number transaction))

end SqlDriver
