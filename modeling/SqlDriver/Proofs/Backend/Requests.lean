import SqlDriver.Connection.Transaction
import SqlDriver.Proofs.Stream.Finish

/-!
What each request to a backend may do, with one relation for each: it is recorded and refused, or it
is not in place on its session, or it is carried out. The script of a data statement that is carried
out is on the way to the end of a stream of its own, and hands out exactly the statement's events
and the error that was set for it.
-/

namespace SqlDriver

/-- What making a request may do: it is recorded, and the refusals set for its kind are
consulted. -/
inductive Backend.Requests (b : Backend) (call : CallKind) (session : Option Nat)
    (deadline : Duration) : Except BackendError Unit × Backend → Prop
  | refused (status : Status) (left : List Injection)
      (consulted : Injection.consult call b.injections = (some status, left)) :
      Backend.Requests b call session deadline
        (.error ⟨status, .injected call⟩,
          { b.record (.requested call session deadline) with injections := left })
  | granted (left : List Injection)
      (consulted : Injection.consult call b.injections = (none, left)) :
      Backend.Requests b call session deadline
        (.ok (), { b.record (.requested call session deadline) with injections := left })

/-- Every request is either refused, by what was set for its kind, or granted. Either way it is
noted in the journal first, with its session and its deadline. -/
theorem Backend.requests (b : Backend) (call : CallKind) (session : Option Nat)
    (deadline : Duration) :
    b.Requests call session deadline (b.request call session deadline) := by
  rw [Backend.request, Backend.consult]
  generalize consulted : Injection.consult call
    (b.record (.requested call session deadline)).injections = result
  obtain ⟨refusal, left⟩ := result
  cases refusal with
  | none => exact .granted left consulted
  | some status => exact .refused status left consulted

/-- A request is refused only because that was set, and with the status that was set. -/
theorem Backend.Requests.injected {b b' : Backend} {call : CallKind} {session : Option Nat}
    {deadline : Duration} {error : BackendError}
    (requested : b.Requests call session deadline (.error error, b')) :
    ∃ status, error = ⟨status, .injected call⟩ := by
  cases requested with
  | refused status left consulted => exact ⟨status, rfl⟩

/-! ## The script of a new stream -/

/-- Marks that are no stream's end may stand before a script without changing which stream it
belongs to. -/
theorem Script.finish?_append {front rest : Script Mark Reply}
    (running : ∀ stream, Cue.mark (Mark.complete stream) ∉ front) :
    Script.finish? (front ++ rest) = Script.finish? rest := by
  induction front with
  | nil => rfl
  | cons cue front ih =>
    have later : Script.finish? (front ++ rest) = Script.finish? rest :=
      ih fun stream member => running stream (List.mem_cons_of_mem _ member)
    cases cue with
    | yield item => exact later
    | mark mark =>
      cases mark with
      | gate => exact later
      | emit number => exact later
      | complete number => exact (running number List.mem_cons_self).elim

theorem Mark.items_gated (stream : Nat) (events : List ResultEvent) :
    Script.items (events.flatMap fun event => .mark .gate :: Mark.event stream event) =
      events.map .ok := by
  induction events with
  | nil => rfl
  | cons next rest ih =>
    rw [List.flatMap_cons, Script.items_append, ih]
    rfl

/-- The events of a stream are handed out in their order, whatever marks stand between them. -/
theorem Mark.items_events (stream : Nat) (events : List ResultEvent) :
    Script.items (Mark.events stream events) = events.map .ok := by
  cases events with
  | nil => rfl
  | cons first others =>
    rw [Mark.events, Script.items_append, Mark.items_gated]
    rfl

theorem Mark.complete_notMem_events (stream other : Nat) (events : List ResultEvent) :
    Cue.mark (Mark.complete other) ∉ Mark.events stream events := by
  cases events with
  | nil => simp [Mark.events]
  | cons first others => simp [Mark.events, Mark.event]

/-- A new stream is on the way to its own end: that mark is the last of its script, behind the
failure that may have been set. -/
theorem Mark.finish?_stream (stream : Nat) (events : List ResultEvent) (failure : Option Status) :
    Script.finish? (Mark.stream stream events failure) = some stream := by
  simp only [Mark.stream, List.append_assoc]
  rw [Script.finish?_append fun other => Mark.complete_notMem_events stream other events]
  cases failure <;> rfl

/-- A new stream hands out its events, and then the error that was set for it, if one was. -/
theorem Mark.items_stream (stream : Nat) (events : List ResultEvent) (failure : Option Status) :
    Script.items (Mark.stream stream events failure) =
      events.map .ok ++ (failure.map fun status => .error ⟨status, .injectedStream⟩).toList := by
  simp only [Mark.stream, List.append_assoc]
  rw [Script.items_append, Mark.items_events]
  cases failure <;> rfl

/-! ## What each request on a session does -/

/-- The session handed out next. -/
def Backend.nextSession (b : Backend) : Session := ⟨Journal.acquired b.journal + 1, none⟩

/-- A backend that has handed out its next session. -/
def Backend.serve (b : Backend) : Backend := b.record (.acquired b.nextSession.number)

/-- What asking for a session may do. -/
inductive Backend.Acquires (b : Backend) (deadline : Duration) :
    Except BackendError Session × Backend → Prop
  | refused {b' : Backend} (error : BackendError)
      (requested : b.Requests .acquire none deadline (.error error, b')) :
      Backend.Acquires b deadline (.error error, b')
  | granted {b' : Backend} (requested : b.Requests .acquire none deadline (.ok (), b')) :
      Backend.Acquires b deadline (.ok b'.nextSession, b'.serve)

/-- A session is acquired exactly when the request for it is granted, and has the number after those
acquired before. -/
theorem Backend.acquires (b : Backend) (deadline : Duration) :
    b.Acquires deadline (b.acquire deadline) := by
  have requested := b.requests .acquire none deadline
  rw [Backend.acquire]
  generalize b.request .acquire none deadline = result at requested
  obtain ⟨answer, b'⟩ := result
  cases answer with
  | error error => exact .refused error requested
  | ok granted => exact .granted requested

/-- The events of a data statement's result stream. -/
def ResultEvent.all (opened : Option TransactionId) (count : Nat) (parameters : NamedValues) :
    List ResultEvent :=
  (opened.map ResultEvent.transaction).toList ++
    List.replicate count (.resultSet (.ofParameters parameters))

/-- What asking for a data statement may do. -/
inductive Session.RunsData (s : Session) (b : Backend) (text : String)
    (control : TransactionControl) (parameters : NamedValues) (deadline : Duration) :
    Except BackendError ResultStream × Session × Backend → Prop
  | refused {b' : Backend} (error : BackendError)
      (requested : b.Requests .dataStatement s.number deadline (.error error, b')) :
      Session.RunsData s b text control parameters deadline (.error error, s, b')
  | misplaced {b' : Backend} (error : BackendError)
      (requested : b.Requests .dataStatement s.number deadline (.ok (), b'))
      (checked : s.opens b' control = .error error) :
      Session.RunsData s b text control parameters deadline (.error error, s, b')
  | started {b' : Backend} (opened : Option TransactionId) (failure : Option Status)
      (left : List Injection) (requested : b.Requests .dataStatement s.number deadline (.ok (), b'))
      (opens : s.opens b' control = .ok opened)
      (consulted : Injection.consult .streamTail b'.injections = (failure, left)) :
      Session.RunsData s b text control parameters deadline
        (.ok ⟨Journal.dataStatements b'.journal, Mark.stream (Journal.dataStatements b'.journal)
            (ResultEvent.all opened b'.resultSets parameters) failure⟩,
          { s with openTransaction := opened },
          { b'.record (.accepted s.number text control opened) with injections := left })

theorem Backend.Requests.reports {b b' : Backend} {call : CallKind} {session : Option Nat}
    {deadline : Duration} {answer : Except BackendError Unit}
    (requested : b.Requests call session deadline (answer, b')) : b'.reports = b.reports := by
  cases requested with
  | refused status left consulted => rfl
  | granted left consulted => rfl

/-- Where no reports are queued a stream reports what it came to. -/
theorem Backend.takeReport_of_unreported {b : Backend} (unreported : b.reports = []) :
    b.takeReport = (none, b) := by
  rw [Backend.takeReport, unreported]

/-- Every way in which a data statement may come out: refused, out of place in the transaction that
it names, or started with a stream of its own. -/
theorem Session.runsData (s : Session) {b : Backend} (unreported : b.reports = []) (text : String)
    (control : TransactionControl) (parameters : NamedValues) (deadline : Duration) :
    s.RunsData b text control parameters deadline
      (s.runData b text control parameters deadline) := by
  have requested := b.requests .dataStatement (some s.number) deadline
  rw [Session.runData]
  generalize b.request .dataStatement (some s.number) deadline = result at requested
  obtain ⟨answer, b'⟩ := result
  cases answer with
  | error error => exact .refused error requested
  | ok granted =>
    cases opens : s.opens b' control with
    | error error => simpa only [opens] using .misplaced error requested opens
    | ok opened =>
      have unreported' : b'.reports = [] := requested.reports.trans unreported
      generalize consulted : Injection.consult .streamTail b'.injections = result
      obtain ⟨failure, left⟩ := result
      have failures : (b'.record (.accepted s.number text control opened)).consult .streamTail =
          (failure,
            { b'.record (.accepted s.number text control opened) with injections := left }) := by
        rw [Backend.consult]
        simp only [Backend.record, consulted]
      have untouched := Backend.takeReport_of_unreported
        (b := { b'.record (.accepted s.number text control opened) with injections := left })
        unreported'
      simp only [opens, failures]
      rw [untouched]
      exact .started opened failure left requested opens consulted

/-- What asking for a schema statement may do. -/
inductive Session.RunsSchema (s : Session) (b : Backend) (text : String) (deadline : Duration) :
    Except BackendError Unit × Backend → Prop
  | refused {b' : Backend} (error : BackendError)
      (requested : b.Requests .schemaStatement s.number deadline (.error error, b')) :
      Session.RunsSchema s b text deadline (.error error, b')
  | done {b' : Backend} (requested : b.Requests .schemaStatement s.number deadline (.ok (), b')) :
      Session.RunsSchema s b text deadline (.ok (), b'.record (.schemaChanged s.number text))

/-- A schema statement is refused or carried out; there is no stream. -/
theorem Session.runsSchema (s : Session) (b : Backend) (text : String) (deadline : Duration) :
    s.RunsSchema b text deadline (s.runSchema b text deadline) := by
  have requested := b.requests .schemaStatement (some s.number) deadline
  rw [Session.runSchema]
  generalize b.request .schemaStatement (some s.number) deadline = result at requested
  obtain ⟨answer, b'⟩ := result
  cases answer with
  | error error => exact .refused error requested
  | ok granted => exact .done requested

/-- What asking to begin a transaction may do. -/
inductive Session.Begins (s : Session) (b : Backend) (mode : TransactionMode)
    (deadline : Duration) :
    Except BackendError TransactionId × Session × Backend → Prop
  | refused {b' : Backend} (error : BackendError)
      (requested : b.Requests .begin s.number deadline (.error error, b')) :
      Session.Begins s b mode deadline (.error error, s, b')
  | done {b' : Backend} (requested : b.Requests .begin s.number deadline (.ok (), b')) :
      Session.Begins s b mode deadline
        (.ok b'.nextTransaction, { s with openTransaction := some b'.nextTransaction },
          b'.record (.begun s.number b'.nextTransaction mode))

/-- Beginning a transaction is refused, or the next transaction is open on the session afterwards.
-/
theorem Session.begins (s : Session) (b : Backend) (mode : TransactionMode) (deadline : Duration) :
    s.Begins b mode deadline (s.begin b mode deadline) := by
  have requested := b.requests .begin (some s.number) deadline
  rw [Session.begin]
  generalize b.request .begin (some s.number) deadline = result at requested
  obtain ⟨answer, b'⟩ := result
  cases answer with
  | error error => exact .refused error requested
  | ok granted => exact .done requested

/-- The kind of request that ends a transaction. -/
def Ending.call : Ending → CallKind
  | .commit => .commit
  | .rollback => .rollback

def Ending.entry (ending : Ending) (session : Nat) (transaction : TransactionId) : Entry :=
  match ending with
  | .commit => .committed session transaction
  | .rollback => .rolledBack session transaction

/-- What asking to end a transaction may do. -/
inductive Session.Finishes (s : Session) (b : Backend) (ending : Ending)
    (transaction : TransactionId) (deadline : Duration) :
    Except BackendError Unit × Session × Backend → Prop
  | refused {b' : Backend} (error : BackendError)
      (requested : b.Requests ending.call s.number deadline (.error error, b')) :
      Session.Finishes s b ending transaction deadline (.error error, s, b')
  | misplaced {b' : Backend} (error : BackendError)
      (requested : b.Requests ending.call s.number deadline (.ok (), b'))
      (checked : s.check transaction = .error error) :
      Session.Finishes s b ending transaction deadline (.error error, s, b')
  | done {b' : Backend} (requested : b.Requests ending.call s.number deadline (.ok (), b'))
      (checked : s.check transaction = .ok ()) :
      Session.Finishes s b ending transaction deadline
        (.ok (), { s with openTransaction := none },
          b'.record (ending.entry s.number transaction))

section

variable {s : Session} {b b' : Backend} {ending : Ending} {transaction : TransactionId}
  {deadline : Duration} {error : BackendError}

theorem Session.finish_refused
    (requested : b.request ending.call s.number deadline = (.error error, b')) :
    s.finish b ending transaction deadline = (.error error, s, b') := by
  cases ending with
  | commit =>
    rw [Session.finish, Session.commit]
    simp only [Ending.call] at requested
    simp only [requested]
  | rollback =>
    rw [Session.finish, Session.rollback]
    simp only [Ending.call] at requested
    simp only [requested]

theorem Session.finish_misplaced
    (requested : b.request ending.call s.number deadline = (.ok (), b'))
    (checked : s.check transaction = .error error) :
    s.finish b ending transaction deadline = (.error error, s, b') := by
  cases ending with
  | commit =>
    rw [Session.finish, Session.commit]
    simp only [Ending.call] at requested
    simp only [requested, checked]
  | rollback =>
    rw [Session.finish, Session.rollback]
    simp only [Ending.call] at requested
    simp only [requested, checked]

theorem Session.finish_done (requested : b.request ending.call s.number deadline = (.ok (), b'))
    (checked : s.check transaction = .ok ()) :
    s.finish b ending transaction deadline =
      (.ok (), { s with openTransaction := none },
        b'.record (ending.entry s.number transaction)) := by
  cases ending with
  | commit =>
    rw [Session.finish, Session.commit]
    simp only [Ending.call] at requested
    simp only [requested, checked, Ending.entry]
  | rollback =>
    rw [Session.finish, Session.rollback]
    simp only [Ending.call] at requested
    simp only [requested, checked, Ending.entry]

end

/-- Every way in which ending a transaction may come out: refused, out of place since the
transaction is not open on the session, or done. Only then is it no longer open. -/
theorem Session.finishes (s : Session) (b : Backend) (ending : Ending) (transaction : TransactionId)
    (deadline : Duration) :
    s.Finishes b ending transaction deadline (s.finish b ending transaction deadline) := by
  have requests := b.requests ending.call (some s.number) deadline
  generalize requested : b.request ending.call (some s.number) deadline = result at requests
  obtain ⟨answer, b'⟩ := result
  cases answer with
  | error error =>
    rw [Session.finish_refused requested]
    exact .refused error requests
  | ok granted =>
    cases checked : s.check transaction with
    | error error =>
      rw [Session.finish_misplaced requested checked]
      exact .misplaced error requests checked
    | ok passed =>
      rw [Session.finish_done requested checked]
      exact .done requests checked

end SqlDriver
