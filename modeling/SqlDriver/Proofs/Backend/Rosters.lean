import Mathlib.Data.List.Induction
import SqlDriver.Proofs.Backend.Requests
import SqlDriver.Proofs.Backend.StreamWork

/-!
Runs of any number of sessions over one backend, each asked for whatever one likes. Between the
requests the backend may be told to refuse some of those to come, its gate may be opened and closed,
and the result streams of the statements are pulled in any order. A session that was given back is
not asked for anything any more.
-/

namespace SqlDriver

/-- The sessions that a backend has handed out, each in its place until it is given back, and the
result streams of the statements that were accepted on them. -/
structure Roster where
  sessions : List (Option Session)
  streams : List ResultStream
  backend : Backend

/-- Something that may be asked of a backend. Sessions are named by their places. -/
inductive Roster.Call where
  | acquire
  | runData (place : Nat) (text : String) (control : TransactionControl)
      (parameters : NamedValues)
  | runSchema (place : Nat) (text : String)
  | begin (place : Nat) (mode : TransactionMode)
  | finish (place : Nat) (ending : Ending) (transaction : TransactionId)

/-- What comes back from a call that is carried out. -/
inductive Roster.Answer where
  | session (session : Session)
  | stream (stream : ResultStream)
  | transaction (transaction : TransactionId)
  | acknowledged

/-- Something that happens to a roster. -/
inductive Roster.Event where
  | call (call : Roster.Call) (deadline : Duration)
  | release (place : Nat)
  | pull (stream : Nat)
  | stir (stir : Stir)
  | inject (call : CallKind) (skip : Nat) (status : Status)
  | setResultSets (count : Nat)

/-- The kind of request that a call makes. -/
def Roster.Call.kind : Roster.Call → CallKind
  | .acquire => .acquire
  | .runData _ _ _ _ => .dataStatement
  | .runSchema _ _ => .schemaStatement
  | .begin _ _ => .begin
  | .finish _ ending _ => ending.call

/-- The place of the session that a call is made on. -/
def Roster.Call.place? : Roster.Call → Option Nat
  | .acquire => none
  | .runData place _ _ _ => some place
  | .runSchema place _ => some place
  | .begin place _ => some place
  | .finish place _ _ => some place

/-- The transaction that a call names: that of a statement which is to run in it, or the one to be
ended. -/
def Roster.Call.transaction? : Roster.Call → Option TransactionId
  | .runData _ _ control _ => control.transaction?
  | .finish _ _ transaction => some transaction
  | _ => none

/-- The session at a place, unless it was given back. -/
def Roster.held (r : Roster) (place : Nat) : Option Session := r.sessions[place]?.join

/-- Puts back a session after a call on it. -/
def Roster.put (r : Roster) (place : Nat) (session : Session) (b : Backend) : Roster :=
  { r with sessions := r.sessions.set place (some session), backend := b }

/-- What a call comes to, if it is made on a session that is held. -/
def Roster.call (r : Roster) (deadline : Duration) :
    Roster.Call → Option (Except BackendError Roster.Answer × Roster)
  | .acquire =>
    match r.backend.acquire deadline with
    | (.error e, b) => some (.error e, { r with backend := b })
    | (.ok session, b) =>
      some (.ok (.session session),
        { r with sessions := r.sessions ++ [some session], backend := b })
  | .runData place text control parameters =>
    (r.held place).map fun session =>
      match session.runData r.backend text control parameters deadline with
      | (.error e, session, b) => (.error e, r.put place session b)
      | (.ok stream, session, b) =>
        (.ok (.stream stream), { r.put place session b with streams := r.streams ++ [stream] })
  | .runSchema place text =>
    (r.held place).map fun session =>
      match session.runSchema r.backend text deadline with
      | (.error e, b) => (.error e, { r with backend := b })
      | (.ok (), b) => (.ok .acknowledged, { r with backend := b })
  | .begin place mode =>
    (r.held place).map fun session =>
      match session.begin r.backend mode deadline with
      | (.error e, session, b) => (.error e, r.put place session b)
      | (.ok transaction, session, b) => (.ok (.transaction transaction), r.put place session b)
  | .finish place ending transaction =>
    (r.held place).map fun session =>
      match session.finish r.backend ending transaction deadline with
      | (.error e, session, b) => (.error e, r.put place session b)
      | (.ok (), session, b) => (.ok .acknowledged, r.put place session b)

/-- Gives a session back. -/
def Roster.release (r : Roster) (place : Nat) : Roster :=
  match r.held place with
  | none => r
  | some session =>
    { r with sessions := r.sessions.set place none, backend := r.backend.release session }

/-- Pulls a result stream once. -/
def Roster.pull (r : Roster) (stream : Nat) : Roster :=
  match r.streams[stream]? with
  | none => r
  | some running =>
    let (_, rest, b) := Script.poll running.script r.backend
    { r with streams := r.streams.set stream { running with script := rest }, backend := b }

def Roster.step (r : Roster) : Roster.Event → Roster
  | .call call deadline => ((r.call deadline call).map Prod.snd).getD r
  | .release place => r.release place
  | .pull stream => r.pull stream
  | .stir stir => { r with backend := r.backend.stir stir }
  | .inject call skip status => { r with backend := r.backend.inject call skip status }
  | .setResultSets count => { r with backend := r.backend.setResultSets count }

/-- A fresh backend that has handed out no session. -/
def Roster.empty : Roster := ⟨[], [], .fresh⟩

/-- The roster after everything that happened. -/
def Roster.run (events : List Roster.Event) : Roster := events.foldl Roster.step .empty

theorem Roster.run_concat (events : List Roster.Event) (event : Roster.Event) :
    Roster.run (events ++ [event]) = (Roster.run events).step event := by
  rw [Roster.run, List.foldl_append]
  rfl

/-- What holds at the start and is kept by every event holds after every run. The property may
mention the events so far. -/
theorem Roster.run_induction {P : List Roster.Event → Roster → Prop} (empty : P [] .empty)
    (step : ∀ events r event, P events r → P (events ++ [event]) (r.step event))
    (events : List Roster.Event) : P events (Roster.run events) := by
  induction events using List.reverseRecOn with
  | nil => exact empty
  | append_singleton events event ih =>
    rw [Roster.run_concat]
    exact step events (Roster.run events) event ih

/-! ## What a call may do -/

/-- What a call that is carried out does, after its request was granted. -/
inductive Roster.CarriesOut (r : Roster) (b : Backend) :
    Roster.Call → Roster.Answer × Roster → Prop
  | acquired :
      Roster.CarriesOut r b .acquire (.session b.nextSession,
        { r with sessions := r.sessions ++ [some b.nextSession], backend := b.serve })
  | started {place : Nat} {s : Session} {text : String} {control : TransactionControl}
      {parameters : NamedValues} (opened : Option TransactionId) (failure : Option Status)
      (left : List Injection) (held : r.held place = some s)
      (opens : s.opens b control = .ok opened)
      (consulted : Injection.consult .streamTail b.injections = (failure, left)) :
      Roster.CarriesOut r b (.runData place text control parameters)
        (.stream ⟨Journal.dataStatements b.journal, Mark.stream (Journal.dataStatements b.journal)
            (ResultEvent.all opened b.resultSets parameters) failure⟩,
          { r.put place { s with openTransaction := opened }
              { b.record (.accepted s.number text control opened) with injections := left } with
            streams := r.streams ++ [⟨Journal.dataStatements b.journal,
              Mark.stream (Journal.dataStatements b.journal)
                (ResultEvent.all opened b.resultSets parameters) failure⟩] })
  | schemaChanged {place : Nat} {s : Session} {text : String} (held : r.held place = some s) :
      Roster.CarriesOut r b (.runSchema place text)
        (.acknowledged, { r with backend := b.record (.schemaChanged s.number text) })
  | begun {place : Nat} {s : Session} {mode : TransactionMode} (held : r.held place = some s) :
      Roster.CarriesOut r b (.begin place mode)
        (.transaction b.nextTransaction,
          r.put place { s with openTransaction := some b.nextTransaction }
            (b.record (.begun s.number b.nextTransaction mode)))
  | finished {place : Nat} {s : Session} {ending : Ending} {transaction : TransactionId}
      (held : r.held place = some s) (same : s.openTransaction = some transaction) :
      Roster.CarriesOut r b (.finish place ending transaction)
        (.acknowledged, r.put place { s with openTransaction := none }
          (b.record (ending.entry s.number transaction)))

/-- The number of the session that a call is made on, if it is held: acquiring is made on none. -/
inductive Roster.MadeOn (r : Roster) : Roster.Call → Option Nat → Prop
  | acquire : Roster.MadeOn r .acquire none
  | session {call : Roster.Call} {place : Nat} {s : Session} (named : call.place? = some place)
      (held : r.held place = some s) : Roster.MadeOn r call (some s.number)

/-- What a call may do: its request is refused, or it names a transaction that is not the one open
on the session, or it is carried out. -/
inductive Roster.Calls (r : Roster) (deadline : Duration) (call : Roster.Call) :
    Except BackendError Roster.Answer × Roster → Prop
  | refused {session : Option Nat} {b : Backend} (error : BackendError)
      (made : r.MadeOn call session)
      (requested : r.backend.Requests call.kind session deadline (.error error, b)) :
      Roster.Calls r deadline call (.error error, { r with backend := b })
  | misplaced {place : Nat} {s : Session} {transaction : TransactionId} {b : Backend}
      (named : call.place? = some place) (held : r.held place = some s)
      (names : call.transaction? = some transaction)
      (requested : r.backend.Requests call.kind (some s.number) deadline (.ok (), b))
      (other : s.openTransaction ≠ some transaction) :
      Roster.Calls r deadline call
        (.error ⟨.notFound, .noSuchTransaction transaction s.number⟩, { r with backend := b })
  | done {session : Option Nat} {b : Backend} {answer : Roster.Answer} {r' : Roster}
      (made : r.MadeOn call session)
      (requested : r.backend.Requests call.kind session deadline (.ok (), b))
      (carries : r.CarriesOut b call (answer, r')) :
      Roster.Calls r deadline call (.ok answer, r')

/-- A session turns a transaction away only if it is not the one that is open there. -/
theorem Session.check_eq_error {s : Session} {transaction : TransactionId} {error : BackendError}
    (checked : s.check transaction = .error error) :
    s.openTransaction ≠ some transaction ∧
      error = ⟨.notFound, .noSuchTransaction transaction s.number⟩ := by
  rw [Session.check] at checked
  split at checked
  · cases checked
  · rename_i other
    exact ⟨other, (Except.error.inj checked).symm⟩

/-- A session takes a transaction only if it is the one that is open there. -/
theorem Session.check_eq_ok {s : Session} {transaction : TransactionId}
    (checked : s.check transaction = .ok ()) : s.openTransaction = some transaction := by
  rw [Session.check] at checked
  split at checked
  · assumption
  · cases checked

/-- A statement is out of place only by naming a transaction that is not open on its session; one
that starts a transaction is never out of place. -/
theorem Session.opens_eq_error {s : Session} {b : Backend} {control : TransactionControl}
    {error : BackendError} (opens : s.opens b control = .error error) :
    ∃ transaction, control.transaction? = some transaction ∧
      s.openTransaction ≠ some transaction ∧
      error = ⟨.notFound, .noSuchTransaction transaction s.number⟩ := by
  cases control with
  | start mode commit => cases commit <;> cases opens
  | resume transaction commit =>
    rw [Session.opens] at opens
    cases checked : s.check transaction with
    | error other =>
      rw [checked] at opens
      cases opens
      exact ⟨transaction, rfl, Session.check_eq_error checked⟩
    | ok done =>
      rw [checked] at opens
      cases opens

/-- A statement that is in place in a transaction leaves it open, unless it commits it. -/
theorem Session.opens_resume_eq_ok {s : Session} {b : Backend} {transaction : TransactionId}
    {commit : Bool} {opened : Option TransactionId}
    (opens : s.opens b (.resume transaction commit) = .ok opened) :
    s.openTransaction = some transaction ∧
      opened = if commit then none else some transaction := by
  rw [Session.opens] at opens
  cases checked : s.check transaction with
  | error error =>
    rw [checked] at opens
    cases opens
  | ok done =>
    rw [checked] at opens
    cases opens
    exact ⟨Session.check_eq_ok checked, rfl⟩

section

variable {r : Roster} {place : Nat} {s : Session}

/-- A session that comes back as it was leaves the sessions as they were, so only the backend has
changed. -/
theorem Roster.put_held (held : r.held place = some s) (b : Backend) :
    r.put place s b = { r with backend := b } := by
  have same : r.sessions.set place (some s) = r.sessions := by
    have found : r.sessions[place]? = some (some s) := Option.join_eq_some_iff.mp held
    obtain ⟨inside, at_place⟩ := List.getElem?_eq_some_iff.mp found
    rw [← at_place, List.set_getElem_self]
  rw [Roster.put, same]

variable {deadline : Duration} {result : Except BackendError Roster.Answer × Roster}

theorem Roster.calls_acquire (called : r.call deadline .acquire = some result) :
    r.Calls deadline .acquire result := by
  have acquires := r.backend.acquires deadline
  rw [Roster.call] at called
  generalize r.backend.acquire deadline = out at acquires called
  cases acquires with
  | refused error requested =>
    cases called
    exact .refused error .acquire requested
  | granted requested =>
    cases called
    exact .done .acquire requested .acquired

theorem Roster.calls_runData (unreported : r.backend.reports = []) {text : String}
    {control : TransactionControl} {parameters : NamedValues}
    (called : r.call deadline (.runData place text control parameters) = some result) :
    r.Calls deadline (.runData place text control parameters) result := by
  obtain ⟨s, held, same⟩ := Option.map_eq_some_iff.mp called
  have runs := s.runsData unreported text control parameters deadline
  generalize s.runData r.backend text control parameters deadline = out at runs same
  cases runs with
  | refused error requested =>
    cases same
    dsimp only
    rw [Roster.put_held held]
    exact .refused error (.session rfl held) requested
  | misplaced error requested checked =>
    cases same
    obtain ⟨transaction, names, other, rfl⟩ := Session.opens_eq_error checked
    dsimp only
    rw [Roster.put_held held]
    exact .misplaced rfl held names requested other
  | started opened failure left requested opens consulted =>
    cases same
    exact .done (.session rfl held) requested (.started opened failure left held opens consulted)

theorem Roster.calls_runSchema {text : String}
    (called : r.call deadline (.runSchema place text) = some result) :
    r.Calls deadline (.runSchema place text) result := by
  obtain ⟨s, held, same⟩ := Option.map_eq_some_iff.mp called
  have runs := s.runsSchema r.backend text deadline
  generalize s.runSchema r.backend text deadline = out at runs same
  cases runs with
  | refused error requested =>
    cases same
    exact .refused error (.session rfl held) requested
  | done requested =>
    cases same
    exact .done (.session rfl held) requested (.schemaChanged held)

theorem Roster.calls_begin {mode : TransactionMode}
    (called : r.call deadline (.begin place mode) = some result) :
    r.Calls deadline (.begin place mode) result := by
  obtain ⟨s, held, same⟩ := Option.map_eq_some_iff.mp called
  have begins := s.begins r.backend mode deadline
  generalize s.begin r.backend mode deadline = out at begins same
  cases begins with
  | refused error requested =>
    cases same
    dsimp only
    rw [Roster.put_held held]
    exact .refused error (.session rfl held) requested
  | done requested =>
    cases same
    exact .done (.session rfl held) requested (.begun held)

theorem Roster.calls_finish {ending : Ending} {transaction : TransactionId}
    (called : r.call deadline (.finish place ending transaction) = some result) :
    r.Calls deadline (.finish place ending transaction) result := by
  obtain ⟨s, held, same⟩ := Option.map_eq_some_iff.mp called
  have finishes := s.finishes r.backend ending transaction deadline
  generalize s.finish r.backend ending transaction deadline = out at finishes same
  cases finishes with
  | refused error requested =>
    cases same
    dsimp only
    rw [Roster.put_held held]
    exact .refused error (.session rfl held) requested
  | misplaced error requested checked =>
    cases same
    obtain ⟨other, rfl⟩ := Session.check_eq_error checked
    dsimp only
    rw [Roster.put_held held]
    exact .misplaced rfl held rfl requested other
  | done requested checked =>
    cases same
    exact .done (.session rfl held) requested (.finished held (Session.check_eq_ok checked))

theorem Roster.calls (unreported : r.backend.reports = []) {call : Roster.Call}
    (called : r.call deadline call = some result) : r.Calls deadline call result := by
  cases call with
  | acquire => exact Roster.calls_acquire called
  | runData place text control parameters => exact Roster.calls_runData unreported called
  | runSchema place text => exact Roster.calls_runSchema called
  | begin place mode => exact Roster.calls_begin called
  | finish place ending transaction => exact Roster.calls_finish called

end

/-! ## What does not ask for anything -/

/-- Giving a session back and pulling a stream is the work of streams, for the backend. -/
theorem Roster.release_streamWork (r : Roster) (place : Nat) :
    r.backend.StreamWork (r.release place).backend := by
  rw [Roster.release]
  cases r.held place with
  | none => exact .refl _
  | some session => exact .release _ session

theorem Roster.pull_streamWork (r : Roster) (stream : Nat) :
    r.backend.StreamWork (r.pull stream).backend := by
  rw [Roster.pull]
  cases r.streams[stream]? with
  | none => exact .refl _
  | some running => exact .poll running.script r.backend

/-- Pulling a stream leaves the sessions as they are. -/
theorem Roster.sessions_pull (r : Roster) (stream : Nat) :
    (r.pull stream).sessions = r.sessions := by
  rw [Roster.pull]
  cases r.streams[stream]? <;> rfl

theorem Roster.Calls.reports {r : Roster} {deadline : Duration} {call : Roster.Call}
    {result : Except BackendError Roster.Answer × Roster} (calls : r.Calls deadline call result) :
    result.2.backend.reports = r.backend.reports := by
  cases calls with
  | refused error made requested => exact requested.reports
  | misplaced named held names requested other => exact requested.reports
  | done made requested carries => cases carries <;> exact requested.reports

/-- No run tells streams to report anything but what they come to, as that is not among its events.
-/
theorem Roster.unreported_run (events : List Roster.Event) :
    (Roster.run events).backend.reports = [] := by
  refine Roster.run_induction (P := fun _ r => r.backend.reports = []) rfl ?_ events
  intro events r event unreported
  cases event with
  | call call deadline =>
    rw [Roster.step]
    cases called : r.call deadline call with
    | none => exact unreported
    | some result => exact (Roster.calls unreported called).reports.trans unreported
  | release place => exact (r.release_streamWork place).reports.trans unreported
  | pull stream => exact (r.pull_streamWork stream).reports.trans unreported
  | stir stir => exact (Backend.StreamWork.stir r.backend stir).reports.trans unreported
  | inject call skip status => exact unreported
  | setResultSets count => exact unreported

end SqlDriver
