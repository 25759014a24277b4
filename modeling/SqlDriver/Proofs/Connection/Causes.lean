import SqlDriver.Proofs.Connection.Agreement
import SqlDriver.Proofs.Connection.Batches

/-!
What calls on a connection fail for. A call that the connection or the query is at fault for fails
before it asks the backend for anything, and so it leaves everything as it was. Any other failure is
the backend's: it carries the status of a refusal that was set beforehand, and uses up that one and
no other. This holds of batches as well, for a row that succeeds uses up none.
-/

namespace SqlDriver

/-- The error that a call failed with. -/
def Outcome.error? {α : Type} : Outcome α → Option DriverError
  | .failed error => some error
  | _ => none

theorem Outcome.error?_map {α β : Type} (f : α → β) (outcome : Outcome α) :
    (outcome.map f).error? = outcome.error? := by
  cases outcome <;> rfl

theorem Outcome.refusal?_map {α β : Type} (f : α → β) (outcome : Outcome α) :
    (outcome.map f).refusal? = outcome.refusal? := by
  cases outcome <;> rfl

/-- The refusal that a call fails with is the backend's error, if its error is one. -/
theorem Outcome.refusal?_eq {α : Type} (outcome : Outcome α) :
    outcome.refusal? = outcome.error?.bind DriverError.refusal? := by
  cases outcome <;> rfl

/-- An error is of the backend's kind exactly when there is a refusal behind it, even at a row of a
batch. -/
theorem DriverError.kind_eq_backend_iff (error : DriverError) :
    error.kind = .backend ↔ ∃ refused, error.refusal? = some refused := by
  induction error with
  | query error =>
    constructor
    · intro kind
      rw [DriverError.kind] at kind
      split at kind <;> cases kind
    · rintro ⟨refused, found⟩
      cases found
  | state error =>
    constructor
    · intro kind
      cases kind
    · rintro ⟨refused, found⟩
      cases found
  | backend error => exact ⟨fun _ => ⟨error, rfl⟩, fun _ => rfl⟩
  | batch row completed source ih => exact ih

/-! ## Errors that are not the backend's -/

/-- A call that fails without the backend leaves everything as it was. -/
def Connection.RaisesEarly {α : Type} (c : Connection) (b : Backend) (patience : Patience)
    (out : Outcome α × Connection × Backend × Patience) : Prop :=
  ∀ error, out.1.error? = some error → error.kind ≠ .backend → out.2 = (c, b, patience)

namespace Connection.RaisesEarly

variable {c : Connection} {b : Backend} {patience : Patience}

theorem map {α β : Type} {out : Outcome α × Connection × Backend × Patience} (f : α → β)
    (early : Connection.RaisesEarly c b patience out) :
    Connection.RaisesEarly c b patience (out.1.map f, out.2) := by
  intro error failed
  rw [Outcome.error?_map] at failed
  exact early error failed

/-- A call that leaves everything as it was raises its errors early, however it comes out. -/
theorem of_unchanged {α : Type} (outcome : Outcome α) :
    Connection.RaisesEarly c b patience (outcome, c, b, patience) :=
  fun _ _ _ => rfl

theorem of_done {α : Type} (value : α) {rest : Connection × Backend × Patience} :
    Connection.RaisesEarly c b patience (.done value, rest) := by
  intro error failed
  cases failed

theorem of_refused {α : Type} (refused : BackendError) {rest : Connection × Backend × Patience} :
    Connection.RaisesEarly c b patience ((.failed (.backend refused) : Outcome α), rest) := by
  intro error failed kind
  cases failed
  exact (kind rfl).elim

theorem of_cancelled {α : Type} {rest : Connection × Backend × Patience} :
    Connection.RaisesEarly c b patience ((.cancelled : Outcome α), rest) := by
  intro error failed
  cases failed

end Connection.RaisesEarly

section

variable (c : Connection) (b : Backend) (patience : Patience)

/-- A data statement fails for the state of the connection before anything is asked, and for nothing
else but the backend. -/
theorem Connection.executeData_raisesEarly (descriptor : Descriptor) (rows : List NamedValues) :
    Connection.RaisesEarly c b patience (c.executeData b patience descriptor rows) := by
  unfold Connection.executeData
  split
  · exact .of_unchanged _
  · rename_i usable
    rw [Bool.not_eq_true] at usable
    have one : ∀ row, Connection.RaisesEarly c b patience
        (c.executeOne b patience descriptor.canonical row) := by
      intro row
      have serves := c.executeOne_serves usable b patience descriptor.canonical row
      generalize c.executeOne b patience descriptor.canonical row = run at serves
      obtain ⟨outcome, rest⟩ := run
      cases outcome with
      | done result => exact .of_done result
      | failed error =>
        obtain ⟨refused, rfl⟩ := serves.2 error rfl
        exact .of_refused refused
      | cancelled => exact .of_cancelled
    split
    · exact (one []).map _
    · exact (one _).map _
    · obtain ⟨-, combines⟩ := c.executeAll_combines usable b patience descriptor [] rows
      generalize c.executeAll b patience descriptor.canonical [] rows = run at combines
      obtain ⟨answer, rest⟩ := run
      dsimp only at combines
      generalize (c.executeEach b patience descriptor rows).1 = answers at combines
      cases combines with
      | done results all => exact .of_done _
      | failed results some refused =>
        intro error failed kind
        cases failed
        exact (kind rfl).elim
      | cancelled results some => exact .of_cancelled

theorem Connection.executeSchema_raisesEarly (text : String) :
    Connection.RaisesEarly c b patience
      ((c.executeSchema b text).1, c, (c.executeSchema b text).2, patience) := by
  rw [Connection.executeSchema]
  cases c.state with
  | closed => exact .of_unchanged _
  | inside transaction session settings => exact .of_unchanged _
  | outside settings =>
    have runs := c.config.runsSchema b text
    generalize c.config.runSchema b text = out at runs
    cases runs with
    | unserved error requested => exact .of_refused error
    | refused error requested runs => exact .of_refused error
    | done requested runs => exact .of_done ()

theorem Connection.begin_raisesEarly (settings : TransactionSettings) :
    Connection.RaisesEarly c b patience
      ((c.begin b settings).1, (c.begin b settings).2.1, (c.begin b settings).2.2, patience) := by
  have begins := c.begins b settings
  generalize c.begin b settings = out at begins
  cases begins with
  | closed state => exact .of_unchanged _
  | already isInside => exact .of_unchanged _
  | unserved error requested => exact .of_refused error
  | refused error state requested begins => exact .of_refused error
  | done transaction state requested begins => exact .of_done ()

/-- Ending a transaction fails only at the backend, so nothing else can come up in a call that ends
one on its way. -/
theorem Connection.finish_fails (ending : Ending) (error : DriverError)
    (failed : (c.finish b patience ending).1 = .failed error) :
    ∃ refused, error = .backend refused := by
  have finishes := c.finishes b patience ending
  generalize c.finish b patience ending = run at finishes failed
  obtain ⟨outcome, c', b', patience'⟩ := run
  dsimp only at finishes failed
  rw [failed] at finishes
  cases finishes with
  | refused refused waits state finishes => exact ⟨refused, rfl⟩

theorem Connection.finish_raisesEarly (ending : Ending) :
    Connection.RaisesEarly c b patience (c.finish b patience ending) := by
  have fails := c.finish_fails b patience ending
  generalize c.finish b patience ending = run at fails
  obtain ⟨outcome, rest⟩ := run
  cases outcome with
  | done value => exact .of_done value
  | failed error =>
    obtain ⟨refused, rfl⟩ := fails error rfl
    exact .of_refused refused
  | cancelled => exact .of_cancelled

theorem Connection.changeSettings_raisesEarly
    (change : TransactionSettings → TransactionSettings) :
    Connection.RaisesEarly c b patience
      ((c.changeSettings change).1, (c.changeSettings change).2, b, patience) := by
  rw [Connection.changeSettings]
  cases c.state with
  | outside settings => exact .of_done ()
  | inside transaction session settings => exact .of_unchanged _
  | closed => exact .of_unchanged _

/-- Turning auto-commit on commits what is open, so it may fail as committing does; otherwise it
asks for nothing. -/
theorem Connection.setAutoCommit_raisesEarly (autoCommit : Bool) :
    Connection.RaisesEarly c b patience (c.setAutoCommit b patience autoCommit) := by
  have early := c.finish_raisesEarly b patience .commit
  have finishes := c.finishes b patience .commit
  unfold Connection.setAutoCommit
  split
  · exact .of_unchanged _
  · exact c.changeSettings_raisesEarly b patience _
  · exact .of_unchanged _
  · rename_i state
    rw [Connection.commit]
    generalize c.finish b patience .commit = run at early finishes
    obtain ⟨outcome, c', b', patience'⟩ := run
    cases outcome with
    | done value =>
      obtain ⟨settings, outside⟩ := finishes.outside (by rw [state]; rfl)
      dsimp only at outside ⊢
      rw [Connection.changeSettings_of_outside outside]
      exact .of_done ()
    | failed error => exact early
    | cancelled => exact early

/-- Closing fails early, or as committing does. -/
theorem Connection.close_raisesEarly :
    Connection.RaisesEarly c b patience (c.close b patience) := by
  have early := c.finish_raisesEarly b patience .commit
  rw [Connection.close]
  split
  · exact .of_unchanged _
  · rw [Connection.commit]
    generalize c.finish b patience .commit = run at early
    obtain ⟨outcome, c', b', patience'⟩ := run
    cases outcome with
    | done value => exact .of_done ()
    | failed error => exact early
    | cancelled => exact early

/-- A forced close does not fail at all. -/
theorem Connection.forceClose_raisesEarly :
    Connection.RaisesEarly c b patience (c.forceClose b patience) := by
  rw [Connection.forceClose]
  generalize c.awaitDrain b patience = wait
  obtain ⟨drained, c', b', patience'⟩ := wait
  cases drained with
  | false => exact .of_cancelled
  | true => exact .of_done ()

/-- A call that fails, but not at the backend, has changed nothing: neither the connection nor the
backend, and it has not waited. -/
theorem Connection.perform_raisesEarly (request : Request) :
    Connection.RaisesEarly c b patience (c.perform b patience request) := by
  cases request with
  | data descriptor rows => exact (c.executeData_raisesEarly b patience descriptor rows).map _
  | schema text => exact (c.executeSchema_raisesEarly b patience text).map _
  | begin settings => exact (c.begin_raisesEarly b patience settings).map _
  | commit => exact (c.finish_raisesEarly b patience .commit).map _
  | rollback => exact (c.finish_raisesEarly b patience .rollback).map _
  | setAutoCommit autoCommit => exact (c.setAutoCommit_raisesEarly b patience autoCommit).map _
  | setIsolationLevel level => exact (c.changeSettings_raisesEarly b patience _).map _
  | setReadOnly readOnly => exact (c.changeSettings_raisesEarly b patience _).map _
  | setQueryTimeout timeout => exact .of_done _
  | close => exact (c.close_raisesEarly b patience).map _
  | forceClose => exact (c.forceClose_raisesEarly b patience).map _

end

/-! ## Errors of the backend -/

/-- The refusals that are still to be met. -/
def Backend.unmet (b : Backend) : List (CallKind × Status) := b.injections.map Injection.refusal

/-- What requests of a kind are refused with. -/
def CallKind.refusal : CallKind → Refusal
  | .streamTail => .injectedStream
  | call => .injected call

/-- The error is one of the refusals that were to be met before, and no other was met since. -/
def BackendError.Uses (error : BackendError) (b b' : Backend) : Prop :=
  ∃ call, error.refusal = call.refusal ∧ b.unmet.Perm ((call, error.status) :: b'.unmet)

/-- A call that succeeds has met no refusal, and one that is refused has met that one alone. -/
structure Connection.Meets {α : Type} (b : Backend) (out : Outcome α × Connection × Backend) :
    Prop where
  done : out.1.isDone = true → out.2.2.unmet = b.unmet
  refused : ∀ error, out.1.refusal? = some error → error.Uses b out.2.2

/-- Work of streams meets no refusal: what was set for the end of a stream was met when the stream
was started. -/
theorem Backend.StreamWork.unmet {b b' : Backend} (work : b.StreamWork b') :
    b'.unmet = b.unmet := by
  rw [Backend.unmet, Backend.unmet, work.injections]

/-- What happens at either end of a call, without a request, is of no account. -/
theorem BackendError.Uses.congr {error : BackendError} {b₁ b₂ b₁' b₂' : Backend}
    (uses : error.Uses b₁ b₁') (before : b₂.unmet = b₁.unmet) (after : b₂'.unmet = b₁'.unmet) :
    error.Uses b₂ b₂' := by
  obtain ⟨call, refusal, perm⟩ := uses
  rw [BackendError.Uses, before, after]
  exact ⟨call, refusal, perm⟩

section

variable {b b' : Backend} {call : CallKind} {session : Option Nat} {deadline : Duration}

/-- A request that is granted leaves the refusals that are still to be met as they are. -/
theorem Backend.Requests.unmet (requested : b.Requests call session deadline (.ok (), b')) :
    b'.unmet = b.unmet := by
  cases requested with
  | granted left consulted => exact Injection.consult_none consulted

/-- A request that is refused uses up the refusal that it fails with, and no other. -/
theorem Backend.Requests.uses {error : BackendError}
    (requested : b.Requests call session deadline (.error error, b'))
    (request : call ≠ .streamTail) : error.Uses b b' := by
  cases requested with
  | refused status left consulted =>
    refine ⟨call, ?_, Injection.consult_some consulted⟩
    cases call with
    | streamTail => exact (request rfl).elim
    | _ => rfl

end

/-! ### Calls that come out one way or the other -/

namespace Connection.Meets

variable {α : Type} {c : Connection} {b b' : Backend}

theorem of_done (value : α) (same : b'.unmet = b.unmet) :
    Connection.Meets b (.done value, c, b') where
  done _ := same
  refused error refused := by cases refused

theorem of_refused {error : BackendError} (uses : error.Uses b b') :
    Connection.Meets b ((.failed (.backend error) : Outcome α), c, b') where
  done succeeded := by cases succeeded
  refused other refused := by
    cases refused
    exact uses

theorem of_misused (fault : StateFault) :
    Connection.Meets b ((.failed (.state fault) : Outcome α), c, b') where
  done succeeded := by cases succeeded
  refused error refused := by cases refused

theorem of_cancelled : Connection.Meets b ((.cancelled : Outcome α), c, b') where
  done succeeded := by cases succeeded
  refused error refused := by cases refused

theorem map {β : Type} {out : Outcome α × Connection × Backend} (f : α → β)
    (meets : Connection.Meets b out) : Connection.Meets b (out.1.map f, out.2) := by
  obtain ⟨done, refused⟩ := meets
  refine ⟨fun succeeded => done ((Outcome.isDone_map f out.1).symm.trans succeeded), ?_⟩
  exact fun error failed => refused error ((Outcome.refusal?_map f out.1).symm.trans failed)

/-- A call met what it met after waiting for a stream, or after a session was handed out, since
neither changes what is to be met. -/
theorem after {out : Outcome α × Connection × Backend} (meets : Connection.Meets b' out)
    (same : b'.unmet = b.unmet) : Connection.Meets b out :=
  ⟨fun done => (meets.done done).trans same,
    fun error refused => (meets.refused error refused).congr same.symm rfl⟩

end Connection.Meets

theorem Connection.AwaitsDrain.unmet {c : Connection} {b : Backend}
    {out : Bool × Connection × Backend} (waits : c.AwaitsDrain b out) :
    out.2.2.unmet = b.unmet := by
  cases waits with
  | givenUp idles => exact idles.streamWork.unmet
  | drained idles drained => exact idles.streamWork.unmet

section

variable {s s' : Session} {c : Connection} {b b' b'' : Backend} {transaction : TransactionId}
  {session : Session} {settings : TransactionSettings} {text : String} {parameters : NamedValues}
  {deadline : Duration}

/-- A statement whose stream ends without an error has met no refusal, neither when it was asked for
nor for its stream. -/
theorem Backend.unmet_of_started {control : TransactionControl} {number : Nat}
    {opened : Option TransactionId} {left : List Injection}
    (requested : b.Requests .dataStatement number deadline (.ok (), b'))
    (consulted : Injection.consult .streamTail b'.injections = (none, left))
    (idles : (b'.accept text control number opened left).Idles b'') : b''.unmet = b.unmet := by
  have accepted : (b'.accept text control number opened left).unmet = b'.unmet :=
    Injection.consult_none consulted
  rw [idles.streamWork.unmet, accepted, requested.unmet]

/-- A stream that ends with an error has met what was set for its end, and the statement fails with
just this. -/
theorem Backend.uses_of_started {control : TransactionControl} {number : Nat}
    {opened : Option TransactionId} {status : Status} {left : List Injection}
    (requested : b.Requests .dataStatement number deadline (.ok (), b'))
    (consulted : Injection.consult .streamTail b'.injections = (some status, left))
    (idles : (b'.accept text control number opened left).Idles b'') :
    BackendError.Uses ⟨status, .injectedStream⟩ b b'' := by
  have accepted : (b'.accept text control number opened left).unmet =
      left.map Injection.refusal := rfl
  refine ⟨.streamTail, rfl, ?_⟩
  rw [idles.streamWork.unmet, accepted, ← requested.unmet]
  exact Injection.consult_some consulted

/-- A statement in the transaction that is open on its session meets at most one refusal: for its
request, or for its stream. -/
theorem Connection.Meets.afterInside
    {result : Except BackendError (Nat × Collected) × Session × Backend}
    (same : session.openTransaction = some transaction)
    (executes : session.Executes b text (.resume transaction false) parameters deadline
      (fun stream _ => .sign stream) result) :
    Connection.Meets b (c.afterInside transaction settings result) := by
  cases executes with
  | refused error requested => exact .of_refused (requested.uses (by decide))
  | misplaced error requested checked =>
    rw [Session.opens_open same] at checked
    cases checked
  | complete opened left requested opens consulted idles =>
    rw [Session.opens_open same] at opens
    cases opens
    have same := Backend.unmet_of_started requested consulted idles
    exact .of_done _ same
  | failed opened status left requested opens consulted idles =>
    exact .of_refused ((Backend.uses_of_started requested consulted idles).congr rfl rfl)
  | cancelled opened failure left rest requested opens consulted idles finishing =>
    exact .of_cancelled

/-- A statement on a session of its own meets at most one refusal after it has the session. -/
theorem Connection.Meets.afterOutside
    {result : Except BackendError (Nat × Collected) × Session × Backend} {mode : TransactionMode}
    {commit : Bool}
    (executes : session.Executes b text (.start mode commit) parameters deadline
      (fun _ session => .lease session) result) :
    Connection.Meets b (c.afterOutside settings result) := by
  cases executes with
  | refused error requested => exact .of_refused (requested.uses (by decide))
  | misplaced error requested checked => cases commit <;> cases checked
  | complete opened left requested opens consulted idles =>
    have same := Backend.unmet_of_started requested consulted idles
    cases opened <;> exact .of_done _ same
  | failed opened status left requested opens consulted idles =>
    exact .of_refused ((Backend.uses_of_started requested consulted idles).congr rfl rfl)
  | cancelled opened failure left rest requested opens consulted idles finishing =>
    exact .of_cancelled

/-- A session that agrees with its connection turns nothing down, so a transaction is ended or the
request meets a refusal. -/
theorem Session.Finishes.meets {ending : Ending} {answer : Except BackendError Unit}
    (same : s.openTransaction = some transaction)
    (finishes : s.Finishes b ending transaction deadline (answer, s', b')) :
    (answer = .ok () → b'.unmet = b.unmet) ∧
      ∀ error, answer = .error error → error.Uses b b' := by
  cases finishes with
  | refused error requested =>
    refine ⟨(by intro done; cases done), ?_⟩
    intro other failed
    cases failed
    exact requested.uses (by cases ending <;> decide)
  | misplaced error requested checked =>
    rw [Session.check_open same] at checked
    cases checked
  | done requested checked => exact ⟨fun _ => requested.unmet, by intro error failed; cases failed⟩

end

/-! ### Every call -/

section

variable {c : Connection} {b : Backend}

/-- A single data statement meets the refusal that it fails with, and none if it succeeds. -/
theorem Connection.ExecutesOne.meets {text : String} {parameters : NamedValues}
    {out : Outcome QueryResult × Connection × Backend} (agrees : c.Agrees)
    (executes : c.ExecutesOne b text parameters out) : Connection.Meets b out := by
  cases executes with
  | givenUp waits => exact .of_cancelled
  | closed waits state => exact .of_misused _
  | inside waits state executes =>
    have same := agrees _ _ _ (waits.state.symm.trans state)
    exact (Connection.Meets.afterInside same executes).after waits.unmet
  | outside waits state executes =>
    cases executes with
    | unserved error requested =>
      exact .of_refused ((requested.uses (by decide)).congr waits.unmet.symm rfl)
    | served requested executes =>
      exact ((Connection.Meets.afterOutside executes).after requested.unmet).after waits.unmet

theorem Config.RunsSchema.meets {text : String} {out : Outcome Unit × Backend}
    (runs : c.config.RunsSchema b text out) : Connection.Meets b (out.1, c, out.2) := by
  cases runs with
  | unserved error requested => exact .of_refused (requested.uses (by decide))
  | refused error requested runs =>
    cases runs with
    | refused error requested' =>
      exact .of_refused ((requested'.uses (by decide)).congr requested.unmet.symm rfl)
  | done requested runs =>
    cases runs with
    | done requested' => exact .of_done _ (requested'.unmet.trans requested.unmet)

theorem Connection.Begins.meets {settings : TransactionSettings}
    {out : Outcome Unit × Connection × Backend} (begins : c.Begins b settings out) :
    Connection.Meets b out := by
  cases begins with
  | closed state => exact .of_misused _
  | already isInside => exact .of_done _ rfl
  | unserved error requested => exact .of_refused (requested.uses (by decide))
  | refused error state requested begins =>
    cases begins with
    | refused error requested' =>
      exact .of_refused ((requested'.uses (by decide)).congr requested.unmet.symm rfl)
  | done transaction state requested begins =>
    cases begins with
    | done requested' => exact .of_done _ (requested'.unmet.trans requested.unmet)

/-- Ending the transaction that is open meets the refusal that it fails with, if it fails at the
backend. -/
theorem Connection.Finishes.meets {ending : Ending} {out : Outcome Unit × Connection × Backend}
    (agrees : c.Agrees) (finishes : c.Finishes b ending out) : Connection.Meets b out := by
  cases finishes with
  | givenUp waits => exact .of_cancelled
  | nothingOpen waits state => exact .of_done _ waits.unmet
  | refused error waits state finishes =>
    have same := agrees _ _ _ (waits.state.symm.trans state)
    exact .of_refused ((finishes.meets same).2 error rfl |>.congr waits.unmet.symm rfl)
  | done waits state finishes =>
    have same := agrees _ _ _ (waits.state.symm.trans state)
    exact .of_done _ (((finishes.meets same).1 rfl).trans waits.unmet)

theorem Connection.executeSchema_meets (c : Connection) (b : Backend) (text : String) :
    Connection.Meets b ((c.executeSchema b text).1, c, (c.executeSchema b text).2) := by
  rw [Connection.executeSchema]
  cases c.state with
  | closed => exact .of_misused _
  | inside transaction session settings => exact .of_misused _
  | outside settings => exact (c.config.runsSchema b text).meets

theorem Connection.changeSettings_meets (c : Connection) (b : Backend)
    (change : TransactionSettings → TransactionSettings) :
    Connection.Meets b ((c.changeSettings change).1, (c.changeSettings change).2, b) := by
  rw [Connection.changeSettings]
  cases c.state with
  | outside settings => exact .of_done _ rfl
  | inside transaction session settings => exact .of_misused _
  | closed => exact .of_misused _

/-- A forced close never fails, though it may meet a refusal: how rolling back comes out is not
said. -/
theorem Connection.forceClose_unrefused (c : Connection) (b : Backend) (patience : Patience) :
    (c.forceClose b patience).1.refusal? = none := by
  rw [Connection.forceClose]
  generalize c.awaitDrain b patience = wait
  obtain ⟨drained, c', b', patience'⟩ := wait
  cases drained <;> rfl

end

section

variable {refusals : List (CallKind × Status)} {c : Connection} {b : Backend}
  (accords : Connection.Accords refusals c b)

include accords

/-- A batch meets at most one refusal, that of the row at which it stops. The induction is on the
rows: each that succeeds leaves the refusals that there were. -/
theorem Connection.Accords.executeAll_meets (patience : Patience) (text : String)
    (completed : List QueryResult) (rows : List NamedValues) :
    let run := c.executeAll b patience text completed rows
    Connection.Meets b (run.1, run.2.1, run.2.2.1) := by
  induction rows generalizing c b patience completed with
  | nil => exact .of_done completed rfl
  | cons row rows ih =>
    have executes := c.executesOne accords.2.unreported patience text row
    have kept := (accords.executesOne executes).1
    have meets := executes.meets accords.1
    rw [Connection.executeAll]
    generalize c.executeOne b patience text row = run at kept meets
    obtain ⟨outcome, c', b', patience'⟩ := run
    cases outcome with
    | done result => exact (ih kept patience' (completed ++ [result])).after (meets.done rfl)
    | failed error => exact ⟨(by intro done; cases done), meets.refused⟩
    | cancelled => exact .of_cancelled

/-- A batch meets at most one refusal, which is that of the row that it fails at. The rows before it
have succeeded, and none comes after it. -/
theorem Connection.Accords.executeData_meets (patience : Patience) (descriptor : Descriptor)
    (rows : List NamedValues) :
    let run := c.executeData b patience descriptor rows
    Connection.Meets b (run.1, run.2.1, run.2.2.1) := by
  have one := fun row => (c.executesOne accords.2.unreported patience descriptor.canonical
    row).meets accords.1
  unfold Connection.executeData
  split
  · exact .of_misused _
  · split
    · exact (one []).map _
    · exact (one _).map _
    · exact accords.executeAll_meets patience descriptor.canonical [] _

theorem Connection.Accords.finish_meets (patience : Patience) (ending : Ending) :
    let run := c.finish b patience ending
    Connection.Meets b (run.1, run.2.1, run.2.2.1) :=
  (c.finishes b patience ending).meets accords.1

theorem Connection.Accords.setAutoCommit_meets (patience : Patience) (autoCommit : Bool) :
    let run := c.setAutoCommit b patience autoCommit
    Connection.Meets b (run.1, run.2.1, run.2.2.1) := by
  have meets := accords.finish_meets patience .commit
  have finishes := c.finishes b patience .commit
  unfold Connection.setAutoCommit
  split
  · exact .of_misused _
  · rename_i settings state
    rw [Connection.changeSettings_of_outside state]
    exact .of_done _ rfl
  · exact .of_done _ rfl
  · rename_i state
    rw [Connection.commit]
    generalize c.finish b patience .commit = run at meets finishes
    obtain ⟨outcome, c', b', patience'⟩ := run
    cases outcome with
    | done value =>
      obtain ⟨settings, outside⟩ := finishes.outside (by rw [state]; rfl)
      dsimp only at outside ⊢
      rw [Connection.changeSettings_of_outside outside]
      exact .of_done _ (meets.done rfl)
    | failed error => exact meets
    | cancelled => exact meets

theorem Connection.Accords.close_meets (patience : Patience) :
    let run := c.close b patience
    Connection.Meets b (run.1, run.2.1, run.2.2.1) := by
  have meets := accords.finish_meets patience .commit
  rw [Connection.close]
  split
  · exact .of_misused _
  · rw [Connection.commit]
    generalize c.finish b patience .commit = run at meets
    obtain ⟨outcome, c', b', patience'⟩ := run
    cases outcome with
    | done value => exact .of_done _ (meets.done rfl)
    | failed error => exact meets
    | cancelled => exact meets

/-- A call that fails at the backend has used up the refusal that it fails with, and no other. The
proof goes call by call; where a call waits first, what it waits for meets nothing. -/
theorem Connection.Accords.perform_uses (patience : Patience) (request : Request)
    {error : BackendError}
    (failed : (c.perform b patience request).1.refusal? = some error) :
    error.Uses b (c.perform b patience request).2.2.1 := by
  cases request with
  | data descriptor rows =>
    exact ((accords.executeData_meets patience descriptor rows).map _).refused error failed
  | schema text => exact ((c.executeSchema_meets b text).map _).refused error failed
  | begin settings => exact ((c.begins b settings).meets.map _).refused error failed
  | commit => exact ((accords.finish_meets patience .commit).map _).refused error failed
  | rollback => exact ((accords.finish_meets patience .rollback).map _).refused error failed
  | setAutoCommit autoCommit =>
    exact ((accords.setAutoCommit_meets patience autoCommit).map _).refused error failed
  | setIsolationLevel level => exact ((c.changeSettings_meets b _).map _).refused error failed
  | setReadOnly readOnly => exact ((c.changeSettings_meets b _).map _).refused error failed
  | setQueryTimeout timeout => cases failed
  | close => exact ((accords.close_meets patience).map _).refused error failed
  | forceClose =>
    have refused : (c.forceClose b patience).1.refusal? = some error :=
      (Outcome.refusal?_map _ _).symm.trans failed
    rw [c.forceClose_unrefused b patience] at refused
    cases refused

end

end SqlDriver
