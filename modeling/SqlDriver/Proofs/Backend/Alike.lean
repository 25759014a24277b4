import SqlDriver.Proofs.Backend.Requests
import SqlDriver.Proofs.Journal.Alike

/-!
Backends that differ only in the order in which their streams came to their events. Of its journal a
backend reads nothing but counts, so whatever is asked of two such backends they answer alike, and
they are such backends again.
-/

namespace SqlDriver

/-- Backends whose journals are alike and that are equal otherwise. -/
structure Backend.Alike (b b' : Backend) : Prop where
  journal : Journal.Alike b.journal b'.journal
  injections : b.injections = b'.injections
  gateOpen : b.gateOpen = b'.gateOpen
  resultSets : b.resultSets = b'.resultSets
  reports : b.reports = b'.reports
  background : b.background = b'.background

namespace Backend.Alike

variable {b b' : Backend}

theorem record (h : b.Alike b') (entry : Entry) : (b.record entry).Alike (b'.record entry) :=
  { h with journal := h.journal.append [entry] }

theorem release (h : b.Alike b') (session : Session) :
    (b.release session).Alike (b'.release session) :=
  h.record (.released session.number)

theorem setBackground (h : b.Alike b') (background : List Background) :
    Backend.Alike { b with background := background } { b' with background := background } :=
  { h with background := rfl }

theorem setInjections (h : b.Alike b') (injections : List Injection) :
    Backend.Alike { b with injections := injections } { b' with injections := injections } :=
  { h with injections := rfl }

theorem setGate (h : b.Alike b') (gateOpen : Bool) :
    Backend.Alike { b with gateOpen := gateOpen } { b' with gateOpen := gateOpen } :=
  { h with gateOpen := rfl }

theorem setResultSets (h : b.Alike b') (count : Nat) :
    (b.setResultSets count).Alike (b'.setResultSets count) :=
  { h with resultSets := rfl }

theorem inject (h : b.Alike b') (call : CallKind) (skip : Nat) (status : Status) :
    (b.inject call skip status).Alike (b'.inject call skip status) := by
  rw [Backend.inject, Backend.inject, h.injections]
  exact h.setInjections _

/-! ## Streams -/

theorem dropKept (h : b.Alike b') (guard : Guard) :
    (b.dropKept guard).Alike (b'.dropKept guard) := by
  cases guard with
  | lease session => exact h.release session
  | sign stream => exact h
  | nothing => exact h

/-- Backends that are alike are in step: what passes depends on the gate alone, and what is noted
adds the same entries to both journals. -/
theorem inStep : Stage.InStep Backend.Alike where
  pass mark b b' h := by
    cases mark with
    | gate =>
      simp only [Stage.pass, h.gateOpen]
      cases b'.gateOpen with
      | false => exact .none
      | true => exact .some h
    | emit stream => exact .some (h.record (.emitted stream))
    | complete stream => exact .some (h.record (.completed stream))
  note notice b b' h := by
    cases notice with
    | guardDropped guard => exact h.dropKept guard
    | _ => exact h

/-! ## The background -/

theorem releaseAll (h : b.Alike b') (sessions : List Session) :
    Backend.Alike (sessions.foldl Backend.release b) (sessions.foldl Backend.release b') := by
  induction sessions generalizing b b' with
  | nil => exact h
  | cons session rest ih => exact ih (h.release session)

/-- What is left of a stream goes to the end of the same background, or the same sessions are given
back. -/
theorem resume (h : b.Alike b') (waiting : List Session) (left : Option (Drain Mark Reply Guard)) :
    (b.resume waiting left).Alike (b'.resume waiting left) := by
  cases left with
  | none => exact h.releaseAll waiting
  | some drain =>
    rw [Backend.resume, Backend.resume, h.background]
    exact h.setBackground _

theorem runTask (h : b.Alike b') (task : Background) :
    (b.runTask task).Alike (b'.runTask task) := by
  have runs := inStep.run task.drain h
  rw [Backend.runTask, Backend.runTask]
  generalize task.drain.run b = left at runs
  generalize task.drain.run b' = left' at runs
  obtain ⟨left, h⟩ := runs
  exact h.resume task.waiting left

theorem pullTask (h : b.Alike b') (task : Background) :
    (b.pullTask task).Alike (b'.pullTask task) := by
  have pulls := inStep.pull task.drain h
  rw [Backend.pullTask, Backend.pullTask]
  generalize task.drain.pull b = left at pulls
  generalize task.drain.pull b' = left' at pulls
  obtain ⟨left, h⟩ := pulls
  exact h.resume task.waiting left

theorem runTasks (h : b.Alike b') (tasks : List Background) :
    Backend.Alike (tasks.foldl Backend.runTask b) (tasks.foldl Backend.runTask b') := by
  induction tasks generalizing b b' with
  | nil => exact h
  | cons task rest ih => exact ih (h.runTask task)

/-- Whatever happens at a backend by itself happens alike at the two: they have the same streams in
the background, in the same order, behind the same gate. -/
theorem stir (h : b.Alike b') (stir : Stir) : (b.stir stir).Alike (b'.stir stir) := by
  cases stir with
  | openGate => exact h.setGate true
  | closeGate => exact h.setGate false
  | settle =>
    rw [Backend.stir, Backend.stir, Backend.settle, Backend.settle, h.background]
    exact (h.setBackground []).runTasks _
  | pullFirst =>
    rw [Backend.stir, Backend.stir, Backend.pullFirst, Backend.pullFirst, h.background]
    cases b'.background with
    | nil => exact h
    | cons task rest => exact (h.setBackground rest).pullTask task
  | rotate =>
    rw [Backend.stir, Backend.stir, Backend.rotate, Backend.rotate, h.background]
    cases b'.background with
    | nil => exact h
    | cons task rest => exact h.setBackground _

/-- Backends that are alike stay so however long a call is held up. -/
theorem stirAll (h : b.Alike b') (stirs : List Stir) :
    (b.stirAll stirs).Alike (b'.stirAll stirs) := by
  induction stirs generalizing b b' with
  | nil => exact h
  | cons stir rest ih => exact ih (h.stir stir)

/-- Whether a stream is still on its way is read off the background, which is the same. -/
theorem hasSign (h : b.Alike b') (stream : Nat) : b.hasSign stream = b'.hasSign stream := by
  rw [Backend.hasSign, Backend.hasSign, h.background]

theorem releaseAfter (h : b.Alike b') (stream : Nat) (session : Session) :
    (b.releaseAfter stream session).Alike (b'.releaseAfter stream session) := by
  rw [Backend.releaseAfter, Backend.releaseAfter, h.hasSign, h.background]
  split
  · exact h.setBackground _
  · exact h.release session

/-! ## Requests -/

theorem acquired (h : b.Alike b') : Journal.acquired b.journal = Journal.acquired b'.journal :=
  congrArg Journal.Statistics.acquired h.journal.statistics

/-- The number of data statements, from which streams are numbered, does not depend on the order in
which streams came to their events. -/
theorem dataStatements (h : b.Alike b') :
    Journal.dataStatements b.journal = Journal.dataStatements b'.journal :=
  congrArg Journal.Statistics.dataStatements h.journal.statistics

/-- Transactions are numbered by a count of the journal, so the next one is the same. -/
theorem nextTransaction (h : b.Alike b') : b.nextTransaction = b'.nextTransaction :=
  congrArg TransactionId.issued (h.journal.perm.countP_eq _)

theorem consult (h : b.Alike b') (call : CallKind) :
    SameAnswer Backend.Alike (b.consult call) (b'.consult call) := by
  rw [Backend.consult, Backend.consult, h.injections]
  exact .intro _ (h.setInjections _)

/-- A request meets the same refusal, or is granted, at both. -/
theorem request (h : b.Alike b') (call : CallKind) (session : Option Nat) (deadline : Duration) :
    SameAnswer Backend.Alike (b.request call session deadline)
      (b'.request call session deadline) := by
  have consults := (h.record (.requested call session deadline)).consult call
  rw [Backend.request, Backend.request]
  generalize Backend.consult _ call = consulted at consults
  generalize Backend.consult _ call = consulted' at consults
  obtain ⟨refusal, h⟩ := consults
  cases refusal <;> exact .intro _ h

/-- The session that is acquired has the same number at both, since it is the number of sessions
acquired so far. -/
theorem acquire (h : b.Alike b') (deadline : Duration) :
    SameAnswer Backend.Alike (b.acquire deadline) (b'.acquire deadline) := by
  have requests := h.request .acquire none deadline
  rw [Backend.acquire, Backend.acquire]
  generalize b.request .acquire none deadline = requested at requests
  generalize b'.request .acquire none deadline = requested' at requests
  obtain ⟨answer, h⟩ := requests
  cases answer with
  | error error => exact .intro _ h
  | ok granted =>
    simp only [h.acquired]
    exact .intro _ (h.record _)

theorem opens (h : b.Alike b') (s : Session) (control : TransactionControl) :
    s.opens b control = s.opens b' control := by
  unfold Session.opens
  rw [h.nextTransaction]

theorem takeReport (h : b.Alike b') : SameAnswer Backend.Alike b.takeReport b'.takeReport := by
  rw [Backend.takeReport, Backend.takeReport, h.reports]
  cases b'.reports with
  | nil => exact .intro _ h
  | cons report rest => exact .intro _ { h with reports := rfl }

/-- A data statement is refused alike, or its stream has the same number and the same script. The
journals then differ no more than before. -/
theorem runData (h : b.Alike b') (s : Session) (text : String) (control : TransactionControl)
    (parameters : NamedValues) (deadline : Duration) :
    SameAnswer (SameAnswer Backend.Alike) (s.runData b text control parameters deadline)
      (s.runData b' text control parameters deadline) := by
  have requests := h.request .dataStatement s.number deadline
  rw [Session.runData, Session.runData]
  generalize b.request .dataStatement (some s.number) deadline = requested at requests
  generalize b'.request .dataStatement (some s.number) deadline = requested' at requests
  obtain ⟨answer, h⟩ := requests
  cases answer with
  | error error => exact .intro _ (.intro _ h)
  | ok granted =>
    simp only [h.opens, h.dataStatements]
    split
    · exact .intro _ (.intro _ h)
    · rename_i opened _
      have consults := (h.record (.accepted s.number text control opened)).consult .streamTail
      generalize Backend.consult _ .streamTail = consulted at consults
      generalize Backend.consult _ .streamTail = consulted' at consults
      obtain ⟨failure, h⟩ := consults
      have takes := h.takeReport
      simp only
      generalize Backend.takeReport _ = taken at takes
      generalize Backend.takeReport _ = taken' at takes
      obtain ⟨report, h⟩ := takes
      simp only [h.resultSets]
      exact .intro _ (.intro _ h)

theorem runSchema (h : b.Alike b') (s : Session) (text : String) (deadline : Duration) :
    SameAnswer Backend.Alike (s.runSchema b text deadline) (s.runSchema b' text deadline) := by
  have requests := h.request .schemaStatement s.number deadline
  rw [Session.runSchema, Session.runSchema]
  generalize b.request .schemaStatement (some s.number) deadline = requested at requests
  generalize b'.request .schemaStatement (some s.number) deadline = requested' at requests
  obtain ⟨answer, h⟩ := requests
  cases answer with
  | error error => exact .intro _ h
  | ok granted => exact .intro _ (h.record _)

theorem begin (h : b.Alike b') (s : Session) (mode : TransactionMode) (deadline : Duration) :
    SameAnswer (SameAnswer Backend.Alike) (s.begin b mode deadline) (s.begin b' mode deadline) := by
  have requests := h.request .begin s.number deadline
  rw [Session.begin, Session.begin]
  generalize b.request .begin (some s.number) deadline = requested at requests
  generalize b'.request .begin (some s.number) deadline = requested' at requests
  obtain ⟨answer, h⟩ := requests
  cases answer with
  | error error => exact .intro _ (.intro _ h)
  | ok granted =>
    simp only [h.nextTransaction]
    exact .intro _ (.intro _ (h.record _))

/-- Committing and rolling back come to the same at both, and leave the session with the same
transaction. -/
theorem finish (h : b.Alike b') (s : Session) (ending : Ending) (transaction : TransactionId)
    (deadline : Duration) :
    SameAnswer (SameAnswer Backend.Alike) (s.finish b ending transaction deadline)
      (s.finish b' ending transaction deadline) := by
  have requests := h.request ending.call s.number deadline
  generalize requested : b.request ending.call (some s.number) deadline = run at requests
  generalize requested' : b'.request ending.call (some s.number) deadline = run' at requests
  obtain ⟨answer, h⟩ := requests
  cases answer with
  | error error =>
    rw [Session.finish_refused requested, Session.finish_refused requested']
    exact .intro _ (.intro _ h)
  | ok granted =>
    cases checked : s.check transaction with
    | error error =>
      rw [Session.finish_misplaced requested checked, Session.finish_misplaced requested' checked]
      exact .intro _ (.intro _ h)
    | ok passed =>
      rw [Session.finish_done requested checked, Session.finish_done requested' checked]
      exact .intro _ (.intro _ (h.record _))

end Backend.Alike

end SqlDriver
