import SqlDriver.Proofs.Backend.Alike
import SqlDriver.Proofs.Backend.Prospect
import SqlDriver.Proofs.Connection.Laws

/-!
Statements that are given up. A statement that was accepted has the same lasting effect whether its
call is given up and its stream goes on in the background, or the call takes the stream in to its
end: with what is still owed, the two backends come to the same. They differ in what becomes of a
session that the statement got for itself. A call that comes to its end without error decides
whether the session is kept; otherwise it is given back.
-/

namespace SqlDriver

/-! ## What taking in a stream comes to -/

/-- What came back with the contents of a stream. -/
def Collected.kept : Collected → Option Guard
  | .complete _ kept => kept
  | _ => none

/-- After an error a stream that is brought to its end, or left to the background, owes what it did,
with the guard that is dropped in the end. -/
theorem Relay.Failing.prospect {guard : Guard} {error : BackendError} {script : Script Mark Reply}
    {b : Backend} {patience : Patience} {out : Collected × Backend × Patience}
    (failing : Relay.Failing guard error script b patience out) :
    out.1.kept = none ∧
      out.2.1.prospect = b.prospect + Script.owes script + Guard.owes (some guard) := by
  induction failing with
  | @ended script b b' drained patience =>
    have drains := b.prospect_drain script
    rw [drained, Option.elim_none, add_zero] at drains
    rw [← drains]
    exact ⟨rfl, b'.prospect_dropGuard (some guard)⟩
  | @givenUp script rest b b' drained =>
    have drains := b.prospect_drain script
    rw [drained, Option.elim_some] at drains
    rw [← drains]
    exact ⟨rfl, b'.prospect_leave rest (some guard)⟩
  | @resumed script rest b b' stirs patience out drained later ih =>
    have drains := b.prospect_drain script
    rw [drained, Option.elim_some] at drains
    rw [← drains, ← b'.prospect_stirAll stirs]
    exact ih

/-- However a stream is taken in, it owes what it did; only what comes back with its contents is not
given back. -/
theorem Relay.Collecting.prospect {guard : Guard} {script : Script Mark Reply}
    {contents : StreamContents} {b : Backend} {patience : Patience}
    {out : Collected × Backend × Patience}
    (collecting : Relay.Collecting guard script contents b patience out) :
    out.2.1.prospect + Guard.owes out.1.kept =
      b.prospect + Script.owes script + Guard.owes (some guard) := by
  have polls : ∀ {script : Script Mark Reply} {b : Backend} {polled rest b'},
      Script.poll script b = (polled, rest, b') →
        b'.prospect + Script.owes rest = b.prospect + Script.owes script := by
    intro script b polled rest b' pulled
    have polls := b.prospect_poll script
    rwa [pulled] at polls
  induction collecting with
  | event polled later ih =>
    rw [← polls polled]
    exact ih
  | error polled failing contents =>
    obtain ⟨none, owes⟩ := failing.prospect
    rw [← polls polled, none]
    exact (add_zero _).trans owes
  | ended polled contents patience =>
    obtain rfl := Script.rest_of_ended polled
    rw [← polls polled]
    exact congrArg (· + _) (add_zero _).symm
  | @givenUp script rest b b' polled contents =>
    rw [← polls polled]
    exact (add_zero _).trans (b'.prospect_leave rest (some guard))
  | @resumed script rest contents b b' stirs patience out polled later ih =>
    rw [← polls polled, ← b'.prospect_stirAll stirs]
    exact ih

/-- However a stream is taken in, what it leaves at the backend is work of streams. -/
theorem Relay.Collects.streamWork {start : Backend} {stream : Nat} {guard : Guard}
    {items : List Reply} {contents : StreamContents} {out : Collected × Backend}
    (collects : Relay.Collects start stream guard items contents out) :
    start.StreamWork out.2 := by
  cases collects with
  | complete idles events all => exact idles.streamWork.trans (.record _ rfl)
  | failed idles events error others first =>
    exact (idles.streamWork.trans (.record _ rfl)).trans (.dropKept _ guard)
  | cancelled idles rest finishing => exact idles.streamWork.trans (.setBackground _ _)

/-- However the stream of a statement is taken in twice over, with different patience, the two come
to the same, but for what comes back with the contents. -/
theorem Mark.collects_twice (stream : Nat) (opened : Option TransactionId) (count : Nat)
    (parameters : NamedValues) (failure : Option Status) (guard : Guard) (b : Backend)
    (patience more : Patience) :
    let script := Mark.stream stream (ResultEvent.all opened count parameters) failure
    let run := Relay.collect ⟨some script, some guard, false, false⟩ .empty b patience
    let run' := Relay.collect ⟨some script, some guard, false, false⟩ .empty b more
    Collected.Of opened count parameters failure guard run.1 ∧
      Collected.Of opened count parameters failure guard run'.1 ∧
      (run.1.kept = none → run.2.1.Converge run'.2.1 (Guard.owes run'.1.kept)) := by
  intro script run run'
  have finishing := Mark.finish?_stream stream (ResultEvent.all opened count parameters) failure
  have collects : Relay.Collects b stream guard (Script.items script) .empty (run.1, run.2.1) :=
    Relay.collects finishing .refl .empty patience
  have collects' : Relay.Collects b stream guard (Script.items script) .empty (run'.1, run'.2.1) :=
    Relay.collects finishing .refl .empty more
  have owes := (Relay.collecting script guard .empty b patience).prospect
  have owes' := (Relay.collecting script guard .empty b more).prospect
  refine ⟨collects.of_stream, collects'.of_stream, fun none => ?_⟩
  have work := collects.streamWork
  have work' := collects'.streamWork
  exact {
    prospect := by
      rw [owes', ← owes, none]
      exact (add_zero _).symm
    calls := work.asOfCalls.trans work'.asOfCalls.symm
    injections := work.injections.trans work'.injections.symm
    resultSets := work.resultSets.trans work'.resultSets.symm
    reports := work.reports.trans work'.reports.symm }

/-! ## A statement that was accepted -/

/-- How a call that was given up after its statement was accepted, on a connection in a state,
compares with how the call comes out with more patience. -/
inductive Connection.Compares (state : Connection.State) (c₁ : Connection) (b₁ : Backend) :
    Outcome QueryResult × Connection × Backend → Prop
  /-- Both come to the same. -/
  | same {b₂ : Backend} (outcome : Outcome QueryResult)
      (fails : ∀ error, outcome = .failed error →
        ∃ status, error = .backend ⟨status, .injectedStream⟩)
      (ended : outcome.isDone = true → ∀ settings, state = .outside settings →
        settings.autoCommit = true)
      (converge : b₁.Converge b₂ 0) : Connection.Compares state c₁ b₁ (outcome, c₁, b₂)
  /-- With more patience the connection keeps the session, and the transaction open on it. -/
  | kept {b₂ : Backend} (result : QueryResult) (transaction : TransactionId) (session : Session)
      (settings : TransactionSettings) (before : state = .outside settings)
      (after : c₁.state = .outside settings) (manual : settings.autoCommit = false)
      (fits : session.openTransaction = some transaction)
      (converge : b₁.Converge b₂ {.released session.number}) :
      Connection.Compares state c₁ b₁
        (.done result, { c₁ with state := .inside transaction session settings }, b₂)

section

variable {state : Connection.State} {c₁ : Connection} {b₁ b₂ : Backend}

theorem Connection.Compares.done (result : QueryResult)
    (ended : ∀ settings, state = .outside settings → settings.autoCommit = true)
    (converge : b₁.Converge b₂ 0) : Connection.Compares state c₁ b₁ (.done result, c₁, b₂) :=
  .same _ (by rintro error ⟨⟩) (fun _ => ended) converge

theorem Connection.Compares.failed (status : Status) (converge : b₁.Converge b₂ 0) :
    Connection.Compares state c₁ b₁ (.failed (.backend ⟨status, .injectedStream⟩), c₁, b₂) :=
  .same _ (by rintro error ⟨⟩; exact ⟨status, rfl⟩) (by intro done; cases done) converge

theorem Connection.Compares.cancelled (converge : b₁.Converge b₂ 0) :
    Connection.Compares state c₁ b₁ (.cancelled, c₁, b₂) :=
  .same _ (by rintro error ⟨⟩) (by intro done; cases done) converge

end

/-- A statement that goes on with a transaction leaves it open, so the connection stays inside
unless its stream reports otherwise. -/
theorem Session.opens_resume {s : Session} {b : Backend} {transaction : TransactionId}
    {opened : Option TransactionId} (opens : s.opens b (.resume transaction false) = .ok opened) :
    opened = some transaction := by
  rw [Session.opens] at opens
  cases checked : s.check transaction with
  | error error =>
    rw [checked] at opens
    cases opens
  | ok passed =>
    rw [checked] at opens
    cases opens
    rfl

section Accepted

variable {c c₁ : Connection} {b b₁ : Backend} {patience left : Patience} {text : String}
  {parameters : NamedValues}

/-- A statement in an open transaction that was given up comes to what it comes to with more
patience: the connection is inside in either case, with the session that it had. -/
theorem Connection.executeInside_compares (unreported : b.reports = [])
    {transaction : TransactionId} {session : Session} {settings : TransactionSettings}
    (inside : c.state = .inside transaction session settings)
    (gaveUp : c.executeInside b patience transaction session settings text parameters =
      (.cancelled, c₁, b₁, left)) (more : Patience) :
    let run := c.executeInside b more transaction session settings text parameters
    Connection.Compares c.state c₁ b₁ (run.1, run.2.1, run.2.2.1) := by
  have runs := session.runsData unreported text (.resume transaction false) parameters
    c.config.queryTimeout
  rw [inside]
  rw [Connection.executeInside] at gaveUp ⊢
  generalize session.runData b text _ parameters _ = result at runs gaveUp
  cases runs with
  | refused error requested => cases gaveUp
  | misplaced error requested checked => cases gaveUp
  | @started b' opened failure consulting requested opens consulted =>
    obtain rfl := Session.opens_resume opens
    obtain ⟨came, came', converge⟩ := Mark.collects_twice (Journal.dataStatements b'.journal)
      (some transaction) b'.resultSets parameters failure
      (.sign (Journal.dataStatements b'.journal)) (b'.accept text (.resume transaction false)
        session.number (some transaction) consulting) patience more
    simp only [ResultStream.collect, Relay.wrap, Backend.accept] at gaveUp came came' converge ⊢
    generalize Relay.collect _ _ (_ : Backend) patience = run at gaveUp came converge
    generalize Relay.collect _ _ (_ : Backend) more = run' at came' converge
    obtain ⟨collected, b'', left'⟩ := run
    obtain ⟨collected', b₂, left₂⟩ := run'
    cases came with
    | complete unfailing => cases gaveUp
    | failed status set => cases gaveUp
    | cancelled =>
      cases gaveUp
      cases came' with
      | complete unfailing => exact .done _ (by rintro settings ⟨⟩) (converge rfl)
      | failed status set => exact .failed status (converge rfl)
      | cancelled => exact .cancelled (converge rfl)

/-- A statement outside a transaction that was given up comes to what it comes to with more
patience, but for the session that the call would have kept with the transaction left open on it. -/
theorem Connection.executeOutside_compares (unreported : b.reports = [])
    {settings : TransactionSettings} (outside : c.state = .outside settings)
    (gaveUp : c.executeOutside b patience settings text parameters = (.cancelled, c₁, b₁, left))
    (more : Patience) :
    let run := c.executeOutside b more settings text parameters
    Connection.Compares c.state c₁ b₁ (run.1, run.2.1, run.2.2.1) := by
  have acquires := b.acquires c.config.sessionTimeout
  rw [Connection.executeOutside, Config.runData] at gaveUp ⊢
  generalize b.acquire c.config.sessionTimeout = acquired at acquires gaveUp
  cases acquires with
  | refused error requested => cases gaveUp
  | @granted b₀ requested =>
    have unreported' : b₀.serve.reports = [] := requested.reports.trans unreported
    have runs := b₀.nextSession.runsData unreported' text
      (.start settings.mode settings.autoCommit) parameters c.config.queryTimeout
    simp only at gaveUp ⊢
    generalize b₀.nextSession.runData b₀.serve text _ parameters _ = result at runs gaveUp
    cases runs with
    | refused error requested => cases gaveUp
    | misplaced error requested checked => cases gaveUp
    | @started b' opened failure consulting requested opens consulted =>
      obtain ⟨came, came', converge⟩ := Mark.collects_twice (Journal.dataStatements b'.journal)
        opened b'.resultSets parameters failure
        (.lease { b₀.nextSession with openTransaction := opened }) (b'.accept text
          (.start settings.mode settings.autoCommit) b₀.nextSession.number opened consulting)
        patience more
      simp only [ResultStream.collectWith, Relay.wrap, Backend.accept]
        at gaveUp came came' converge ⊢
      generalize Relay.collect _ _ (_ : Backend) patience = run at gaveUp came converge
      generalize Relay.collect _ _ (_ : Backend) more = run' at came' converge
      obtain ⟨collected, b'', left'⟩ := run
      obtain ⟨collected', b₂, left₂⟩ := run'
      cases came with
      | complete unfailing => cases opened <;> cases gaveUp
      | failed status set => cases gaveUp
      | cancelled =>
        cases gaveUp
        cases came' with
        | complete unfailing =>
          -- Whether a transaction is left open is settled by what the statement was to do.
          cases manual : settings.autoCommit with
          | true =>
            rw [manual] at opens
            cases opens
            refine .done _ ?_ (converge rfl).release
            intro settings' same
            cases outside.symm.trans same
            exact manual
          | false =>
            rw [manual] at opens
            cases opens
            exact .kept _ _ _ settings outside outside manual rfl (converge rfl)
        | failed status set => exact .failed status (converge rfl)
        | cancelled => exact .cancelled (converge rfl)

/-- With more patience a wait that was over is over as soon, and what was not used is left with what
was added. -/
theorem Connection.awaitDrain_append {c' : Connection} {b' : Backend}
    (drained : c.awaitDrain b patience = (true, c', b', left)) (more : Patience) :
    c.awaitDrain b (patience ++ more) = (true, c', b', left ++ more) := by
  induction patience generalizing b with
  | nil =>
    rw [Connection.awaitDrain] at drained
    split at drained
    · cases drained
    · rename_i settled
      cases drained
      cases more <;> exact if_neg settled
  | cons stirs patience ih =>
    rw [Connection.awaitDrain] at drained
    rw [List.cons_append, Connection.awaitDrain]
    split at drained
    · rename_i draining
      rw [if_pos draining]
      exact ih drained
    · rename_i settled
      cases drained
      exact if_neg settled

/-- A call that was given up after its statement was accepted was not given up while it waited for
an earlier stream. -/
theorem Connection.drained_of_accepted
    (gaveUp : c.executeOne b patience text parameters = (.cancelled, c₁, b₁, left))
    (accepted : Journal.dataStatements b.journal < Journal.dataStatements b₁.journal) :
    ∃ c' b' left', c.awaitDrain b patience = (true, c', b', left') := by
  have waits := c.awaitsDrain b patience
  rw [Connection.executeOne] at gaveUp
  generalize c.awaitDrain b patience = wait at waits gaveUp
  obtain ⟨drained, c', b', left'⟩ := wait
  cases drained with
  | true => exact ⟨c', b', left', rfl⟩
  | false =>
    cases gaveUp
    cases waits with
    | givenUp idles =>
      rw [idles.streamWork.dataStatements] at accepted
      exact (Nat.lt_irrefl _ accepted).elim

/-- A data statement that was given up after it was accepted compares with how it comes out with
more patience, whatever the state of the connection was. -/
theorem Connection.executeOne_compares (unreported : b.reports = [])
    (gaveUp : c.executeOne b patience text parameters = (.cancelled, c₁, b₁, left))
    (accepted : Journal.dataStatements b.journal < Journal.dataStatements b₁.journal)
    (more : Patience) :
    let run := c.executeOne b (patience ++ more) text parameters
    Connection.Compares c.state c₁ b₁ (run.1, run.2.1, run.2.2.1) := by
  obtain ⟨c', b', left', drained⟩ := Connection.drained_of_accepted gaveUp accepted
  have waits := c.awaitsDrain b patience
  rw [Connection.executeOne, drained] at gaveUp
  rw [Connection.executeOne, Connection.awaitDrain_append drained more]
  rw [drained] at waits
  have unreported' : b'.reports = [] := waits.reports.trans unreported
  rw [← waits.state]
  simp only at gaveUp ⊢
  cases state : c'.state with
  | closed =>
    rw [state] at gaveUp
    cases gaveUp
  | inside transaction session settings =>
    rw [state] at gaveUp
    have compares := Connection.executeInside_compares unreported' state gaveUp (left' ++ more)
    rwa [state] at compares
  | outside settings =>
    rw [state] at gaveUp
    have compares := Connection.executeOutside_compares unreported' state gaveUp (left' ++ more)
    rwa [state] at compares

end Accepted

/-! ## When the gate is opened at last -/

section

variable {guard : Guard} {script : Script Mark Reply} {b : Backend} {patience : Patience}
  {out : Collected × Backend × Patience}

/-- While the gate is open, a stream is brought to its end at once after an error, so the call fails
with that error and is not given up. -/
theorem Relay.Failing.of_gateOpen {error : BackendError}
    (failing : Relay.Failing guard error script b patience out) (gate : b.gateOpen = true) :
    out.1 = .failed error := by
  have unheld := (Script.drain_of_gateOpen script gate).1
  cases failing with
  | ended drained patience => rfl
  | givenUp drained =>
    rw [drained] at unheld
    cases unheld
  | resumed drained later =>
    rw [drained] at unheld
    cases unheld

/-- A call that opens the gate when its patience has run out is not given up after an error: from
then on nothing holds the stream. -/
theorem Relay.Failing.openGate {error : BackendError} {before : Patience}
    (failing : Relay.Failing guard error script b patience out)
    (last : patience = before ++ [[.openGate]]) : out.1 = .failed error := by
  induction failing generalizing before with
  | ended drained patience => rfl
  | givenUp drained => cases before <;> cases last
  | @resumed script rest b b' stirs patience out drained later ih =>
    cases before with
    | nil =>
      cases last
      exact later.of_gateOpen (b := b'.openGate) rfl
    | cons stirs before => exact ih (List.cons.inj last).2

/-- While the gate is open, a call that takes a stream in is not given up, since no pull is held. -/
theorem Relay.Collecting.of_gateOpen {contents : StreamContents}
    (collecting : Relay.Collecting guard script contents b patience out)
    (gate : b.gateOpen = true) : out.1 ≠ .cancelled := by
  induction collecting with
  | @event script rest contents b b' patience event out polled later ih =>
    exact ih ((Script.gateOpen_poll polled).trans gate)
  | @error script rest b b' patience error out polled failing contents =>
    rw [failing.of_gateOpen ((Script.gateOpen_poll polled).trans gate)]
    simp
  | ended polled contents patience => simp
  | @givenUp script rest b b' polled contents =>
    exact absurd polled (Script.poll_ne_stalled gate)
  | @resumed script rest contents b b' stirs patience out polled later ih =>
    exact absurd polled (Script.poll_ne_stalled gate)

/-- A call that opens the gate when its patience has run out is not given up. The induction is on
the pulls; the one round that matters is the last, in which the gate is opened. -/
theorem Relay.Collecting.openGate {contents : StreamContents} {before : Patience}
    (collecting : Relay.Collecting guard script contents b patience out)
    (last : patience = before ++ [[.openGate]]) : out.1 ≠ .cancelled := by
  induction collecting generalizing before with
  | event polled later ih => exact ih last
  | error polled failing contents =>
    rw [failing.openGate last]
    simp
  | ended polled contents patience => simp
  | givenUp polled contents => cases before <;> cases last
  | @resumed script rest contents b b' stirs patience out polled later ih =>
    cases before with
    | nil =>
      cases last
      exact later.of_gateOpen (b := b'.openGate) rfl
    | cons stirs before => exact ih (List.cons.inj last).2

end

/-- Taking in a stream comes to its end when the gate is opened in place of giving the call up. -/
theorem Relay.collect_openGate (script : Script Mark Reply) (guard : Guard)
    (contents : StreamContents) (b : Backend) (patience : Patience) :
    (Relay.collect ⟨some script, some guard, false, false⟩ contents b
      (patience ++ [[.openGate]])).1 ≠ .cancelled :=
  (Relay.collecting script guard contents b _).openGate rfl

theorem Outcome.done_ne_cancelled {α : Type} (value : α) : Outcome.done value ≠ .cancelled := by
  intro same
  cases same

theorem Outcome.failed_ne_cancelled {α : Type} (error : DriverError) :
    (.failed error : Outcome α) ≠ .cancelled := by
  intro same
  cases same

/-- Inside a transaction a statement comes to its end when the gate is opened at last. -/
theorem Connection.executeInside_openGate (c : Connection) (b : Backend) (patience : Patience)
    (transaction : TransactionId) (session : Session) (settings : TransactionSettings)
    (text : String) (parameters : NamedValues) :
    (c.executeInside b (patience ++ [[.openGate]]) transaction session settings text
      parameters).1 ≠ .cancelled := by
  rw [Connection.executeInside]
  generalize session.runData b text _ parameters _ = started
  obtain ⟨answer, session', b'⟩ := started
  cases answer with
  | error error => exact Outcome.failed_ne_cancelled _
  | ok stream =>
    have finishes := Relay.collect_openGate stream.script (.sign stream.number) .empty b' patience
    simp only [ResultStream.collect, Relay.wrap]
    generalize Relay.collect _ _ (_ : Backend) _ = run at finishes
    obtain ⟨collected, b'', left⟩ := run
    cases collected with
    | cancelled => exact (finishes rfl).elim
    | complete contents kept => exact Outcome.done_ne_cancelled _
    | failed error => exact Outcome.failed_ne_cancelled _

/-- Outside a transaction a statement comes to its end when the gate is opened at last, whether its
session comes back or not. -/
theorem Connection.executeOutside_openGate (c : Connection) (b : Backend) (patience : Patience)
    (settings : TransactionSettings) (text : String) (parameters : NamedValues) :
    (c.executeOutside b (patience ++ [[.openGate]]) settings text parameters).1 ≠ .cancelled := by
  rw [Connection.executeOutside, Config.runData]
  generalize b.acquire c.config.sessionTimeout = acquired
  obtain ⟨answer, b'⟩ := acquired
  cases answer with
  | error error => exact Outcome.failed_ne_cancelled _
  | ok session =>
    simp only
    generalize session.runData b' text _ parameters _ = started
    obtain ⟨answer, session', b''⟩ := started
    cases answer with
    | error error => exact Outcome.failed_ne_cancelled _
    | ok stream =>
      have finishes := Relay.collect_openGate stream.script (.lease session') .empty b'' patience
      simp only [ResultStream.collectWith, Relay.wrap]
      generalize Relay.collect _ _ (_ : Backend) _ = run at finishes
      obtain ⟨collected, b₂, left⟩ := run
      cases collected with
      | cancelled => exact (finishes rfl).elim
      | failed error => exact Outcome.failed_ne_cancelled _
      | complete contents kept =>
        cases kept with
        | none => exact Outcome.failed_ne_cancelled _
        | some guard =>
          cases guard with
          | lease session =>
            simp only
            split <;> exact Outcome.done_ne_cancelled _
          | sign stream => exact Outcome.failed_ne_cancelled _
          | nothing => exact Outcome.failed_ne_cancelled _

/-- A call whose statement was accepted comes to its end when the gate is opened in place of giving
the call up. -/
theorem Connection.executeOne_openGate {c c₁ : Connection} {b b₁ : Backend}
    {patience left : Patience} {text : String} {parameters : NamedValues}
    (gaveUp : c.executeOne b patience text parameters = (.cancelled, c₁, b₁, left))
    (accepted : Journal.dataStatements b.journal < Journal.dataStatements b₁.journal) :
    (c.executeOne b (patience ++ [[.openGate]]) text parameters).1 ≠ .cancelled := by
  obtain ⟨c', b', left', drained⟩ := Connection.drained_of_accepted gaveUp accepted
  rw [Connection.executeOne, Connection.awaitDrain_append drained]
  simp only
  cases c'.state with
  | inside transaction session settings =>
    exact c'.executeInside_openGate b' left' transaction session settings text parameters
  | outside settings => exact c'.executeOutside_openGate b' left' settings text parameters
  | closed => exact Outcome.failed_ne_cancelled _

/-! ## One row -/

/-- A call for at most one row runs one statement. -/
theorem Connection.perform_single {c : Connection} (usable : c.state.isClosed = false)
    {rows : List NamedValues} (single : rows.length ≤ 1) (b : Backend) (patience : Patience)
    (descriptor : Descriptor) :
    c.perform b patience (.data descriptor rows) =
      let run := c.executeOne b patience descriptor.canonical (rows.headD [])
      (run.1.map fun result => .results [result], run.2) := by
  have maps : ∀ outcome : Outcome QueryResult, (outcome.map ([·])).map Response.results =
      outcome.map fun result => .results [result] := by
    intro outcome
    cases outcome <;> rfl
  match rows, single with
  | [], _ | [_], _ => simp [Connection.perform, Connection.executeData, usable, maps]

/-- A statement that is not given up succeeds, or fails with what was set for its stream. Refusals
of other requests are met before the statement is accepted. -/
theorem Connection.Compares.finishes {state : Connection.State} {c₁ c₂ : Connection}
    {b₁ b₂ : Backend} {answer : Outcome QueryResult} {f : QueryResult → Response}
    (compares : Connection.Compares state c₁ b₁ (answer, c₂, b₂))
    (finished : answer.map f ≠ .cancelled) :
    (answer.map f).isDone = true ∨
      ∃ status, answer.map f = .failed (.backend ⟨status, .injectedStream⟩) := by
  cases compares with
  | kept => exact Or.inl rfl
  | same outcome fails ended converge =>
    cases answer with
    | done result => exact Or.inl rfl
    | cancelled => exact (finished rfl).elim
    | failed error =>
      obtain ⟨status, rfl⟩ := fails error rfl
      exact Or.inr ⟨status, rfl⟩

end SqlDriver
