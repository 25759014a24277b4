import SqlDriver.Proofs.Connection.Control

/-!
The settings of connections. A connection with an open transaction does not commit its statements at
once, and its settings are in the mode in which the transaction was begun, whether by request or by
a statement. No call changes them until the transaction is left, and leaving it does not change them
either, but for turning on automatic committing.
-/

namespace SqlDriver

/-! ## The settings of an open transaction -/

/-- A connection with an open transaction does not commit at once, and its settings are in the mode
that the transaction was begun in. -/
def Connection.State.Settled (openings : List (TransactionId × TransactionMode))
    (state : Connection.State) : Prop :=
  ∀ transaction session settings, state = .inside transaction session settings →
    settings.autoCommit = false ∧ (transaction, settings.mode) ∈ openings

/-- Outside a transaction there is nothing that its settings must agree with. -/
theorem Connection.State.settled_of_not_inside {state : Connection.State}
    (outside : state.isInside = false) (openings : List (TransactionId × TransactionMode)) :
    state.Settled openings := by
  rintro transaction session settings rfl
  cases outside

/-- More transactions that are begun elsewhere leave the open one as it was begun. -/
theorem Connection.State.Settled.grow {openings more : List (TransactionId × TransactionMode)}
    {state : Connection.State} (settled : state.Settled openings) (grown : openings <+: more) :
    state.Settled more := by
  intro transaction session settings inside
  obtain ⟨manual, begun⟩ := settled transaction session settings inside
  exact ⟨manual, grown.subset begun⟩

/-- A connection and its backend, where some transactions had been begun `before`. -/
structure Connection.InStep (refusals : List (CallKind × Status))
    (before : List (TransactionId × TransactionMode)) (c : Connection) (b : Backend) : Prop where
  accords : Connection.Accords refusals c b
  numbered : Journal.Numbered b.journal
  kept : before <+: Journal.openings b.journal
  settled : c.state.Settled (Journal.openings b.journal)

namespace Connection.InStep

variable {refusals : List (CallKind × Status)} {before : List (TransactionId × TransactionMode)}
  {c c' : Connection} {b b' : Backend} {controls : List TransactionControl}
  {openings : List (TransactionId × TransactionMode)}

/-- What is logged keeps a connection in step whose new state is settled. The other parts of being
in step speak of what is added to the journal, which is known here. -/
theorem logs (h : Connection.InStep refusals before c b) (logs : b.Logs controls openings b')
    (accords : Connection.Accords refusals c' b')
    (settled : c'.state.Settled (Journal.openings b'.journal)) :
    Connection.InStep refusals before c' b' where
  accords := accords
  numbered := logs.numbered h.numbered
  kept := by
    rw [logs.openings]
    exact h.kept.trans (List.prefix_append _ _)
  settled := settled

/-- A call that leaves the state as it was, and begins nothing, keeps the connection in step. -/
theorem same (h : Connection.InStep refusals before c b) (logs : b.Logs controls openings b')
    (accords : Connection.Accords refusals c' b') (same : c'.state = c.state) :
    Connection.InStep refusals before c' b' := by
  refine h.logs logs accords ?_
  rw [same, logs.openings]
  exact h.settled.grow (List.prefix_append _ _)

/-- A call that leaves the transaction keeps the connection in step. -/
theorem left (h : Connection.InStep refusals before c b) (logs : b.Logs controls openings b')
    (accords : Connection.Accords refusals c' b') (outside : c'.state.isInside = false) :
    Connection.InStep refusals before c' b' :=
  h.logs logs accords (Connection.State.settled_of_not_inside outside _)

/-- A call that begins a transaction in the mode of the settings keeps the connection in step. -/
theorem opened (h : Connection.InStep refusals before c b) {transaction : TransactionId}
    {session : Session} {settings : TransactionSettings}
    (logs : b.Logs controls [(transaction, settings.mode)] b')
    (accords : Connection.Accords refusals c' b')
    (opens : c'.state = .inside transaction session settings)
    (manual : settings.autoCommit = false) : Connection.InStep refusals before c' b' := by
  refine h.logs logs accords ?_
  intro transaction' session' settings' inside
  cases opens.symm.trans inside
  refine ⟨manual, ?_⟩
  rw [logs.openings]
  exact List.mem_append_right _ (List.mem_singleton_self _)

/-- A data statement starts a transaction in the mode that the settings say at that moment, or goes
on with the open one, whose mode is not changed. -/
theorem executesOne {text : String} {parameters : NamedValues}
    {out : Outcome QueryResult × Connection × Backend}
    (h : Connection.InStep refusals before c b) (executes : c.ExecutesOne b text parameters out) :
    Connection.InStep refusals before out.2.1 out.2.2 := by
  have accords := (h.accords.executesOne executes).1
  have runs := executes.runsRow h.accords.1
  cases runs with
  | unaccepted unfinished same logs => exact h.same logs accords same
  | unfinished unfinished same said logs => exact h.same logs accords same
  | resumed state same logs => exact h.same logs accords same
  | committed state automatic same logs => exact h.same logs accords same
  | opened state manual opens logs => exact h.opened logs accords opens manual

theorem runsSchema {text : String} {out : Outcome Unit × Backend}
    (h : Connection.InStep refusals before c b) (runs : c.config.RunsSchema b text out) :
    Connection.InStep refusals before c out.2 := by
  have accords := (h.accords.runsSchema runs).1
  cases runs with
  | unserved error requested => exact h.same (.requests requested) accords rfl
  | refused error requested runs =>
    exact h.same ((requested.logs_serve.after runs.logs).quiet (.release _ _)) accords rfl
  | done requested runs =>
    exact h.same ((requested.logs_serve.after runs.logs).quiet (.release _ _)) accords rfl

theorem begins {settings : TransactionSettings} {out : Outcome Unit × Connection × Backend}
    (h : Connection.InStep refusals before c b) (begins : c.Begins b settings out) :
    Connection.InStep refusals before out.2.1 out.2.2 := by
  have accords := (h.accords.begins begins).1
  cases begins with
  | closed state => exact h
  | already isInside => exact h
  | unserved error requested => exact h.same (.requests requested) accords rfl
  | refused error state requested begins =>
    have logs := requested.logs_serve.after begins.logs_refused
    exact h.same (logs.quiet (.release _ _)) accords rfl
  | @done b₁ b₂ session old transaction state requested begins =>
    have begun : b.Logs [] [(transaction, (settings.withAutoCommit false).mode)] b₂ :=
      requested.logs_serve.after begins.logs
    exact h.opened begun accords rfl rfl

/-- A transaction that the backend refuses to end stays open as it was. -/
theorem finishes {ending : Ending} {out : Outcome Unit × Connection × Backend}
    (h : Connection.InStep refusals before c b) (finishes : c.Finishes b ending out) :
    Connection.InStep refusals before out.2.1 out.2.2 := by
  have accords := (h.accords.finishes finishes).1
  have atomic := Connection.Atomic.finishes finishes
  cases finishes with
  | givenUp waits => exact h.same waits.logs accords waits.state
  | nothingOpen waits state => exact h.left waits.logs accords state
  | refused error waits state finishes =>
    rcases atomic with done | same
    · cases done
    · exact h.same (waits.logs.after finishes.logs) accords same
  | done waits state finishes =>
    exact h.left ((waits.logs.after finishes.logs).quiet (.release _ _)) accords rfl

theorem forceCloses {out : Outcome Unit × Connection × Backend}
    (h : Connection.InStep refusals before c b) (closes : c.ForceCloses b out) :
    Connection.InStep refusals before out.2.1 out.2.2 := by
  have accords := (h.accords.forceCloses closes).1
  cases closes with
  | givenUp waits => exact h.same waits.logs accords waits.state
  | nothingOpen waits state => exact h.left waits.logs accords rfl
  | rolledBack answer waits state finishes =>
    exact h.left ((waits.logs.after finishes.logs).quiet (.release _ _)) accords rfl

end Connection.InStep

/-- Every call keeps a connection in step, so the mode that a transaction was begun in is that of
the settings that the connection holds for it. -/
theorem Connection.law_inStep (refusals : List (CallKind × Status))
    (before : List (TransactionId × TransactionMode)) :
    Connection.Law (Connection.InStep refusals before) fun _ => True where
  unreported h := h.accords.2.unreported
  executesOne h executes := ⟨h.executesOne executes, fun _ _ => trivial⟩
  runsSchema h runs := ⟨h.runsSchema runs, fun _ _ => trivial⟩
  begins h begins := ⟨h.begins begins, fun _ _ => trivial⟩
  finishes h finishes := ⟨h.finishes finishes, fun _ _ => trivial⟩
  forceCloses h closes := ⟨h.forceCloses closes, fun _ _ => trivial⟩
  idle h inside outside :=
    h.left (.refl _) ((Connection.law_accords refusals).idle h.accords inside outside) outside
  setQueryTimeout _ h := h.same (.refl _) h.accords rfl

/-! ## Calls -/

/-- The state is kept, or no transaction is open any more. -/
def Connection.State.Keeps (state next : Connection.State) : Prop :=
  next = state ∨ next.isInside = false

section

variable (c : Connection) (b : Backend) (patience : Patience)

end

namespace Connection.Records

variable {α : Type} {count : Nat} {c : Connection} {b : Backend}
  {out : Outcome α × Connection × Backend}

/-- Whether a transaction is open after data statements that succeed. -/
theorem isInside (records : Connection.Records count c b out) (some : count ≠ 0)
    (done : out.1.isDone = true) : out.2.1.state.isInside = c.state.staysOpen := by
  obtain ⟨front, tail, -, succeeds, -, all⟩ := records
  obtain ⟨-, each⟩ := all done
  refine succeeds.isInside ?_
  rintro rfl
  exact some each.symm

/-- Data statements in an open transaction leave the state as it is, whether they succeed or not. -/
theorem keeps (records : Connection.Records count c b out) (inside : c.state.isInside = true) :
    c.state.Keeps out.2.1.state := by
  obtain ⟨front, tail, -, succeeds, -⟩ := records
  cases state : c.state with
  | inside transaction session settings =>
    rw [state] at succeeds
    exact Or.inl succeeds.of_inside
  | outside settings =>
    rw [state] at inside
    cases inside
  | closed =>
    rw [state] at inside
    cases inside

end Connection.Records

section

variable {refusals : List (CallKind × Status)} {c : Connection} {b : Backend}
  (accords : Connection.Accords refusals c b) (patience : Patience)

include accords

end

end SqlDriver
