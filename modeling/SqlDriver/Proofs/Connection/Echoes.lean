import SqlDriver.Proofs.Connection.Batches
import SqlDriver.Proofs.Connection.Closing
import SqlDriver.Proofs.Connection.Custody
import SqlDriver.Proofs.Connection.Watching

/-!
Statements that nothing hinders. While the gate is open and no refusal is set, a backend does what
it is asked to, and nothing holds a stream; so a data statement on an open connection comes to its
end and answers with the values of its parameters. It leaves connection and backend so that the next
one is not hindered either, and a batch gets all its rows through.
-/

namespace SqlDriver

/-! ## Unhindered backends -/

theorem Backend.record_eq (b : Backend) (entry : Entry) : b.record entry = b.extend [entry] := rfl

/-- The gate is open, nothing is to be refused or reported otherwise, and every sign in the
background is one of a stream that was started. -/
structure Backend.Unhindered (b : Backend) : Prop where
  gate : b.gateOpen = true
  untold : b.injections = []
  unreported : b.reports = []
  signs : ∀ task ∈ b.background, ∀ stream, task.drain.guard = some (.sign stream) →
    stream < Journal.dataStatements b.journal

namespace Backend.Unhindered

variable {b : Backend}

theorem extend (h : b.Unhindered) (entries : Journal) : (b.extend entries).Unhindered where
  gate := h.gate
  untold := h.untold
  unreported := h.unreported
  signs := by
    intro task member stream signed
    have started := h.signs task member stream signed
    rw [Backend.extend, Journal.dataStatements, List.countP_append]
    exact Nat.lt_add_right _ started

/-- The stream that is started next has no sign yet, as signs are numbers of streams that were
started before. -/
theorem hasSign_next (h : b.Unhindered) :
    b.hasSign (Journal.dataStatements b.journal) = false := by
  rw [Backend.hasSign, List.any_eq_false]
  intro task member signed
  exact Nat.lt_irrefl _ (h.signs task member _ (of_decide_eq_true signed))

theorem consult (h : b.Unhindered) (call : CallKind) : b.consult call = (none, b) := by
  rw [Backend.consult, h.untold]
  simp only [Injection.consult, ← h.untold]

/-- While nothing hinders it, every request is granted. -/
theorem request (h : b.Unhindered) (call : CallKind) (session : Option Nat) (deadline : Duration) :
    b.request call session deadline = (.ok (), b.extend [.requested call session deadline]) := by
  rw [Backend.request, Backend.record_eq, (h.extend _).consult]

theorem acquire (h : b.Unhindered) (deadline : Duration) :
    let asked := b.extend [.requested .acquire none deadline]
    b.acquire deadline =
      (.ok asked.nextSession, asked.extend [.acquired asked.nextSession.number]) := by
  rw [Backend.acquire, h.request]
  rfl

/-- A data statement that may run on its session is started, with a stream of its own that ends
without an error and reports what it came to. -/
theorem runData (h : b.Unhindered) {s : Session} {text : String} {control : TransactionControl}
    {deadline : Duration} {opened : Option TransactionId}
    (opens : s.opens (b.extend [.requested .dataStatement s.number deadline]) control = .ok opened)
    (parameters : NamedValues) :
    s.runData b text control parameters deadline =
      (.ok ⟨Journal.dataStatements b.journal, Mark.stream (Journal.dataStatements b.journal)
          (ResultEvent.all opened b.resultSets parameters) none⟩,
        { s with openTransaction := opened },
        b.extend [.requested .dataStatement s.number deadline,
          .accepted s.number text control opened]) := by
  have unreported : ∀ entries, (b.extend entries).reports = [] := fun _ => h.unreported
  have started : Journal.dataStatements (b.extend [.requested .dataStatement s.number
      deadline]).journal = Journal.dataStatements b.journal := by
    rw [Backend.extend, Journal.dataStatements, List.countP_append]
    rfl
  rw [Session.runData, h.request]
  simp only [opens, Backend.record_eq, Backend.extend_extend]
  rw [(h.extend _).consult, Backend.takeReport_of_unreported (unreported _), started]
  rfl

end Backend.Unhindered

/-! ## Streams that nothing holds -/

/-- A pull adds to the journal and changes nothing else. -/
theorem Script.poll_extends {script rest : Script Mark Reply} {polled : Polled Reply}
    {b b' : Backend} (pulled : Script.poll script b = (polled, rest, b')) :
    ∃ entries, b' = b.extend entries := by
  cases Script.pulls_eq pulled with
  | item played =>
    obtain ⟨entries, rfl, -⟩ := played.extends
    exact ⟨entries, rfl⟩
  | stalled played held =>
    obtain ⟨entries, rfl, -⟩ := played.extends
    exact ⟨entries, rfl⟩
  | ended played =>
    obtain ⟨entries, rfl, -⟩ := played.extends
    exact ⟨entries, rfl⟩

/-- While the gate is open, a stream without an error is taken in at once: no pull is held, and
nothing is done but to record its events and its end. -/
theorem Relay.Collecting.unhindered {guard : Guard} {script : Script Mark Reply}
    {contents : StreamContents} {b : Backend} {patience : Patience}
    {out : Collected × Backend × Patience}
    (collecting : Relay.Collecting guard script contents b patience out) (gate : b.gateOpen = true)
    {events : List ResultEvent} (all : Script.items script = events.map .ok) :
    ∃ entries,
      out = (.complete (events.foldl .add contents) (some guard), b.extend entries, patience) := by
  induction collecting generalizing events with
  | @event script rest contents b b' patience event out polled later ih =>
    have items := Script.items_poll script b
    obtain ⟨first, rfl⟩ := Script.poll_extends polled
    rw [polled, all] at items
    cases events with
    | nil => cases items
    | cons event events =>
      obtain ⟨same, rest⟩ := List.cons.inj items
      obtain rfl := Except.ok.inj same
      obtain ⟨others, taken⟩ := ih gate rest.symm
      rw [Backend.extend_extend] at taken
      exact ⟨first ++ others, taken⟩
  | @error script rest b b' patience error out polled failing contents =>
    have items := Script.items_poll script b
    rw [polled, all] at items
    cases events <;> cases items
  | @ended script rest b b' polled contents patience =>
    obtain ⟨entries, rfl⟩ := Script.poll_extends polled
    rw [Script.items_of_ended polled] at all
    rw [List.map_eq_nil_iff.mp all.symm]
    exact ⟨entries, rfl⟩
  | @givenUp script rest b b' polled contents =>
    exact absurd polled (Script.poll_ne_stalled gate)
  | @resumed script rest contents b b' stirs patience out polled later ih =>
    exact absurd polled (Script.poll_ne_stalled gate)

/-- The stream of a statement, while the gate is open, hands over its result sets and the
transaction that it has left open. -/
theorem Mark.collect_unhindered (stream : Nat) (opened : Option TransactionId) (count : Nat)
    (parameters : NamedValues) (guard : Guard) {b : Backend} (gate : b.gateOpen = true)
    (patience : Patience) :
    ∃ entries, (Relay.wrap (Mark.stream stream (ResultEvent.all opened count parameters) none)
        guard).collect .empty b patience =
      (.complete ⟨List.replicate count (.ofParameters parameters), opened⟩ (some guard),
        b.extend entries, patience) := by
  have all : Script.items (Mark.stream stream (ResultEvent.all opened count parameters) none) =
      (ResultEvent.all opened count parameters).map .ok := by
    rw [Mark.items_stream]
    exact List.append_nil _
  rcases (Relay.collecting _ guard .empty b patience).unhindered gate all with ⟨entries, collected⟩
  rw [StreamContents.foldl_all] at collected
  exact ⟨entries, collected⟩

/-! ## Statements -/

/-- What a statement answers with where it has `count` result sets. -/
def QueryResult.echo (count : Nat) (parameters : NamedValues) : QueryResult :=
  ⟨List.replicate count (.ofParameters parameters)⟩

/-- A connection that is open and agrees with its session, at a backend that does not hinder it. -/
structure Connection.Unhindered (c : Connection) (b : Backend) : Prop where
  backend : b.Unhindered
  usable : c.state.isClosed = false
  agrees : c.Agrees
  idle : c.isDraining b = false

/-- A call that is not held up came to its end with a value, and hinders no later call. -/
def Connection.Passes {α : Type} (b : Backend) (patience : Patience) (value : α)
    (out : Outcome α × Connection × Backend × Patience) : Prop :=
  ∃ c' entries, out = (.done value, c', b.extend entries, patience) ∧
    c'.Unhindered (b.extend entries)

section Statements

variable {c : Connection} {b : Backend}

/-- In an open transaction a statement answers with its result sets, and leaves the transaction open
on its session. -/
theorem Connection.executeInside_unhindered (h : b.Unhindered) (c : Connection)
    (patience : Patience) {transaction : TransactionId} {session : Session}
    (same : session.openTransaction = some transaction) (settings : TransactionSettings)
    (text : String) (parameters : NamedValues) :
    Connection.Passes b patience (.echo b.resultSets parameters)
      (c.executeInside b patience transaction session settings text parameters) := by
  rw [Connection.executeInside, h.runData (Session.opens_open same _)]
  simp only [ResultStream.collect_eq]
  rcases Mark.collect_unhindered (Journal.dataStatements b.journal) (some transaction) b.resultSets
    parameters (.sign (Journal.dataStatements b.journal)) (h.extend _).gate patience with
    ⟨entries, collected⟩
  rw [collected, Backend.extend_extend]
  refine ⟨_, _, rfl, h.extend _, rfl, Connection.agrees_inside rfl rfl, ?_⟩
  exact h.hasSign_next

/-- A session is always fit for a statement that starts a transaction. -/
theorem Session.opens_start (s : Session) (b : Backend) (mode : TransactionMode) (commit : Bool) :
    ∃ opened, s.opens b (.start mode commit) = .ok opened := by
  cases commit with
  | true => exact ⟨none, rfl⟩
  | false => exact ⟨_, rfl⟩

/-- A statement on a session of its own, which comes back. -/
theorem ResultStream.collectWith_unhindered (h : b.Unhindered) (session : Session)
    (stream : Nat) (opened : Option TransactionId) (count : Nat) (parameters : NamedValues)
    (patience : Patience) :
    ∃ entries,
      ResultStream.collectWith ⟨stream, Mark.stream stream (ResultEvent.all opened count parameters)
          none⟩ session b patience =
        (.done (⟨List.replicate count (.ofParameters parameters), opened⟩, session),
          b.extend entries, patience) := by
  rcases Mark.collect_unhindered stream opened count parameters (.lease session) h.gate patience
    with ⟨entries, collected⟩
  refine ⟨entries, ?_⟩
  rw [ResultStream.collectWith_eq, collected]
  rfl

/-- On a session of its own a statement answers with its result sets, and the session comes back
with the transaction that was left open, if one was. -/
theorem Config.runData_unhindered (h : b.Unhindered) (config : Config) (patience : Patience)
    (text : String) (mode : TransactionMode) (commit : Bool) (parameters : NamedValues) :
    ∃ opened session entries,
      config.runData b patience text (.start mode commit) parameters =
        (.done (⟨List.replicate b.resultSets (.ofParameters parameters), opened⟩, session),
          b.extend entries, patience) ∧
      session.openTransaction = opened := by
  rw [Config.runData, h.acquire, Backend.extend_extend]
  generalize Backend.nextSession _ = session
  generalize [_] ++ [_] = before
  have served : (b.extend before).Unhindered := h.extend before
  rcases session.opens_start ((b.extend before).extend
    [.requested .dataStatement session.number config.queryTimeout]) mode commit with
    ⟨opened, opens⟩
  simp only [served.runData opens, Backend.extend_extend]
  generalize before ++ _ = before
  rcases ResultStream.collectWith_unhindered (h.extend before)
    { session with openTransaction := opened } (Journal.dataStatements _) opened
    b.resultSets parameters patience with ⟨entries, collected⟩
  rw [Backend.extend_extend] at collected
  exact ⟨_, _, _, collected, rfl⟩

/-- Outside a transaction a statement answers with its result sets. Either a transaction is left
open, and the connection is inside after it, or the session is given back. -/
theorem Connection.executeOutside_unhindered (h : c.Unhindered b) (patience : Patience)
    (settings : TransactionSettings) (text : String) (parameters : NamedValues) :
    Connection.Passes b patience (.echo b.resultSets parameters)
      (c.executeOutside b patience settings text parameters) := by
  rcases Config.runData_unhindered h.backend c.config patience text settings.mode
    settings.autoCommit parameters with ⟨opened, session, entries, ran, opens⟩
  rw [Connection.executeOutside, ran]
  cases opened with
  | none =>
    refine ⟨c, entries ++ [.released session.number], ?_, h.backend.extend _, h.usable, h.agrees,
      h.idle⟩
    rw [← Backend.extend_extend]
    rfl
  | some transaction =>
    exact ⟨_, entries, rfl, h.backend.extend _, rfl, Connection.agrees_inside rfl opens, h.idle⟩

/-- While nothing hinders it, a statement answers with its result sets, and nothing hinders the next
one. -/
theorem Connection.executeOne_unhindered (h : c.Unhindered b) (patience : Patience) (text : String)
    (parameters : NamedValues) :
    Connection.Passes b patience (.echo b.resultSets parameters)
      (c.executeOne b patience text parameters) := by
  have ready : Connection.Unhindered { c with pending := none } b :=
    ⟨h.backend, h.usable, h.agrees, rfl⟩
  rw [Connection.executeOne, Connection.awaitDrain_of_not_draining h.idle]
  generalize { c with pending := none } = c at ready
  simp only
  cases state : c.state with
  | inside transaction session settings =>
    exact Connection.executeInside_unhindered h.backend c patience
      (ready.agrees transaction session settings state) settings text parameters
  | outside settings =>
    exact Connection.executeOutside_unhindered ready patience settings text parameters
  | closed =>
    have usable : c.state.isClosed = false := ready.usable
    rw [state] at usable
    cases usable

/-- The rows of a batch, one after the other: each finds the connection as unhindered as the one
before has found it. -/
theorem Connection.executeAll_unhindered (h : c.Unhindered b) (patience : Patience) (text : String)
    (completed : List QueryResult) (rows : List NamedValues) :
    Connection.Passes b patience (completed ++ rows.map (.echo b.resultSets))
      (c.executeAll b patience text completed rows) := by
  induction rows generalizing c b completed with
  | nil =>
    refine ⟨c, [], ?_, ?_⟩
    · rw [Connection.executeAll, List.map_nil, List.append_nil, Backend.extend, List.append_nil]
    · rwa [Backend.extend, List.append_nil]
  | cons row rows ih =>
    rcases Connection.executeOne_unhindered h patience text row with ⟨c₁, first, ran, left⟩
    rcases ih left (completed ++ [.echo b.resultSets row]) with ⟨c₂, others, all, left'⟩
    rw [Backend.extend_extend] at all left'
    refine ⟨c₂, first ++ others, ?_, left'⟩
    rw [Connection.executeAll, ran]
    rw [List.append_assoc] at all
    exact all

/-- Two rows or more are a batch. -/
theorem Connection.executeData_cons_cons (usable : c.state.isClosed = false) (b : Backend)
    (patience : Patience) (descriptor : Descriptor) (first second : NamedValues)
    (others : List NamedValues) :
    c.executeData b patience descriptor (first :: second :: others) =
      c.executeAll b patience descriptor.canonical [] (first :: second :: others) :=
  Connection.executeData_several usable b patience descriptor (Nat.le_add_left 2 others.length)

/-- While nothing hinders it, a statement answers for every row with the values of that row, in the
order of the rows. -/
theorem Connection.executeData_unhindered (h : c.Unhindered b) (patience : Patience)
    (descriptor : Descriptor) {rows : List NamedValues} (some : rows ≠ []) :
    Connection.Passes b patience (rows.map (.echo b.resultSets))
      (c.executeData b patience descriptor rows) := by
  match rows, some with
  | [row], _ =>
    rcases Connection.executeOne_unhindered h patience descriptor.canonical row with
      ⟨c', entries, ran, left⟩
    refine ⟨c', entries, ?_, left⟩
    rw [Connection.executeData_single h.usable, ran]
    rfl
  | first :: second :: others, _ =>
    rw [Connection.executeData_cons_cons h.usable]
    exact Connection.executeAll_unhindered h patience descriptor.canonical [] _

/-- No statement closes a connection, however it comes out, so a batch leaves it usable. -/
theorem Connection.executeAll_usable (usable : c.state.isClosed = false) (patience : Patience)
    (text : String) (completed : List QueryResult) (rows : List NamedValues) :
    (c.executeAll b patience text completed rows).2.1.state.isClosed = false := by
  induction rows generalizing c b patience completed with
  | nil => exact usable
  | cons row rows ih =>
    have serves := Connection.executeOne_serves usable b patience text row
    rw [Connection.executeAll]
    generalize c.executeOne b patience text row = run at serves
    rcases run with ⟨outcome, c', b', left⟩
    cases outcome with
    | done result => exact ih serves.1 left (completed ++ [result])
    | failed error => exact serves.1
    | cancelled => exact serves.1

theorem Connection.executeData_usable (usable : c.state.isClosed = false) (patience : Patience)
    (descriptor : Descriptor) (rows : List NamedValues) :
    (c.executeData b patience descriptor rows).2.1.state.isClosed = false := by
  have single : ∀ row, (c.executeData b patience descriptor [row]).2.1.state.isClosed = false := by
    intro row
    rw [Connection.executeData_single usable]
    exact (Connection.executeOne_serves usable b patience descriptor.canonical row).1
  match rows with
  | [] => exact single []
  | [row] => exact single row
  | first :: second :: others =>
    rw [Connection.executeData_cons_cons usable]
    exact Connection.executeAll_usable usable patience descriptor.canonical [] _

end Statements

/-! ## Waiting -/

/-- Nothing closes the gate while a call is held up. -/
def Patience.KeepsGate (patience : Patience) : Prop := ∀ stirs ∈ patience, Stir.closeGate ∉ stirs

section Waiting

variable {c : Connection} {b : Backend} {patience : Patience}

theorem Backend.pullTask_gateOpen (gate : b.gateOpen = true) (task : Background) :
    (b.pullTask task).gateOpen = true := by
  rw [Backend.pullTask, Drain.pull]
  generalize polled : Script.poll task.drain.script b = pulled
  obtain ⟨answer, rest, b'⟩ := pulled
  have still : b'.gateOpen = true := (Script.gateOpen_poll polled).trans gate
  cases answer with
  | ended =>
    have dropped := (b'.dropGuard_gateOpen task.drain.guard).1
    exact ((Backend.releaseAll_gateOpen _ task.waiting).1.trans dropped).trans still
  | stalled => exact still
  | item item => exact still

theorem Backend.stir_gateOpen (gate : b.gateOpen = true) {stir : Stir} (keeps : .closeGate ≠ stir) :
    (b.stir stir).gateOpen = true := by
  cases stir with
  | openGate => rfl
  | closeGate => exact (keeps rfl).elim
  | settle => exact Backend.runTasks_gateOpen (b := { b with background := [] }) gate b.background
  | pullFirst =>
    rw [Backend.stir, Backend.pullFirst]
    split
    · exact gate
    · rename_i rest first
      exact Backend.pullTask_gateOpen (b := { b with background := rest }) gate _
  | rotate =>
    rw [Backend.stir, Backend.rotate]
    split <;> exact gate

theorem Backend.stirAll_gateOpen (gate : b.gateOpen = true) {stirs : List Stir}
    (keeps : .closeGate ∉ stirs) : (b.stirAll stirs).gateOpen = true := by
  induction stirs generalizing b with
  | nil => exact gate
  | cons stir rest ih =>
    rcases not_or.mp (mt List.mem_cons.mpr keeps) with ⟨keeps, others⟩
    exact ih (Backend.stir_gateOpen gate keeps) others

/-- Nothing comes to an empty background but from calls. -/
theorem Backend.stirAll_background (empty : b.background = []) (stirs : List Stir) :
    (b.stirAll stirs).background = [] := by
  induction stirs generalizing b with
  | nil => exact empty
  | cons stir rest ih =>
    apply ih
    cases stir with
    | openGate => exact empty
    | closeGate => exact empty
    | settle =>
      rw [Backend.stir, Backend.settle, empty]
      rfl
    | pullFirst =>
      rw [Backend.stir, Backend.pullFirst, empty]
      exact empty
    | rotate =>
      rw [Backend.stir, Backend.rotate, empty]
      exact empty

/-- While the gate is open, a background that is let run comes to its end; what happens before and
after adds nothing to it. -/
theorem Backend.stirAll_settled (gate : b.gateOpen = true) {stirs : List Stir}
    (keeps : .closeGate ∉ stirs) (settles : .settle ∈ stirs) :
    (b.stirAll stirs).background = [] := by
  induction stirs generalizing b with
  | nil => cases settles
  | cons stir rest ih =>
    rcases not_or.mp (mt List.mem_cons.mpr keeps) with ⟨keeps, others⟩
    rcases List.mem_cons.mp settles with rfl | settles
    · exact Backend.stirAll_background (Backend.settle_of_gateOpen gate) rest
    · exact ih (Backend.stir_gateOpen gate keeps) others settles

theorem Connection.awaitDrain_gateOpen (gate : b.gateOpen = true) (keeps : patience.KeepsGate) :
    (c.awaitDrain b patience).2.2.1.gateOpen = true := by
  induction patience generalizing b with
  | nil =>
    rw [Connection.awaitDrain]
    split <;> exact gate
  | cons stirs patience ih =>
    rw [Connection.awaitDrain]
    split
    · exact ih (Backend.stirAll_gateOpen gate (keeps stirs List.mem_cons_self))
        fun stirs member => keeps stirs (List.mem_cons_of_mem _ member)
    · exact gate

/-- A wait is over once the background has been let run with the gate open. -/
theorem Connection.awaitDrain_of_settle (gate : b.gateOpen = true) (keeps : patience.KeepsGate)
    (settles : ∃ stirs ∈ patience, Stir.settle ∈ stirs) : (c.awaitDrain b patience).1 = true := by
  induction patience generalizing b with
  | nil =>
    rcases settles with ⟨stirs, member, -⟩
    cases member
  | cons stirs patience ih =>
    rw [Connection.awaitDrain]
    split
    · have keep := keeps stirs List.mem_cons_self
      rcases settles with ⟨others, member, settles⟩
      rcases List.mem_cons.mp member with rfl | member
      · have settled := Backend.stirAll_settled gate keep settles
        have idle : c.isDraining (b.stirAll others) = false := by
          rw [Connection.isDraining]
          cases c.pending with
          | none => rfl
          | some stream =>
            rw [Option.any_some, Backend.hasSign, settled]
            rfl
        rw [Connection.awaitDrain_of_not_draining idle]
      · exact ih (Backend.stirAll_gateOpen gate keep)
          (fun stirs member => keeps stirs (List.mem_cons_of_mem _ member))
          ⟨others, member, settles⟩
    · rfl

/-- Every sign in the background is one of a stream that was started. Custody says so, since a sign
names the stream that it goes on with. -/
theorem Backend.Custody.sign_lt {outside : List Hold} {running : List Nat}
    (h : b.Custody outside running) {task : Background} (member : task ∈ b.background)
    {stream : Nat} (signed : task.drain.guard = some (.sign stream)) :
    stream < Journal.dataStatements b.journal := by
  have goes : task.stream? = some stream := (h.sound task member).stream?_of_sign signed
  have started : stream ∈ Journal.completions b.journal ++ (running ++ b.streams) :=
    List.mem_append_right _ (List.mem_append_right _ (List.mem_filterMap.mpr ⟨task, member, goes⟩))
  rw [h.ledger.streams.mem_iff, List.mem_range, Journal.length_hosts] at started
  exact started

/-- When the wait for an earlier statement was not given up, nothing hinders the connection: the
gate stays open throughout the wait, and no refusal is set by it. -/
theorem Connection.unhindered_of_awaitDrain {others : List Hold} {c' : Connection} {b' : Backend}
    {left : Patience} (custody : b.Custody (c.holds ++ others) []) (agrees : c.Agrees)
    (usable : c.state.isClosed = false) (gate : b.gateOpen = true) (untold : b.injections = [])
    (keeps : patience.KeepsGate) (waited : c.awaitDrain b patience = (true, c', b', left)) :
    b.StreamWork b' ∧ c'.Unhindered b' := by
  have waits := c.awaitsDrain b patience
  have still := Connection.awaitDrain_gateOpen (c := c) gate keeps
  rw [waited] at waits still
  have custody' := custody.awaitsDrain waits
  cases waits with
  | drained idles drained =>
    have work := idles.streamWork
    have unhindered : b'.Unhindered := {
      gate := still
      untold := work.injections.trans untold
      unreported := custody'.reports
      signs := fun task member stream signed => custody'.sign_lt member signed }
    exact ⟨work, unhindered, usable, agrees, rfl⟩

/-- A statement goes on from where its wait has ended, so it may be looked at from there. -/
theorem Connection.executeOne_awaited {c' : Connection} {b' : Backend} {left : Patience}
    (waited : c.awaitDrain b patience = (true, c', b', left)) (text : String)
    (parameters : NamedValues) :
    c.executeOne b patience text parameters = c'.executeOne b' left text parameters := by
  have waits := c.awaitsDrain b patience
  rw [waited] at waits
  cases waits with
  | drained idles drained =>
    have idle : Connection.isDraining { c with pending := none } b' = false := rfl
    rw [Connection.executeOne, waited, Connection.executeOne,
      Connection.awaitDrain_of_not_draining idle]

theorem Connection.executeData_awaited {c' : Connection} {b' : Backend} {left : Patience}
    (usable : c.state.isClosed = false)
    (waited : c.awaitDrain b patience = (true, c', b', left)) (descriptor : Descriptor)
    {rows : List NamedValues} (some : rows ≠ []) :
    c.executeData b patience descriptor rows = c'.executeData b' left descriptor rows := by
  have waits := c.awaitsDrain b patience
  rw [waited] at waits
  have usable' : c'.state.isClosed = false := (congrArg _ waits.state).trans usable
  match rows, some with
  | [row], _ =>
    rw [Connection.executeData_single usable, Connection.executeData_single usable',
      Connection.executeOne_awaited waited]
  | first :: second :: others, _ =>
    rw [Connection.executeData_cons_cons usable, Connection.executeData_cons_cons usable',
      Connection.executeAll, Connection.executeAll, Connection.executeOne_awaited waited]

/-- A statement is given up with the wait that comes before it. -/
theorem Connection.executeData_of_givenUp (usable : c.state.isClosed = false)
    (givenUp : (c.awaitDrain b patience).1 = false) (descriptor : Descriptor)
    {rows : List NamedValues} (some : rows ≠ []) :
    (c.executeData b patience descriptor rows).1 = .cancelled := by
  have each : ∀ row, (c.executeOne b patience descriptor.canonical row).1 = .cancelled := by
    intro row
    rw [Connection.executeOne]
    generalize c.awaitDrain b patience = wait at givenUp
    rcases wait with ⟨drained, c', b', left⟩
    cases givenUp
    rfl
  cases rows with
  | nil => exact (some rfl).elim
  | cons first others =>
    have gaveUp := each first
    cases others with
    | nil => rw [Connection.executeData_single usable, gaveUp, Outcome.map]
    | cons second others =>
      rw [Connection.executeData_cons_cons usable, Connection.executeAll]
      generalize c.executeOne b patience descriptor.canonical first = run at gaveUp
      rcases run with ⟨outcome, c', b', left⟩
      cases gaveUp
      rfl

/-- With the gate open and no refusal set, a statement whose wait is not given up answers for every
row with the values of that row. -/
theorem Connection.executeData_echoes {others : List Hold}
    (custody : b.Custody (c.holds ++ others) []) (agrees : c.Agrees)
    (usable : c.state.isClosed = false) (gate : b.gateOpen = true) (untold : b.injections = [])
    (keeps : patience.KeepsGate) (waited : (c.awaitDrain b patience).1 = true)
    (descriptor : Descriptor) {rows : List NamedValues} (some : rows ≠ []) :
    ∃ c' b' left, c.executeData b patience descriptor rows =
        (.done (rows.map (.echo b.resultSets)), c', b', left) ∧ b'.injections = [] := by
  generalize ended : c.awaitDrain b patience = wait at waited
  rcases wait with ⟨drained, c₁, b₁, left⟩
  cases waited
  rcases Connection.unhindered_of_awaitDrain custody agrees usable gate untold keeps ended with
    ⟨work, unhindered⟩
  rcases Connection.executeData_unhindered unhindered left descriptor some with
    ⟨c₂, entries, executed, unhindered⟩
  rw [work.resultSets] at executed
  rw [Connection.executeData_awaited usable ended descriptor some]
  exact ⟨c₂, _, left, executed, unhindered.backend.untold⟩

end Waiting

end SqlDriver
