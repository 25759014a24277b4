import SqlDriver.Proofs.Connection.Failures
import SqlDriver.Proofs.World.Agreement
import SqlDriver.Proofs.World.Sessions

/-!
Calls in a world that fail or are given up. No connection is in another state afterwards, and what
sessions the call has got are given back at the latest when the background has come to its end: no
connection holds them, so nobody else is left that could.
-/

namespace SqlDriver

theorem World.heldSessions_eq (w : World) :
    w.heldSessions =
      (w.connections.map Connection.state).filterMap fun state =>
        state.session?.map Session.number := by
  rw [List.filterMap_map]
  rfl

/-- What may happen while a call is held up leaves the sessions of a world in custody. -/
theorem World.Custody.stirAll {w : World} (h : w.Custody) (stirs : List Stir) :
    World.Custody ⟨w.connections, w.backend.stirAll stirs⟩ :=
  Backend.Custody.idle h (.stirAll .refl stirs)

theorem Backend.acquired_stirAll_le (b : Backend) (stirs : List Stir) :
    Journal.acquired b.journal ≤ Journal.acquired (b.stirAll stirs).journal := by
  have longer := (Backend.Idles.refl.stirAll stirs : b.Idles _).streamWork.isPrefix
  exact longer.sublist.countP_le

/-- Where no connection holds other sessions than before and nothing is left in the background, the
sessions handed out since have been given back. -/
theorem World.Custody.released {w w' : World} (h : w.Custody) (h' : w'.Custody)
    (same : w'.connections.map Connection.state = w.connections.map Connection.state)
    (done : w'.backend.background = []) {session : Nat}
    (since : Journal.acquired w.backend.journal < session)
    (out : session ≤ Journal.acquired w'.backend.journal) :
    session ∈ Journal.releases w'.backend.journal := by
  have leased : w'.leasedSessions = [] := by rw [World.leasedSessions, done]; rfl
  have waiting : w'.waitingSessions = [] := by rw [World.waitingSessions, done]; rfl
  have held : w'.heldSessions = w.heldSessions := by
    rw [World.heldSessions_eq, World.heldSessions_eq, same]
  have whole := h'.sessions
  rw [leased, waiting, held, List.append_nil, List.append_nil] at whole
  have member : session ∈ List.range' 1 (Journal.acquired w'.backend.journal) := by
    rw [List.mem_range'_1]
    omega
  rcases List.mem_append.mp (whole.mem_iff.mpr member) with given | holds
  · exact given
  · -- The sessions that are held were handed out before.
    have old : session ∈ List.range' 1 (Journal.acquired w.backend.journal) := by
      rw [← h.sessions.mem_iff]
      exact List.mem_append_right _ (List.mem_append_left _ holds)
    rw [List.mem_range'_1] at old
    omega

/-! ## In every run -/

section

variable {w w' : World} {place : Nat} {request : Request} {patience : Patience}
  {outcome : Outcome Response}

theorem World.step_of_call (called : w.call place request patience = some (outcome, w')) :
    w.step (.call place request patience) = w' := by
  rw [World.step, called]
  rfl

theorem World.states_set {c : Connection} (found : w.connections[place]? = some c)
    {c' : Connection} (same : c'.state = c.state) :
    (w.connections.set place c').map Connection.state = w.connections.map Connection.state := by
  obtain ⟨inside, rfl⟩ := List.getElem?_eq_some_iff.mp found
  have inside' : place < (w.connections.map Connection.state).length := by
    rwa [List.length_map]
  have mine := List.set_getElem_self inside'
  rw [List.getElem_map] at mine
  rw [List.map_set, same, mine]

/-- A call that does not succeed leaves every connection in its state, unless it is a batch, which
may have come through some of its rows. -/
theorem World.Accords.states_call {refusals : List (CallKind × Status)} (h : w.Accords refusals)
    (called : w.call place request patience = some (outcome, w'))
    (unfinished : outcome.isDone = false) (single : request.isBatch = false) :
    w'.connections.map Connection.state = w.connections.map Connection.state := by
  obtain ⟨c, c', b', patience', found, performed, rfl⟩ := World.performs_of_call called
  have atomic := Connection.perform_atomic (h.1 c (List.mem_of_getElem? found)) h.2.unreported
    patience request single
  rw [performed] at atomic
  rcases atomic with done | same
  · rw [unfinished] at done
    cases done
  · exact World.states_set found same

/-- The sessions that a call has got which does not succeed are given back when nothing is left in
the background. -/
theorem World.Custody.released_call (h : w.Custody)
    (called : w.call place request patience = some (outcome, w'))
    (same : w'.connections.map Connection.state = w.connections.map Connection.state)
    {stirs : List Stir} (done : (w'.backend.stirAll stirs).background = []) {session : Nat}
    (since : Journal.acquired w.backend.journal < session)
    (out : session ≤ Journal.acquired w'.backend.journal) :
    session ∈ Journal.releases (w'.backend.stirAll stirs).journal := by
  have h' : w'.Custody := World.step_of_call called ▸ h.step (.call place request patience)
  have later := w'.backend.acquired_stirAll_le stirs
  exact h.released (h'.stirAll stirs) same done since (Nat.le_trans out later)

/-- A batch that does not succeed leaves its connection in the state that the rows before have left,
and the others in theirs. -/
theorem World.Accords.stops_call {refusals : List (CallKind × Status)} (h : w.Accords refusals)
    {descriptor : Descriptor} {rows : List NamedValues}
    (called : w.call place (.data descriptor rows) patience = some (outcome, w'))
    (unfinished : outcome.isDone = false) (batch : (Request.data descriptor rows).isBatch = true)
    {c : Connection} (found : w.connections[place]? = some c) :
    c.state = .closed ∧ outcome = .failed (.state .closed) ∧
        w'.connections.map Connection.state = w.connections.map Connection.state ∨
      ∃ k completed reached answer,
        c.StopsAt w.backend patience descriptor.canonical rows k completed reached answer ∧
          outcome = (answer.inBatch completed).map .results ∧
          w'.connections.map Connection.state =
            (w.connections.map Connection.state).set place reached.state := by
  obtain ⟨c₁, c', b', patience', found', performed, rfl⟩ := World.performs_of_call called
  obtain rfl : c = c₁ := Option.some.inj (found.symm.trans found')
  generalize executed : c.executeData w.backend patience descriptor rows = run
  obtain ⟨answer, c₂, rest⟩ := run
  have results : (answer.map Response.results, c₂, rest) = (outcome, c', b', patience') := by
    rw [← performed, Connection.perform, executed]
  cases results
  cases closed : c.state.isClosed with
  | true =>
    have refused : c.executeData w.backend patience descriptor rows =
        (.failed (.state .closed), c, w.backend, patience) := by
      unfold Connection.executeData
      rw [if_pos closed]
    cases executed.symm.trans refused
    refine Or.inl ⟨?_, rfl, World.states_set found rfl⟩
    cases state : c.state with
    | closed => rfl
    | _ => rw [state] at closed; cases closed
  | false =>
    have mine : Connection.Accords refusals c w.backend :=
      ⟨h.1 c (List.mem_of_getElem? found), h.2⟩
    have stopped : (c.executeData w.backend patience descriptor rows).1.isDone = false := by
      rw [executed, ← Outcome.isDone_map Response.results]
      exact unfinished
    obtain ⟨k, completed, reached, answer', stops, answers, left⟩ :=
      Connection.executeData_stops mine batch closed stopped
    rw [executed] at answers left
    refine Or.inr ⟨k, completed, reached, answer', stops, congrArg _ answers, ?_⟩
    rw [List.map_set, ← left]

end

/-- A call that fails or is given up changes nothing. It leaves every connection in its state, with
its transaction, its session and its settings; and once the background has come to its end, which it
does when the gate is opened, every session that the call has got has been given back. A batch
leaves the state that the rows before the failing one have left, unless the connection is closed. -/
theorem World.failures_change_nothing (events : List World.Event) {place : Nat}
    {request : Request} {patience : Patience} {outcome : Outcome Response} {w' : World}
    (called : (World.run events).call place request patience = some (outcome, w'))
    (unfinished : outcome.isDone = false) :
    let w := World.run events
    (request.isBatch = false →
        w'.connections.map Connection.state = w.connections.map Connection.state ∧
        ∀ stirs, (w'.backend.stirAll stirs).background = [] →
          ∀ session, Journal.acquired w.backend.journal < session →
            session ≤ Journal.acquired w'.backend.journal →
            session ∈ Journal.releases (w'.backend.stirAll stirs).journal) ∧
      (w'.backend.stirAll [.openGate, .settle]).background = [] ∧
      ∀ descriptor rows, request = .data descriptor rows → request.isBatch = true →
        ∀ c, w.connections[place]? = some c →
        c.state = .closed ∧ outcome = .failed (.state .closed) ∧
            w'.connections.map Connection.state = w.connections.map Connection.state ∨
          ∃ k completed reached answer,
            c.StopsAt w.backend patience descriptor.canonical rows k completed reached answer ∧
              outcome = (answer.inBatch completed).map .results ∧
              w'.connections.map Connection.state =
                (w.connections.map Connection.state).set place reached.state := by
  intro w
  have accords : w.Accords (World.refusals events) := World.accords_run events
  have custody : w.Custody := World.custody_run events
  refine ⟨fun single => ?_, Backend.settle_of_gateOpen rfl, ?_⟩
  · have same := accords.states_call called unfinished single
    exact ⟨same, fun stirs done session => custody.released_call called same done⟩
  · rintro descriptor rows rfl batch c found
    exact accords.stops_call called unfinished batch found

/-- A statement that is given up at the closed gate, with its session; and a batch whose first row
opens a transaction and whose second is refused. -/
theorem World.failures_of_statement_and_batch :
    let insert : Descriptor := ⟨"INSERT", "INSERT", .data, [], [.update]⟩
    let shut := World.run [.setResultSets 2, .connect .default, .stir .closeGate]
    let manual := World.run [.connect .default, .call 0 (.setAutoCommit false) [],
      .inject .dataStatement 1 .unavailable]
    (∃ outcome w', shut.call 0 (.data insert []) [] = some (outcome, w') ∧
        w'.connections.map Connection.state = shut.connections.map Connection.state ∧
        1 ∈ Journal.releases (w'.backend.stirAll [.openGate, .settle]).journal) ∧
      ∃ outcome w', manual.call 0 (.data insert [[], [], []]) [] = some (outcome, w') ∧
        ∃ (c : Connection) (k : Nat) (completed : List QueryResult) (reached : Connection)
          (answer : Outcome QueryResult), c ∈ manual.connections ∧ c.state.isInside = false ∧
          c.StopsAt manual.backend [] "INSERT" [[], [], []] k completed reached answer ∧
          outcome = (answer.inBatch completed).map .results ∧
          w'.connections.map Connection.state = [reached.state] ∧
          reached.state.transaction? = some (.issued 0) := by
  intro insert shut manual
  constructor
  · have ran : ((shut.call 0 (.data insert []) []).map fun result =>
        (result.1.isDone, Journal.acquired result.2.backend.journal)) = some (false, 1) := by
      decide +kernel
    obtain ⟨⟨outcome, w'⟩, called, facts⟩ := Option.map_eq_some_iff.mp ran
    obtain ⟨unfinished, out⟩ := Prod.mk.inj facts
    obtain ⟨single, ended, -⟩ := World.failures_change_nothing _ called unfinished
    obtain ⟨same, released⟩ := single rfl
    have before : Journal.acquired shut.backend.journal = 0 := by decide +kernel
    refine ⟨outcome, w', called, same, released _ ended 1 ?_ (Nat.le_of_eq out.symm)⟩
    rw [before]
    exact Nat.zero_lt_one
  · have ran : ((manual.call 0 (.data insert [[], [], []]) []).map fun result => (result.1.isDone,
        result.2.connections.map fun c => c.state.transaction?)) =
          some (false, [some (.issued 0)]) := by
      decide +kernel
    have states : manual.connections.map Connection.state =
        [.outside (TransactionSettings.default.withAutoCommit false)] := by
      decide +kernel
    obtain ⟨⟨outcome, w'⟩, called, facts⟩ := Option.map_eq_some_iff.mp ran
    obtain ⟨unfinished, transactions⟩ := Prod.mk.inj facts
    obtain ⟨c, only, state⟩ := List.map_eq_singleton_iff.mp states
    obtain ⟨-, -, batch⟩ := World.failures_change_nothing _ called unfinished
    rcases batch insert _ rfl rfl c (by rw [only]; rfl) with ⟨closed, -⟩ | stopped
    · rw [state] at closed
      cases closed
    · obtain ⟨k, completed, reached, answer, stops, answers, left⟩ := stopped
      rw [states] at left
      refine ⟨outcome, w', called, c, k, completed, reached, answer, ?_, ?_, stops, answers, left,
        ?_⟩
      · rw [only]
        exact List.mem_singleton_self c
      · rw [state]
        rfl
      · have same : (w'.connections.map Connection.state).map Connection.State.transaction? =
            [some (.issued 0)] := by
          rw [List.map_map]
          exact transactions
        rw [left] at same
        exact List.singleton_inj.mp same

end SqlDriver
