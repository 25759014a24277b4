import SqlDriver.Proofs.Connection.Alike
import SqlDriver.Proofs.Connection.Cancellation
import SqlDriver.Proofs.World.Agreement

/-!
Giving a statement up in a world. In every run a statement that was accepted, and whose call is given
up while its stream is held at the gate, has the same lasting effect as if the call had gone on to
its end: once the background is at rest, the connections, the statistics, the refusals still to be
met and the sessions are the same, and so is every answer from then on. Only a statement that was to
leave a transaction open, and did, differs: its connection keeps the session, which the call that was
given up has given back.
-/

namespace SqlDriver

/-! ## The same from then on -/

/-- What a call answers, if an event is one. -/
def World.answer (w : World) : World.Event → Option (Outcome Response)
  | .call place request patience => (w.call place request patience).map Prod.fst
  | _ => none

/-- The answers to all that happens from then on. -/
def World.answers (w : World) : List World.Event → List (Option (Outcome Response))
  | [] => []
  | event :: later => w.answer event :: (w.step event).answers later

/-- All that happens in a world while nothing is asked of it. -/
def World.stirAll (w : World) (stirs : List Stir) : World :=
  { w with backend := w.backend.stirAll stirs }

/-- The sessions that a background stream runs on or keeps waiting. -/
def Background.sessions (task : Background) : List Session :=
  match task.drain.guard with
  | some (.lease session) => session :: task.waiting
  | _ => task.waiting

/-- The sessions that are out, each with the transaction that is open on it. -/
def World.sessions (w : World) : List Session :=
  w.connections.filterMap (fun c => c.state.session?) ++
    w.backend.background.flatMap Background.sessions

/-- Worlds in which the same has come about, and that remain the same to everybody. -/
structure World.SameEffect (w w' : World) : Prop where
  connections : w.connections = w'.connections
  statistics : Journal.statistics w.backend.journal = Journal.statistics w'.backend.journal
  injections : w.backend.injections = w'.backend.injections
  sessions : w.sessions = w'.sessions
  answers : ∀ later, w.answers later = w'.answers later

/-- Worlds with the same connections, over backends that are alike. -/
structure World.Alike (w w' : World) : Prop where
  connections : w.connections = w'.connections
  backend : w.backend.Alike w'.backend

namespace World.Alike

variable {w w' : World}

/-- A call at a place answers alike in worlds that are alike, and leaves such worlds. -/
theorem call (h : w.Alike w') (place : Nat) (request : Request) (patience : Patience) :
    Option.Rel (SameAnswer World.Alike) (w.call place request patience)
      (w'.call place request patience) := by
  rw [World.call, World.call, h.connections]
  cases found : w'.connections[place]? with
  | none => exact .none
  | some c =>
    have performs := h.backend.perform c patience request
    simp only [Option.map_some]
    generalize c.perform w.backend patience request = run at performs
    generalize c.perform w'.backend patience request = run' at performs
    obtain ⟨outcome, ⟨c', ⟨alike, left⟩⟩⟩ := performs
    exact .some (.intro _ ⟨rfl, alike⟩)

/-- Whatever happens in the one and in the other, they remain alike, and answer alike. -/
theorem step (h : w.Alike w') (event : World.Event) :
    w.answer event = w'.answer event ∧ (w.step event).Alike (w'.step event) := by
  cases event with
  | connect config => exact ⟨rfl, congrArg (· ++ _) h.connections, h.backend⟩
  | call place request patience =>
    have calls := h.call place request patience
    rw [World.answer, World.answer, World.step, World.step]
    generalize w.call place request patience = out at calls
    generalize w'.call place request patience = out' at calls
    cases calls with
    | none => exact ⟨rfl, h⟩
    | some same =>
      obtain ⟨outcome, alike⟩ := same
      exact ⟨rfl, alike⟩
  | drop place =>
    refine ⟨rfl, ?_⟩
    rw [World.step, World.step, h.connections]
    cases w'.connections[place]? with
    | none => exact h
    | some c => exact ⟨rfl, h.backend.dropConnection c⟩
  | stir stir => exact ⟨rfl, h.connections, h.backend.stir stir⟩
  | inject call skip status => exact ⟨rfl, h.connections, h.backend.inject call skip status⟩
  | setResultSets count => exact ⟨rfl, h.connections, h.backend.setResultSets count⟩

/-- All answers from then on are the same. -/
theorem answers (h : w.Alike w') (later : List World.Event) :
    w.answers later = w'.answers later := by
  induction later generalizing w w' with
  | nil => rfl
  | cons event later ih =>
    obtain ⟨same, alike⟩ := h.step event
    rw [World.answers, World.answers, same, ih alike]

theorem sameEffect (h : w.Alike w') : w.SameEffect w' where
  connections := h.connections
  statistics := h.backend.journal.statistics
  injections := h.backend.injections
  sessions := by rw [World.sessions, World.sessions, h.connections, h.backend.background]
  answers := h.answers

end World.Alike

/-! ## Giving up and going on -/

/-- A world in which the connection at a place has left the transaction that is open on it, and has
given its session back. -/
def World.leave (w : World) (place : Nat) : World :=
  match w.connections[place]? with
  | none => w
  | some c =>
    let (c, b) := c.leave w.backend
    ⟨w.connections.set place c, b⟩

/-- A call for at most one row on the connection at a place runs one statement, and nothing else of
the world is touched by it. -/
theorem World.executes_of_call {w w' : World} {place : Nat} {descriptor : Descriptor}
    {rows : List NamedValues} {patience : Patience} {outcome : Outcome Response} {c : Connection}
    (found : w.connections[place]? = some c) (usable : c.state.isClosed = false)
    (single : rows.length ≤ 1)
    (called : w.call place (.data descriptor rows) patience = some (outcome, w')) :
    let run := c.executeOne w.backend patience descriptor.canonical (rows.headD [])
    outcome = run.1.map (fun result => .results [result]) ∧
      w' = ⟨w.connections.set place run.2.1, run.2.2.1⟩ := by
  obtain ⟨other, c', b', left, found', performed, rfl⟩ := World.performs_of_call called
  cases found.symm.trans found'
  rw [Connection.perform_single usable single] at performed
  simp only [Prod.ext_iff] at performed
  obtain ⟨rfl, rfl, rfl, -⟩ := performed
  exact ⟨rfl, rfl⟩

/-- A call for at most one row that is given up has given up its one statement. -/
theorem World.executes_of_cancelled {w w₁ : World} {place : Nat} {descriptor : Descriptor}
    {rows : List NamedValues} {patience : Patience} {c : Connection}
    (found : w.connections[place]? = some c) (single : rows.length ≤ 1)
    (gaveUp : w.call place (.data descriptor rows) patience = some (.cancelled, w₁)) :
    c.state.isClosed = false ∧ ∃ c₁ b₁ left,
      c.executeOne w.backend patience descriptor.canonical (rows.headD []) =
        (.cancelled, c₁, b₁, left) ∧
      w₁ = ⟨w.connections.set place c₁, b₁⟩ := by
  have usable : c.state.isClosed = false := by
    obtain ⟨other, c', b', left, found', performed, -⟩ := World.performs_of_call gaveUp
    cases found.symm.trans found'
    cases closed : c.state.isClosed with
    | false => rfl
    | true =>
      simp [Connection.perform, Connection.executeData, closed, Outcome.map] at performed
  obtain ⟨answer, rfl⟩ := World.executes_of_call found usable single gaveUp
  refine ⟨usable, ?_⟩
  generalize c.executeOne w.backend patience _ _ = run at answer
  obtain ⟨outcome, c₁, b₁, left⟩ := run
  cases outcome with
  | cancelled => exact ⟨c₁, b₁, left, rfl, rfl⟩
  | _ => cases answer

/-- A call whose statement was accepted would have come to its end through the opened gate. So there
is always a run to compare with. -/
theorem World.completes_openGate {w w₁ : World} {place : Nat} {descriptor : Descriptor}
    {rows : List NamedValues} {patience : Patience} {c : Connection}
    (found : w.connections[place]? = some c) (single : rows.length ≤ 1)
    (gaveUp : w.call place (.data descriptor rows) patience = some (.cancelled, w₁))
    (accepted : Journal.dataStatements w.backend.journal <
      Journal.dataStatements w₁.backend.journal) :
    ∃ outcome w₂, w.call place (.data descriptor rows) (patience ++ [[.openGate]]) =
      some (outcome, w₂) ∧ outcome ≠ .cancelled := by
  obtain ⟨usable, c₁, b₁, left, executed, rfl⟩ := World.executes_of_cancelled found single gaveUp
  have goesOn := Connection.executeOne_openGate executed accepted
  rw [World.call, found, Option.map_some, Connection.perform_single usable single]
  refine ⟨_, _, rfl, ?_⟩
  generalize c.executeOne w.backend _ _ _ = run at goesOn
  obtain ⟨outcome, rest⟩ := run
  cases outcome with
  | cancelled => exact (goesOn rfl).elim
  | _ => exact nofun

/-- What the call that was given up, and the same call with more patience, leave at their place. -/
theorem World.compares_of_call {w w₁ w₂ : World} (unreported : w.backend.reports = [])
    {place : Nat} {descriptor : Descriptor} {rows : List NamedValues} {patience more : Patience}
    {outcome : Outcome Response} {c : Connection} (found : w.connections[place]? = some c)
    (single : rows.length ≤ 1)
    (gaveUp : w.call place (.data descriptor rows) patience = some (.cancelled, w₁))
    (accepted : Journal.dataStatements w.backend.journal <
      Journal.dataStatements w₁.backend.journal)
    (called : w.call place (.data descriptor rows) (patience ++ more) = some (outcome, w₂)) :
    ∃ c₁ b₁ answer c₂ b₂, w₁ = ⟨w.connections.set place c₁, b₁⟩ ∧
      w₂ = ⟨w.connections.set place c₂, b₂⟩ ∧
      outcome = Outcome.map (fun result => .results [result]) answer ∧
      Connection.Compares c.state c₁ b₁ (answer, c₂, b₂) := by
  obtain ⟨usable, c₁, b₁, left, executed, rfl⟩ := World.executes_of_cancelled found single gaveUp
  obtain ⟨rfl, rfl⟩ := World.executes_of_call found usable single called
  exact ⟨c₁, b₁, _, _, _, rfl, rfl, rfl,
    Connection.executeOne_compares unreported executed accepted more⟩

/-- Worlds whose backends come to the same have the same effect once both are at rest, however they
get there. -/
theorem World.sameEffect_of_converge {connections : List Connection} {b b' : Backend}
    (converge : b.Converge b' 0) {stirs stirs' : List Stir} (rest : (b.stirAll stirs).AtRest)
    (rest' : (b'.stirAll stirs').AtRest) :
    (World.stirAll ⟨connections, b⟩ stirs).SameEffect (World.stirAll ⟨connections, b'⟩ stirs') :=
  World.Alike.sameEffect ⟨rfl, (converge.stirAll stirs stirs').alike rest rest'⟩

/-- The same when the second world has still to leave a transaction at a place, which gives back the
session that the first has given back by itself. -/
theorem World.sameEffect_of_leave {connections : List Connection} {place : Nat} {c : Connection}
    (here : place < connections.length) {transaction : TransactionId} {session : Session}
    {settings : TransactionSettings} (outside : c.state = .outside settings) {b b' : Backend}
    (converge : b.Converge b' {.released session.number}) {stirs stirs' : List Stir}
    (rest : (b.stirAll stirs).AtRest) (rest' : (b'.stirAll stirs').AtRest) :
    (World.stirAll ⟨connections.set place c, b⟩ stirs).SameEffect
      ((World.stirAll ⟨connections.set place
        { c with state := .inside transaction session settings }, b'⟩ stirs').leave place) := by
  have left : (World.stirAll ⟨connections.set place
      { c with state := .inside transaction session settings }, b'⟩ stirs').leave place =
        ⟨connections.set place c, (b'.stirAll stirs').release session⟩ := by
    have same : { c with state := Connection.State.outside settings } = c := by rw [← outside]
    simp only [World.leave, World.stirAll, List.getElem?_set_self here, Connection.leave,
      List.set_set, same]
  rw [left]
  exact World.Alike.sameEffect ⟨rfl, (converge.stirAll stirs stirs').release.alike rest
    ⟨rest'.background, rest'.gateOpen⟩⟩

/-- Giving a statement up has the same lasting effect as letting it finish. A call for at most one
row that is given up after its statement was accepted would have come to its end if the gate had
been opened instead, and the background comes to rest either way. However the call comes out with
more patience, its statement succeeds or fails with the error that was set for the end of its
stream; and once the background is at rest, both runs have the same effect, as long as the statement
was made inside a transaction, or was to be committed at once, or fails. Otherwise it leaves a
transaction open, and the two differ in nothing but that: what the call that was given up comes to is
what the other comes to after leaving the transaction and giving its session back. -/
theorem World.cancelled_as_completed (events : List World.Event) {place : Nat}
    {descriptor : Descriptor} {rows : List NamedValues} {patience : Patience} {w₁ : World}
    (gaveUp : (World.run events).call place (.data descriptor rows) patience =
      some (.cancelled, w₁))
    (single : rows.length ≤ 1)
    (accepted : Journal.dataStatements (World.run events).backend.journal <
      Journal.dataStatements w₁.backend.journal) :
    (∃ outcome w₂, (World.run events).call place (.data descriptor rows)
        (patience ++ [[.openGate]]) = some (outcome, w₂) ∧ outcome ≠ .cancelled ∧
      (w₁.stirAll [.openGate, .settle]).backend.AtRest ∧
      (w₂.stirAll [.openGate, .settle]).backend.AtRest) ∧
    ∀ more outcome w₂, (World.run events).call place (.data descriptor rows) (patience ++ more) =
        some (outcome, w₂) → outcome ≠ .cancelled →
      (outcome.isDone = true ∨
        ∃ status, outcome = .failed (.backend ⟨status, .injectedStream⟩)) ∧
      ∀ stirs stirs', (w₁.stirAll stirs).backend.AtRest → (w₂.stirAll stirs').backend.AtRest →
        ∀ c, (World.run events).connections[place]? = some c →
          (c.state.isInside = true ∨
              (∃ settings, c.state = .outside settings ∧ settings.autoCommit = true) ∨
              outcome.isDone = false →
            (w₁.stirAll stirs).SameEffect (w₂.stirAll stirs')) ∧
          (∀ settings, c.state = .outside settings → settings.autoCommit = false →
            outcome.isDone = true →
            (∃ transaction session, session.openTransaction = some transaction ∧
              w₁.connections[place]?.map Connection.state = some (.outside settings) ∧
              w₂.connections[place]?.map Connection.state =
                some (.inside transaction session settings)) ∧
            (w₁.stirAll stirs).SameEffect ((w₂.stirAll stirs').leave place)) := by
  have unreported : (World.run events).backend.reports = [] :=
    (World.accords_run events).2.unreported
  generalize World.run events = w at gaveUp accepted unreported
  obtain ⟨c, -, -, -, found, -, -⟩ := World.performs_of_call gaveUp
  have here : place < w.connections.length := (List.getElem?_eq_some_iff.mp found).1
  constructor
  · obtain ⟨outcome, w₂, called, goesOn⟩ :=
      World.completes_openGate found single gaveUp accepted
    exact ⟨outcome, w₂, called, goesOn, Backend.atRest_settled _, Backend.atRest_settled _⟩
  · intro more outcome w₂ called finished
    obtain ⟨c₁, b₁, answer, c₂, b₂, rfl, rfl, rfl, compares⟩ :=
      World.compares_of_call unreported found single gaveUp accepted called
    refine ⟨compares.finishes finished, ?_⟩
    intro stirs stirs' rest rest' other found'
    cases found.symm.trans found'
    cases compares with
    | same outcome fails ended converge =>
      refine ⟨fun _ => World.sameEffect_of_converge converge rest rest', ?_⟩
      -- A statement that left no transaction open was to be committed at once.
      intro settings outside manual done
      rw [Outcome.isDone_map] at done
      rw [ended done settings outside] at manual
      cases manual
    | kept result transaction session settings before after manual fits converge =>
      refine ⟨?_, ?_⟩
      · rintro (inside | ⟨settings', outside, automatic⟩ | unfinished)
        · rw [before] at inside
          cases inside
        · cases before.symm.trans outside
          rw [manual] at automatic
          cases automatic
        · cases unfinished
      · intro settings' outside _ _
        cases before.symm.trans outside
        refine ⟨⟨transaction, session, fits, ?_, ?_⟩,
          World.sameEffect_of_leave here after converge rest rest'⟩
        · rw [List.getElem?_set_self here, Option.map_some, after]
        · rw [List.getElem?_set_self here, Option.map_some]

/-- A statement that is committed at once, given up at the closed gate and finished through the
opened one. -/
theorem World.cancelled_insert_as_completed :
    let insert : Descriptor := ⟨"INSERT", "INSERT", .data, [], [.update]⟩
    let shut : List World.Event := [.setResultSets 2, .connect .default, .stir .closeGate]
    ∃ w₁ outcome w₂, (World.run shut).call 0 (.data insert []) [] = some (.cancelled, w₁) ∧
      Journal.dataStatements (World.run shut).backend.journal <
        Journal.dataStatements w₁.backend.journal ∧
      (World.run shut).call 0 (.data insert []) [[.openGate]] = some (outcome, w₂) ∧
      outcome.isDone = true ∧
      (w₁.stirAll [.openGate, .settle]).SameEffect (w₂.stirAll [.openGate, .settle]) := by
  intro insert shut
  have stalls : (((World.run shut).call 0 (.data insert []) []).map fun result =>
      ((match result.1 with | .cancelled => true | _ => false : Bool),
        Journal.dataStatements result.2.backend.journal)) = some (true, 1) := by
    decide +kernel
  have finishes : (((World.run shut).call 0 (.data insert []) [[.openGate]]).map fun result =>
      result.1.isDone) = some true := by
    decide +kernel
  have states : (World.run shut).connections.map Connection.state =
      [.outside TransactionSettings.default] := by
    decide +kernel
  have before : Journal.dataStatements (World.run shut).backend.journal = 0 := by decide +kernel
  obtain ⟨⟨outcome₁, w₁⟩, gaveUp, facts⟩ := Option.map_eq_some_iff.mp stalls
  obtain ⟨given, counted⟩ := Prod.mk.inj facts
  obtain rfl : outcome₁ = .cancelled := by
    cases outcome₁ <;> cases given
    rfl
  obtain ⟨⟨outcome, w₂⟩, called, done⟩ := Option.map_eq_some_iff.mp finishes
  obtain ⟨c, only, state⟩ := List.map_eq_singleton_iff.mp states
  have accepted : Journal.dataStatements (World.run shut).backend.journal <
      Journal.dataStatements w₁.backend.journal := by
    rw [before, counted]
    exact Nat.zero_lt_one
  obtain ⟨-, comes⟩ :=
    World.cancelled_as_completed shut gaveUp (Nat.zero_le 1) accepted
  have unended : outcome ≠ .cancelled := by
    rintro rfl
    cases done
  obtain ⟨same, -⟩ := (comes [[.openGate]] outcome w₂ called unended).2 [.openGate, .settle]
    [.openGate, .settle] (Backend.atRest_settled _) (Backend.atRest_settled _) c (by rw [only]; rfl)
  exact ⟨w₁, outcome, w₂, gaveUp, accepted, called, done,
    same (Or.inr (Or.inl ⟨_, state, rfl⟩))⟩

end SqlDriver
