import Mathlib.Data.List.Perm.Basic
import SqlDriver.Proofs.Connection.Custody
import SqlDriver.Proofs.World.Runs

/-!
The sessions of a world. In every run each session that was handed out is in one place: it was given
back once, or one connection holds it, or one background stream runs on it with its lease, or it
waits for the stream of a connection that was dropped. Whoever uses a session or gives it back finds
no stream on it.
-/

namespace SqlDriver

/-! ## Where sessions are -/

/-- The sessions held by connections. -/
def World.heldSessions (w : World) : List Nat :=
  w.connections.filterMap fun c => c.state.session?.map Session.number

/-- The session whose lease a background stream keeps. -/
def Background.leased? (task : Background) : Option Nat :=
  match task.drain.guard with
  | some (.lease session) => some session.number
  | _ => none

/-- The sessions on which streams go on in the background with a lease of their own. -/
def World.leasedSessions (w : World) : List Nat := w.backend.background.filterMap Background.leased?

/-- The sessions of dropped connections that wait for a stream in the background. -/
def World.waitingSessions (w : World) : List Nat :=
  w.backend.background.flatMap fun task => task.waiting.map Session.number

/-- The sessions that connections hold are those of their open transactions. -/
theorem Connection.sessions_holds (connections : List Connection) :
    (connections.flatMap Connection.holds).map Hold.session =
      connections.filterMap fun c => c.state.session?.map Session.number := by
  induction connections with
  | nil => rfl
  | cons c rest ih =>
    rw [List.flatMap_cons, List.map_append, ih, List.filterMap_cons]
    cases state : c.state with
    | inside transaction session settings => rw [Connection.holds_inside state]; rfl
    | outside settings => rw [Connection.holds_not_inside (by rw [state]; rfl)]; rfl
    | closed => rw [Connection.holds_not_inside (by rw [state]; rfl)]; rfl

/-- A connection holds a session exactly while a transaction is open on it, and holds no other. -/
theorem World.length_heldSessions (w : World) :
    w.heldSessions.length = w.connections.countP fun c => c.state.isInside := by
  rw [World.heldSessions, List.length_filterMap_eq_countP]
  exact List.countP_congr fun c _ => by
    cases state : c.state <;> simp [Connection.State.session?, Connection.State.isInside,
      Connection.State.transaction?]

/-- A background stream holds the session that it has a lease for, and those that wait for it. -/
theorem Background.sessions_holds (task : Background) :
    task.holds.map Hold.session = task.leased?.toList ++ task.waiting.map Session.number := by
  have waiting : (Hold.waiting task.stream? task.waiting).map Hold.session =
      task.waiting.map Session.number := by
    rw [Hold.waiting, List.map_map]
    rfl
  rw [Background.holds, List.map_append, waiting, Background.leased?]
  cases task.drain.guard with
  | none => rfl
  | some guard => cases guard <;> rfl

theorem Backend.sessions_holds (b : Backend) :
    (b.holds.map Hold.session).Perm (b.background.filterMap Background.leased? ++
      b.background.flatMap fun task => task.waiting.map Session.number) := by
  rw [Backend.holds]
  induction b.background with
  | nil => exact .refl _
  | cons task rest ih =>
    rw [List.flatMap_cons, List.map_append, Background.sessions_holds, List.flatMap_cons,
      List.filterMap_cons, List.append_assoc]
    have step := (ih.append_left (task.waiting.map Session.number)).trans
      (List.perm_append_comm_assoc ..)
    cases task.leased? with
    | none => exact step
    | some session => exact step.cons session

/-- The connections and the background hold every session that is out. -/
def World.Custody (w : World) : Prop :=
  w.backend.Custody (w.connections.flatMap Connection.holds) []

/-- Custody from the place of one connection: the other connections hold sessions of their own. -/
theorem World.Custody.at_place {w : World} (h : w.Custody) {place : Nat}
    (inside : place < w.connections.length) :
    w.backend.Custody (w.connections[place].holds ++
      (w.connections.eraseIdx place).flatMap Connection.holds) [] :=
  Backend.Custody.perm h ((List.getElem_cons_eraseIdx_perm inside).symm.flatMap_right _)

/-- Every event keeps custody. A call may be looked at where it is made, as the connections at other
places only hold sessions of their own. -/
theorem World.Custody.step {w : World} (h : w.Custody) (event : World.Event) :
    (w.step event).Custody := by
  cases event with
  | connect config =>
    have same : (w.connections ++ [Connection.open config]).flatMap Connection.holds =
        w.connections.flatMap Connection.holds := by
      rw [List.flatMap_append, List.flatMap_singleton]
      exact List.append_nil _
    rw [World.Custody, World.step, same]
    exact h
  | call place request patience =>
    rw [World.step, World.call]
    cases found : w.connections[place]? with
    | none => exact h
    | some c =>
      obtain ⟨inside, rfl⟩ := List.getElem?_eq_some_iff.mp found
      have kept := ((Connection.law_custody _).perform (h.at_place inside) patience request).1
      exact kept.perm ((List.set_perm_cons_eraseIdx inside _).symm.flatMap_right _)
  | drop place =>
    rw [World.step]
    cases found : w.connections[place]? with
    | none => exact h
    | some c =>
      obtain ⟨inside, rfl⟩ := List.getElem?_eq_some_iff.mp found
      exact (h.at_place inside).dropConnection
  | stir stir => exact Backend.Custody.stir h stir
  | inject call skip status => exact Backend.Custody.congr h rfl rfl rfl
  | setResultSets count => exact Backend.Custody.congr h rfl rfl rfl

/-- After every run the journal accounts for all sessions and streams, by induction on the events.
-/
theorem World.custody_run (events : List World.Event) : (World.run events).Custody :=
  World.run_induction (P := fun _ w => w.Custody) Backend.Custody.fresh
    (fun _ _ event h => h.step event) events

/-- Every stream in the background is one that has not ended. -/
theorem Backend.Custody.background_streams {b : Backend} {outside : List Hold} {running : List Nat}
    (h : b.Custody outside running) : b.background.map Background.stream? = b.streams.map some := by
  rw [Backend.streams]
  have sound := h.sound
  generalize b.background = tasks at sound
  induction tasks with
  | nil => rfl
  | cons task rest ih =>
    obtain ⟨stream, guard, runs, kept, fits⟩ := sound task List.mem_cons_self
    rw [List.map_cons, List.filterMap_cons, runs,
      ih fun other member => sound other (List.mem_cons_of_mem _ member)]
    rfl

/-- Every session that was handed out is in one place: given back, held by a connection, leased to a
stream or waiting for one. -/
theorem World.Custody.sessions {w : World} (h : w.Custody) :
    (Journal.releases w.backend.journal ++
      (w.heldSessions ++ (w.leasedSessions ++ w.waitingSessions))).Perm
        (List.range' 1 (Journal.acquired w.backend.journal)) := by
  have ledger := h.ledger.sessions
  rw [List.map_append, Connection.sessions_holds] at ledger
  exact ((w.backend.sessions_holds.symm.append_left _).append_left _).trans ledger

/-- Every stream that was started has ended or goes on in the background. Between two calls there is
no other place for it. -/
theorem World.Custody.streams {w : World} (h : w.Custody) :
    ((Journal.completions w.backend.journal).map some ++
      w.backend.background.map Background.stream?).Perm
        ((List.range (Journal.dataStatements w.backend.journal)).map some) := by
  have ledger := h.ledger.streams
  rw [List.nil_append, Journal.length_hosts] at ledger
  rw [h.background_streams, ← List.map_append]
  exact ledger.map some

/-- Counted by their places, the sessions add up to those that were handed out. -/
theorem World.Custody.acquired_eq {w : World} (h : w.Custody) :
    Journal.acquired w.backend.journal = Journal.released w.backend.journal +
      ((w.connections.countP fun c => c.state.isInside) + w.leasedSessions.length +
        w.waitingSessions.length) := by
  have count := h.sessions.length_eq
  rw [List.length_append, List.length_append, List.length_append, List.length_range',
    Journal.length_releases, World.length_heldSessions] at count
  omega

/-- When nothing is left in the background, every stream has ended, and only connections hold
sessions. -/
theorem World.Custody.quiescent {w : World} (h : w.Custody) (done : w.backend.background = []) :
    Journal.streamsCompleted w.backend.journal = Journal.dataStatements w.backend.journal ∧
      Journal.openSessions w.backend.journal = w.connections.countP fun c => c.state.isInside := by
  constructor
  · have count := h.streams.length_eq
    rw [done, List.map_nil, List.append_nil, List.length_map, List.length_map, List.length_range,
      Journal.length_completions] at count
    exact count
  · have total := h.acquired_eq
    have leased : w.leasedSessions = [] := by rw [World.leasedSessions, done]; rfl
    have waiting : w.waitingSessions = [] := by rw [World.waitingSessions, done]; rfl
    rw [leased, waiting, List.length_nil] at total
    rw [Journal.openSessions, total]
    omega

/-! ## In every run -/

/-- Whatever uses a session or gives it back finds every earlier stream on it at its end, so no
session ever carries two live streams. -/
theorem World.sessions_drained_before_use (events : List World.Event) :
    let j := (World.run events).backend.journal
    (∀ (place : Nat) (entry : Entry) (session : Nat), j[place]? = some entry →
        entry.session? = some session → Journal.Quiet (j.take place) session) ∧
      ∀ place session stream stream' : Nat, Journal.Live (j.take place) stream session →
        Journal.Live (j.take place) stream' session → stream = stream' := by
  intro j
  have drained : Journal.DrainsBeforeUse j := (World.custody_run events).ledger.drained
  constructor
  · intro place entry session found uses
    obtain ⟨inside, rfl⟩ := List.getElem?_eq_some_iff.mp found
    have split : j = j.take place ++ j[place] :: j.drop (place + 1) := by
      rw [← List.drop_eq_getElem_cons inside, List.take_append_drop]
    exact drained _ _ _ split session uses
  · intro place session stream stream' live live'
    have before : Journal.DrainsBeforeUse (j.take place) := by
      intro earlier entry later split
      apply drained earlier entry (later ++ j.drop place)
      rw [← List.cons_append, ← List.append_assoc, ← split, List.take_append_drop]
    exact before.unique_live live live'

/-- A statement that is given up at the closed gate, and the commit that waits for its stream. -/
theorem World.sessions_drained_before_commit :
    let j := (World.run [.connect .default, .call 0 (.begin .default) [], .stir .closeGate,
      .call 0 (.data ⟨"INSERT", "INSERT", .data, [], [.update]⟩ []) [],
      .call 0 .commit [[.openGate, .settle]]]).backend.journal
    j[10]? = some (.committed 1 (.issued 0)) ∧ (Journal.hosts (j.take 10))[0]? = some 1 ∧
      Entry.completed 0 ∈ j.take 10 ∧ ∀ stream, Journal.Live (j.take 6) stream 1 → stream = 0 := by
  intro j
  have committed : j[10]? = some (.committed 1 (.issued 0)) := by decide +kernel
  have hosted : (Journal.hosts (j.take 10))[0]? = some 1 := by decide +kernel
  have live : Journal.Live (j.take 6) 0 1 := ⟨by decide +kernel, by decide +kernel⟩
  obtain ⟨uses, unique⟩ := World.sessions_drained_before_use [.connect .default,
    .call 0 (.begin .default) [], .stir .closeGate,
    .call 0 (.data ⟨"INSERT", "INSERT", .data, [], [.update]⟩ []) [],
    .call 0 .commit [[.openGate, .settle]]]
  exact ⟨committed, hosted, uses 10 _ 1 committed rfl 0 hosted,
    fun stream other => unique 6 1 stream 0 other live⟩

/-- No session is leaked or given back twice, and no stream is abandoned. At any time the sessions
that are out are those of the connections with an open transaction, those whose leases are kept by
streams in the background, and those of dropped connections that wait for a stream. Once the gate is
open and the background has run, only the first are left. -/
theorem World.sessions_in_one_place (events : List World.Event) :
    let w := World.run events
    let j := w.backend.journal
    (Journal.releases j ++ (w.heldSessions ++ (w.leasedSessions ++ w.waitingSessions))).Perm
        (List.range' 1 (Journal.acquired j)) ∧
      ((Journal.completions j).map some ++ w.backend.background.map Background.stream?).Perm
        ((List.range (Journal.dataStatements j)).map some) ∧
      Journal.acquired j = Journal.released j +
        ((w.connections.countP fun c => c.state.isInside) + w.leasedSessions.length +
          w.waitingSessions.length) ∧
      (∀ place, Journal.released (j.take place) ≤ Journal.acquired (j.take place)) ∧
      (w.backend.gateOpen = true →
        w.backend.settle.background = [] ∧
        Journal.streamsCompleted w.backend.settle.journal =
          Journal.dataStatements w.backend.settle.journal ∧
        Journal.openSessions w.backend.settle.journal =
          w.connections.countP fun c => c.state.isInside) := by
  intro w j
  have h : w.Custody := World.custody_run events
  refine ⟨h.sessions, h.streams, h.acquired_eq, ?_, ?_⟩
  · intro place
    exact h.ledger.covered (j.take place) (j.drop place) (List.take_append_drop ..).symm
  · intro gate
    have settled : (w.step (.stir .settle)).Custody := h.step (.stir .settle)
    have done : (w.step (.stir .settle)).backend.background = [] := Backend.settle_of_gateOpen gate
    exact ⟨done, settled.quiescent done⟩

/-- A statement outside a transaction that is given up at the closed gate, which is then opened. -/
theorem World.session_of_given_up_statement :
    let w := World.run [.setResultSets 2, .connect .default, .stir .closeGate,
      .call 0 (.data ⟨"INSERT", "INSERT", .data, [], [.update]⟩ []) [], .stir .openGate]
    w.leasedSessions = [1] ∧ w.backend.gateOpen = true ∧
      Journal.openSessions w.backend.journal = 1 ∧
      Journal.openSessions w.backend.settle.journal = 0 := by
  intro w
  have leased : w.leasedSessions = [1] := by decide +kernel
  have gate : w.backend.gateOpen = true := by decide +kernel
  have out : Journal.openSessions w.backend.journal = 1 := by decide +kernel
  have settled := (World.sessions_in_one_place [.setResultSets 2, .connect .default,
    .stir .closeGate, .call 0 (.data ⟨"INSERT", "INSERT", .data, [], [.update]⟩ []) [],
    .stir .openGate]).2.2.2.2 gate
  have outside : (w.connections.countP fun c => c.state.isInside) = 0 := by decide +kernel
  exact ⟨leased, gate, out, settled.2.2.trans outside⟩

end SqlDriver
