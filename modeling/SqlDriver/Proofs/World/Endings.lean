import SqlDriver.Proofs.Connection.Endings
import SqlDriver.Proofs.World.Agreement

/-!
The transactions that were ended in a world. In every run the lists that the backend keeps of them
are those that its clients can put together from their own calls, in the same order, and no
transaction is in them twice.
-/

namespace SqlDriver

/-- The transaction that an event has ended, if any, as the clients know it. -/
def World.endedBy (w : World) : World.Event → List (Ending × TransactionId)
  | .call place request patience =>
    match w.connections[place]? with
    | some c => c.endedBy w.backend patience request
    | none => []
  | _ => []

/-- The transactions that events have ended, in order, as the clients know it. -/
def World.endings (w : World) : List World.Event → List (Ending × TransactionId)
  | [] => []
  | event :: events => w.endedBy event ++ World.endings (w.step event) events

theorem World.endings_concat (w : World) (events : List World.Event) (event : World.Event) :
    w.endings (events ++ [event]) =
      w.endings events ++ (events.foldl World.step w).endedBy event := by
  induction events generalizing w with
  | nil =>
    rw [List.nil_append, World.endings]
    exact List.append_nil _
  | cons first rest ih =>
    rw [List.cons_append, World.endings, ih, World.endings, List.append_assoc]
    rfl

/-- The transactions that are open on connections, in order of their places. -/
def World.openTransactions (w : World) : List TransactionId :=
  w.connections.filterMap fun c => c.state.transaction?

/-- The ended and the open transactions are all different. -/
def World.Distinct (w : World) : Prop := Journal.Distinct w.backend.journal w.openTransactions

/-- A call on the connection at a place, by what it makes of the open transaction there. What is
open at the other places is kept apart from it. -/
theorem World.Distinct.call {w : World} (h : w.Distinct) {place : Nat} {c c' : Connection}
    {b' : Backend} {ended : List (Ending × TransactionId)}
    (found : w.connections[place]? = some c) (turns : c.Turns w.backend ended c' b') :
    World.Distinct ⟨w.connections.set place c', b'⟩ :=
  Journal.Distinct.replace h found fun _ before => before.turns turns

/-- Every event ends the transactions that the clients know to be ended by it, and keeps all
transactions different. -/
theorem World.Distinct.step {w : World} (h : w.Distinct) (unreported : w.backend.reports = [])
    (event : World.Event) :
    (w.step event).Distinct ∧ Journal.endings (w.step event).backend.journal =
      Journal.endings w.backend.journal ++ w.endedBy event := by
  have still : ∀ {w' : World}, w.backend.Unended w'.backend →
      w'.openTransactions.Sublist w.openTransactions → w'.Distinct ∧
        Journal.endings w'.backend.journal = Journal.endings w.backend.journal ++ [] := by
    intro w' unended fewer
    refine ⟨(Journal.Distinct.keep h unended.endings unended.issued).sublist fewer, ?_⟩
    rw [unended.endings, List.append_nil]
  cases event with
  | connect config =>
    have same : (w.step (.connect config)).openTransactions = w.openTransactions := by
      rw [World.openTransactions, World.step, List.filterMap_append]
      exact List.append_nil _
    refine still (.refl _) ?_
    rw [same]
  | call place request patience =>
    rw [World.step, World.call, World.endedBy]
    cases found : w.connections[place]? with
    | none => exact still (.refl _) (.refl _)
    | some c =>
      have turns := c.perform_turns unreported patience request
      exact ⟨h.call found turns, turns.endings⟩
  | drop place =>
    rw [World.step]
    cases found : w.connections[place]? with
    | none => exact still (.refl _) (.refl _)
    | some c =>
      exact still (.streamWork (c.drop_streamWork w.backend))
        ((List.eraseIdx_sublist _ _).filterMap _)
  | stir stir => exact still (.streamWork (.stir w.backend stir)) (.refl _)
  | inject call skip status => exact still ⟨rfl, Nat.le_refl _, rfl⟩ (.refl _)
  | setResultSets count => exact still ⟨rfl, Nat.le_refl _, rfl⟩ (.refl _)

/-- After every run, the ended transactions are those that the clients know of, and with the open
ones they are all different. -/
theorem World.distinct_run (events : List World.Event) :
    (World.run events).Distinct ∧ Journal.endings (World.run events).backend.journal =
      World.endings ⟨[], .fresh⟩ events := by
  induction events using List.reverseRecOn with
  | nil => exact ⟨Journal.Distinct.empty, rfl⟩
  | append_singleton events event ih =>
    have unreported := (World.accords_run events).2.unreported
    obtain ⟨distinct, endings⟩ := ih.1.step unreported event
    rw [World.run_concat, World.endings_concat]
    refine ⟨distinct, endings.trans ?_⟩
    rw [ih.2]
    rfl

/-- An event commits nothing, or it is a call that was to commit the transaction that is open, and
succeeds. -/
theorem World.Distinct.committed_step {w : World} (h : w.Distinct)
    (unreported : w.backend.reports = []) (event : World.Event) :
    Journal.committed (w.step event).backend.journal = Journal.committed w.backend.journal ∨
      ∃ place request patience c transaction response w',
        event = .call place request patience ∧ w.connections[place]? = some c ∧
        c.state.transaction? = some transaction ∧
        (request = .commit ∨ request = .close ∨ request = .setAutoCommit true) ∧
        w.call place request patience = some (.done response, w') ∧
        Journal.committed w'.backend.journal =
          Journal.committed w.backend.journal ++ [transaction] := by
  have grows := congrArg Ending.commit.select (h.step unreported event).2
  rw [Ending.select_append, ← Journal.committed_eq, ← Journal.committed_eq] at grows
  rw [grows]
  cases event with
  | call place request patience =>
    rw [World.endedBy] at grows ⊢
    cases found : w.connections[place]? with
    | none => exact Or.inl (List.append_nil _)
    | some c =>
      rw [found] at grows
      rcases c.commits_endedBy w.backend patience request with none | ⟨t, only, state, asks, done⟩
      · exact Or.inl ((congrArg (_ ++ ·) none).trans (List.append_nil _))
      · obtain ⟨response, outcome⟩ := Outcome.eq_done_of_isDone done
        have called : w.call place request patience =
            some (.done response, w.step (.call place request patience)) := by
          rw [World.step, World.call, found, ← outcome]
          rfl
        refine Or.inr ⟨place, request, patience, c, t, response, _, rfl, found, state, asks,
          called, ?_⟩
        rw [grows]
        exact congrArg (_ ++ ·) only
  | _ => exact Or.inl (List.append_nil _)

theorem Connection.committed_abandon (c : Connection) (b : Backend) :
    Journal.committed (c.abandon b).journal = Journal.committed b.journal := by
  rw [Connection.abandon]
  split
  · rename_i transaction session settings state
    have unended := (Backend.Unended.refl b).release session
    rw [Journal.committed_eq, unended.endings, ← Journal.committed_eq]
  · rfl

/-- The transaction log of the backend is what its clients know. It lists as committed the
transactions that were open when a commit, a close or turning on automatic committing succeeded, and
as rolled back those that were open when a rollback succeeded or a forced close got its rollback
accepted, each in order and no transaction twice. Nothing else that may happen, and no call that
fails or is given up, adds to what was committed; nor does dropping a connection where nothing can
go on in the background. -/
theorem World.transaction_log_agrees (events : List World.Event) :
    let w := World.run events
    let j := w.backend.journal
    Journal.committed j = Ending.commit.select (World.endings ⟨[], .fresh⟩ events) ∧
      Journal.rolledBack j = Ending.rollback.select (World.endings ⟨[], .fresh⟩ events) ∧
      (Journal.committed j ++ Journal.rolledBack j).Nodup ∧
      (∀ event : World.Event,
        Journal.committed (w.step event).backend.journal = Journal.committed j ∨
        ∃ place request patience c transaction response w',
          event = .call place request patience ∧ w.connections[place]? = some c ∧
          c.state.transaction? = some transaction ∧
          (request = .commit ∨ request = .close ∨ request = .setAutoCommit true) ∧
          w.call place request patience = some (.done response, w') ∧
          Journal.committed w'.backend.journal = Journal.committed j ++ [transaction]) ∧
      ∀ c : Connection, Journal.committed (c.abandon w.backend).journal = Journal.committed j := by
  intro w j
  obtain ⟨distinct, endings⟩ := World.distinct_run events
  have unreported := (World.accords_run events).2.unreported
  refine ⟨?_, ?_, distinct.nodup_endings, distinct.committed_step unreported, fun c => ?_⟩
  · rw [Journal.committed_eq, endings]
  · rw [Journal.rolledBack_eq, endings]
  · exact c.committed_abandon w.backend

/-- A commit that is refused and tried again, and a forced close that comes after a rollback. -/
example :
    World.endings ⟨[], .fresh⟩ [.connect .default, .inject .commit 0 .unavailable,
      .call 0 (.begin .default) [], .call 0 .commit [], .call 0 .commit [],
      .call 0 (.begin .default) [], .call 0 .rollback [], .call 0 (.begin .default) [],
      .call 0 .forceClose []] =
        [(.commit, .issued 0), (.rollback, .issued 1), (.rollback, .issued 2)] := by
  decide +kernel

end SqlDriver
