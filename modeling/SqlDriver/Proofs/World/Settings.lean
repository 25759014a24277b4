import SqlDriver.Proofs.Connection.Settings
import SqlDriver.Proofs.World.Agreement

/-!
The settings of the connections of a world. In every run an open transaction is in the mode that the
settings of its connection are in and that it was begun in, whatever happened in between, here or on
other connections; and what data statements say of transactions is by the state of their connection
at the time.
-/

namespace SqlDriver

/-- Transactions were begun in the order of their identifiers, and those that are open on
connections in the modes that their settings are in. -/
structure World.Settled (w : World) : Prop where
  numbered : Journal.Numbered w.backend.journal
  settled : ∀ c ∈ w.connections, c.state.Settled (Journal.openings w.backend.journal)

/-- What is not a call says nothing of transactions and begins none, and brings no connection but a
new one. -/
theorem World.logs_step (w : World) {event : World.Event}
    (other : ∀ place request patience, event ≠ .call place request patience) :
    w.backend.Logs [] [] (w.step event).backend ∧
      ∀ c ∈ (w.step event).connections, c ∈ w.connections ∨
        ∃ config, event = .connect config ∧ c = .open config := by
  cases event with
  | connect config =>
    refine ⟨.refl _, ?_⟩
    intro c member
    rcases List.mem_append.mp member with member | member
    · exact Or.inl member
    · exact Or.inr ⟨config, rfl, List.mem_singleton.mp member⟩
  | call place request patience => exact (other place request patience rfl).elim
  | drop place =>
    rw [World.step]
    cases found : w.connections[place]? with
    | none => exact ⟨.refl _, fun c member => Or.inl member⟩
    | some c =>
      exact ⟨.of_streamWork (c.drop_streamWork w.backend),
        fun c' member => Or.inl (List.mem_of_mem_eraseIdx member)⟩
  | stir stir => exact ⟨.of_streamWork (.stir w.backend stir), fun c member => Or.inl member⟩
  | inject call skip status =>
    exact ⟨(Backend.Logs.refl w.backend).congr rfl, fun c member => Or.inl member⟩
  | setResultSets count =>
    exact ⟨(Backend.Logs.refl w.backend).congr rfl, fun c member => Or.inl member⟩

namespace World.Settled

variable {w w' : World}

theorem call {refusals : List (CallKind × Status)} (h : w.Settled) (accords : w.Accords refusals)
    {place : Nat} {request : Request} {patience : Patience} {outcome : Outcome Response}
    (called : w.call place request patience = some (outcome, w')) : w'.Settled := by
  obtain ⟨c, c', b', patience', found, performed, rfl⟩ := World.performs_of_call called
  have member : c ∈ w.connections := List.mem_of_getElem? found
  have mine : Connection.InStep refusals (Journal.openings w.backend.journal) c w.backend :=
    ⟨⟨accords.1 c member, accords.2⟩, h.numbered, List.prefix_refl _, h.settled c member⟩
  have kept := ((Connection.law_inStep _ _).perform mine patience request).1
  rw [performed] at kept
  refine ⟨kept.numbered, ?_⟩
  intro other member
  rcases List.mem_or_eq_of_mem_set member with member | rfl
  · exact (h.settled other member).grow kept.kept
  · exact kept.settled

theorem step {refusals : List (CallKind × Status)} (h : w.Settled) (accords : w.Accords refusals)
    (event : World.Event) : (w.step event).Settled := by
  by_cases calls : ∃ place request patience, event = .call place request patience
  · obtain ⟨place, request, patience, rfl⟩ := calls
    rw [World.step]
    cases called : w.call place request patience with
    | none => exact h
    | some result => exact h.call accords called
  · have other : ∀ place request patience, event ≠ .call place request patience :=
      fun place request patience same => calls ⟨place, request, patience, same⟩
    obtain ⟨logs, connections⟩ := w.logs_step other
    refine ⟨logs.numbered h.numbered, ?_⟩
    intro c member
    rcases connections c member with member | ⟨config, -, rfl⟩
    · rw [logs.openings, List.append_nil]
      exact h.settled c member
    · exact Connection.State.settled_of_not_inside rfl _

end World.Settled

end SqlDriver
