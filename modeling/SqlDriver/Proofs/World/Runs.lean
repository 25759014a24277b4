import Mathlib.Data.List.Induction
import SqlDriver.Connection.Request

/-!
Runs of any number of connections over one backend. Between the calls the backend may be told to
refuse requests, its gate may be opened and closed, its background streams go on in any order, and
connections are opened and dropped. A call is given up when its patience runs out at a stall.
-/

namespace SqlDriver

/-- The connections that were opened and not dropped, and the backend that they share. -/
structure World where
  connections : List Connection
  backend : Backend

/-- Something that happens in a world. Connections are named by their places. -/
inductive World.Event where
  | connect (config : Config)
  | call (place : Nat) (request : Request) (patience : Patience)
  | drop (place : Nat)
  | stir (stir : Stir)
  | inject (call : CallKind) (skip : Nat) (status : Status)
  | setResultSets (count : Nat)

/-- What a call on the connection at a place comes to. -/
def World.call (w : World) (place : Nat) (request : Request) (patience : Patience) :
    Option (Outcome Response × World) :=
  w.connections[place]?.map fun c =>
    let (outcome, c, b, _) := c.perform w.backend patience request
    (outcome, ⟨w.connections.set place c, b⟩)

def World.step (w : World) : World.Event → World
  | .connect config => { w with connections := w.connections ++ [.open config] }
  | .call place request patience => ((w.call place request patience).map Prod.snd).getD w
  | .drop place =>
    match w.connections[place]? with
    | none => w
    | some c => ⟨w.connections.eraseIdx place, c.drop w.backend⟩
  | .stir stir => { w with backend := w.backend.stir stir }
  | .inject call skip status => { w with backend := w.backend.inject call skip status }
  | .setResultSets count => { w with backend := w.backend.setResultSets count }

/-- The world after everything that happened, beginning with no connection over a fresh backend. -/
def World.run (events : List World.Event) : World :=
  events.foldl World.step ⟨[], .fresh⟩

theorem World.run_concat (events : List World.Event) (event : World.Event) :
    World.run (events ++ [event]) = (World.run events).step event := by
  rw [World.run, List.foldl_append]
  rfl

/-- What a call in a world has done on the connection at its place. -/
theorem World.performs_of_call {w w' : World} {place : Nat} {request : Request}
    {patience : Patience} {outcome : Outcome Response}
    (called : w.call place request patience = some (outcome, w')) :
    ∃ c c' b' patience', w.connections[place]? = some c ∧
      c.perform w.backend patience request = (outcome, c', b', patience') ∧
      w' = ⟨w.connections.set place c', b'⟩ := by
  obtain ⟨c, found, same⟩ := Option.map_eq_some_iff.mp called
  generalize performed : c.perform w.backend patience request = run at same
  obtain ⟨outcome', c', b', patience'⟩ := run
  cases same
  exact ⟨c, c', b', patience', found, performed, rfl⟩

/-- What holds at the start and is kept by every event holds after every run. -/
theorem World.run_induction {P : List World.Event → World → Prop} (fresh : P [] ⟨[], .fresh⟩)
    (step : ∀ events w event, P events w → P (events ++ [event]) (w.step event))
    (events : List World.Event) : P events (World.run events) := by
  induction events using List.reverseRecOn with
  | nil => exact fresh
  | append_singleton events event ih =>
    rw [World.run_concat]
    exact step events (World.run events) event ih

end SqlDriver
