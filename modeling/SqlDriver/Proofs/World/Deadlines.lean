import SqlDriver.Proofs.Connection.Deadlines
import SqlDriver.Proofs.World.Closing

/-!
The deadlines in the journal of a world. In every run each request stands in it with the deadline of
its kind as it was configured on the connection that made it: for sessions and for transactions as
the connection was opened, and for statements as it was set last before the call that brought them.
What is set on one connection is no matter of another, wherever they move when others are dropped.
-/

namespace SqlDriver

/-! ## Configurations -/

/-- The configuration of the connection at a place after an event. -/
def World.Event.configure (place : Nat) (config : Config) : World.Event → Config
  | .call other request _ => if other = place then request.configure config else config
  | _ => config

/-- The configuration of the connection at a place, as it was opened with, but for the deadline of
statements that was set on it last. -/
inductive World.Configured : List World.Event → Nat → Config → Prop
  | opened (events : List World.Event) (config : Config) :
      World.Configured (events ++ [.connect config]) (World.run events).connections.length config
  | moved {events : List World.Event} {place place' : Nat} {config : Config} (event : World.Event)
      (configured : World.Configured events place config)
      (followed : World.Event.follow place event = some place') :
      World.Configured (events ++ [event]) place' (World.Event.configure place config event)

/-- Where a connection comes from that is at a place after an event. -/
theorem World.step_origin {w : World} {place' : Nat} {c' : Connection} {event : World.Event}
    (found : (w.step event).connections[place']? = some c') :
    (∃ config, event = .connect config ∧ place' = w.connections.length ∧ c' = .open config) ∨
      ∃ place c, w.connections[place]? = some c ∧
        World.Event.follow place event = some place' := by
  cases event with
  | connect config =>
    rw [World.step, List.getElem?_append] at found
    split at found
    · exact Or.inr ⟨place', c', found, rfl⟩
    · rename_i beyond
      rcases List.getElem?_eq_some_iff.mp found with ⟨inside, same⟩
      rw [List.length_singleton] at inside
      refine Or.inl ⟨config, rfl, by omega, ?_⟩
      rw [List.getElem_singleton] at same
      exact same.symm
  | call other request patience =>
    rw [World.step, World.call] at found
    cases found₁ : w.connections[other]? with
    | none =>
      rw [found₁] at found
      exact Or.inr ⟨place', c', found, rfl⟩
    | some c₁ =>
      rw [found₁] at found
      rcases List.getElem?_eq_some_iff.mp found with ⟨inside, -⟩
      simp only [Option.map_some, Option.getD_some, List.length_set] at inside
      exact Or.inr ⟨place', w.connections[place'], List.getElem?_eq_getElem inside, rfl⟩
  | drop other =>
    rw [World.step] at found
    cases found₁ : w.connections[other]? with
    | none =>
      rw [found₁] at found
      dsimp only at found
      rcases List.getElem?_eq_some_iff.mp found with ⟨inside, -⟩
      have behind := List.getElem?_eq_none_iff.mp found₁
      refine Or.inr ⟨place', c', found, ?_⟩
      rw [World.Event.follow, if_neg (by omega), if_neg (by omega)]
    | some c₁ =>
      rw [found₁] at found
      simp only [List.getElem?_eraseIdx] at found
      split at found
      · rename_i before
        refine Or.inr ⟨place', c', found, ?_⟩
        rw [World.Event.follow, if_neg (by omega), if_neg (by omega)]
      · rename_i behind
        refine Or.inr ⟨place' + 1, c', found, ?_⟩
        rw [World.Event.follow, if_neg (by omega), if_pos (by omega)]
        rfl
  | stir stir => exact Or.inr ⟨place', c', found, rfl⟩
  | inject call skip status => exact Or.inr ⟨place', c', found, rfl⟩
  | setResultSets count => exact Or.inr ⟨place', c', found, rfl⟩

/-- What an event does to the configuration of a connection. -/
theorem World.Accords.configure {w : World} {refusals : List (CallKind × Status)}
    (accords : w.Accords refusals) {place place' : Nat} {c : Connection} {event : World.Event}
    (found : w.connections[place]? = some c)
    (followed : World.Event.follow place event = some place') :
    ∃ c', (w.step event).connections[place']? = some c' ∧
      c'.config = World.Event.configure place c.config event := by
  rcases World.step_follow found followed with
    ⟨c', found', ⟨other, rfl⟩ | ⟨request, patience, rfl, rfl⟩⟩
  · refine ⟨c', found', ?_⟩
    cases event with
    | call other' request patience =>
      rw [World.Event.configure, if_neg]
      rintro rfl
      exact other request patience rfl
    | _ => rfl
  · refine ⟨_, found', ?_⟩
    have mine : Connection.Accords refusals c w.backend :=
      ⟨accords.1 c (List.mem_of_getElem? found), accords.2⟩
    rw [World.Event.configure, if_pos rfl]
    exact (mine.perform_asks patience request).1

/-- The configuration of a connection is what the events say: that it was opened with, as changed
since by the calls on it. -/
theorem World.configured_iff {events : List World.Event} {place : Nat} {config : Config} :
    World.Configured events place config ↔
      ∃ c, (World.run events).connections[place]? = some c ∧ c.config = config := by
  constructor
  · intro configured
    induction configured with
    | opened events config =>
      refine ⟨.open config, ?_, rfl⟩
      rw [World.run_concat]
      exact List.getElem?_concat_length
    | moved event configured followed ih =>
      rcases ih with ⟨c, found, rfl⟩
      rw [World.run_concat]
      exact (World.accords_run _).configure found followed
  · rintro ⟨c, found, rfl⟩
    induction events using List.reverseRecOn generalizing place c with
    | nil => cases found
    | append_singleton events event ih =>
      rw [World.run_concat] at found
      rcases World.step_origin found with ⟨config, rfl, rfl, rfl⟩ | ⟨before, c₀, found₀, followed⟩
      · exact .opened events config
      · rcases (World.accords_run events).configure found₀ followed with ⟨c', found', config⟩
        rw [found] at found'
        cases found'
        rw [config]
        exact .moved event (ih c₀ found₀) followed

/-! ## Requests -/

/-- A request was made by a call whose business it is, and carries the deadline of its kind that was
configured on the connection when the call was made. -/
def World.Issued (events : List World.Event) (kind : CallKind) (deadline : Duration) : Prop :=
  ∃ before place request patience after config,
    events = before ++ .call place request patience :: after ∧
      World.Configured before place config ∧ kind ∈ request.kinds ∧ deadline = config.deadline kind

/-- What was asked for by a call of a run was asked for by a call of every longer run. -/
theorem World.Issued.concat {events : List World.Event} {kind : CallKind} {deadline : Duration}
    (issued : World.Issued events kind deadline) (event : World.Event) :
    World.Issued (events ++ [event]) kind deadline := by
  rcases issued with ⟨before, place, request, patience, after, config, rfl, rest⟩
  exact ⟨before, place, request, patience, after ++ [event], config, by simp, rest⟩

/-- What is not a call asks for nothing. -/
theorem World.requests_step (w : World) {event : World.Event}
    (other : ∀ place request patience, event ≠ .call place request patience) :
    Journal.requests (w.step event).backend.journal = Journal.requests w.backend.journal := by
  cases event with
  | connect config => rfl
  | call place request patience => exact (other place request patience rfl).elim
  | drop place =>
    rw [World.step]
    cases w.connections[place]? with
    | none => rfl
    | some c => exact (c.drop_streamWork w.backend).records.1
  | stir stir => exact (Backend.StreamWork.stir w.backend stir).records.1
  | inject call skip status => rfl
  | setResultSets count => rfl

/-- What a call has asked for. A wait that is given up is one for a stream on the session of an open
transaction, so the call has done nothing. -/
theorem World.call_asks {events : List World.Event} {place : Nat} {request : Request}
    {patience : Patience} {outcome : Outcome Response} {w' : World}
    (called : (World.run events).call place request patience = some (outcome, w')) :
    let w := World.run events
    ∃ c asked, w.connections[place]? = some c ∧
      w.backend.Asks c.config.deadline asked w'.backend ∧
      outcome.Asks request.kinds (request.whole c.state.isInside) asked ∧
      ((c.awaitDrain w.backend patience).1 = false → asked = []) := by
  intro w
  rcases World.performs_of_call called with ⟨c, c', b', patience', found, performed, rfl⟩
  have member : c ∈ w.connections := List.mem_of_getElem? found
  have accords := World.accords_run events
  have mine : Connection.Accords (World.refusals events) c w.backend :=
    ⟨accords.1 c member, accords.2⟩
  rcases mine.perform_asks patience request with ⟨-, asked, asks, comes⟩
  have unheard := fun (inside : c.state.isInside = true) held =>
    Connection.perform_givenUp inside w.backend patience held request
  rw [performed] at asks comes unheard
  refine ⟨c, asked, found, asks, comes, fun held => asks.eq_nil (unheard ?_ held)⟩
  -- Outside a transaction nothing is waited for, so no wait is given up.
  by_contra outside
  have idle := World.rests_run events c member (Bool.eq_false_iff.mpr outside)
  have still : c.isDraining w.backend = false := by
    rw [Connection.isDraining, idle]
    rfl
  rw [Connection.awaitDrain_of_not_draining still] at held
  cases held

/-- Every request in the journal was asked for by a call, with the deadline that was configured for
its kind at that time. -/
theorem World.issued_run (events : List World.Event) {kind : CallKind} {deadline : Duration}
    (recorded : (kind, deadline) ∈ Journal.requests (World.run events).backend.journal) :
    World.Issued events kind deadline := by
  induction events using List.reverseRecOn with
  | nil => cases recorded
  | append_singleton events event ih =>
    rw [World.run_concat] at recorded
    by_cases calls : ∃ place request patience, event = .call place request patience
    · rcases calls with ⟨place, request, patience, rfl⟩
      rw [World.step] at recorded
      cases called : (World.run events).call place request patience with
      | none =>
        rw [called] at recorded
        exact (ih recorded).concat _
      | some result =>
        rw [called] at recorded
        rcases World.call_asks called with ⟨c, asked, found, asks, comes, -⟩
        dsimp only [Option.map_some, Option.getD_some] at recorded
        rw [asks.recorded] at recorded
        rcases List.mem_append.mp recorded with earlier | added
        · exact (ih earlier).concat _
        · rcases List.mem_map.mp added with ⟨ask, made, same⟩
          cases same
          exact ⟨events, place, request, patience, [], c.config, rfl,
            World.configured_iff.mpr ⟨c, found, rfl⟩, comes.kinds ask made, rfl⟩
    · rw [World.requests_step _ fun place request patience same =>
        calls ⟨place, request, patience, same⟩] at recorded
      exact (ih recorded).concat _

/-- Every request carries the deadline that is its own. In every run each that stands in the journal
was made by a call whose business it is, with the deadline of its kind as it was configured on that
call's connection when the call was made. What a call asks for is added to the journal in order,
whether it is refused or not, and every refusal that comes about is that of one of these requests.
It is all there is to ask for if the call succeeds, comes to its end with the request that is
refused if it fails for that, and is nothing if the state does not allow the call or it is given up
while it waits for an earlier stream. What is no call adds no request. -/
theorem World.deadlines_recorded (events : List World.Event) :
    let w := World.run events
    (∀ kind deadline, (kind, deadline) ∈ Journal.requests w.backend.journal →
        World.Issued events kind deadline) ∧
      (∀ place request patience outcome w',
        w.call place request patience = some (outcome, w') →
        ∃ c asked, w.connections[place]? = some c ∧
          (∀ config, World.Configured events place config ↔ config = c.config) ∧
          w.backend.Asks c.config.deadline asked w'.backend ∧
          outcome.Asks request.kinds (request.whole c.state.isInside) asked ∧
          ((c.awaitDrain w.backend patience).1 = false → asked = [])) ∧
      ∀ event, (∀ place request patience, event ≠ .call place request patience) →
        Journal.requests (w.step event).backend.journal = Journal.requests w.backend.journal := by
  intro w
  refine ⟨?_, ?_, ?_⟩
  · intro kind deadline recorded
    exact World.issued_run events recorded
  · intro place request patience outcome w' called
    rcases World.call_asks called with ⟨c, asked, found, asks, comes, unheard⟩
    refine ⟨c, asked, found, fun config => ?_, asks, comes, unheard⟩
    rw [World.configured_iff]
    constructor
    · rintro ⟨c', found', rfl⟩
      cases found.symm.trans found'
      rfl
    · rintro rfl
      exact ⟨c, found, rfl⟩
  · intro event other
    exact w.requests_step other

/-- A connection that moves up and has another deadline of statements set on it. The first request
for a session is refused, a statement is given up at the closed gate, a commit is given up in the
wait for its stream, and a rollback is refused in a forced close. -/
theorem World.deadlines_recorded_set_anew :
    let config : Config := { Config.default with
      queryTimeout := .ofSeconds 30, sessionTimeout := .ofSeconds 3
      transactionTimeout := .ofSeconds 4 }
    let insert : Descriptor := ⟨"INSERT", "INSERT", .data, [], [.update]⟩
    let events : List World.Event := [.connect .default, .connect config, .drop 0,
      .inject .acquire 0 .overloaded, .call 0 (.begin .default) [], .call 0 (.begin .default) [],
      .call 0 (.setQueryTimeout (.ofSeconds 7)) [], .stir .closeGate, .call 0 (.data insert []) [],
      .inject .rollback 0 .unavailable]
    let w := World.run events
    Journal.requests w.backend.journal = [(.acquire, .ofSeconds 3), (.acquire, .ofSeconds 3),
        (.begin, .ofSeconds 4), (.dataStatement, .ofSeconds 7)] ∧
      World.Issued events .dataStatement (.ofSeconds 7) ∧
      (∃ outcome w', w.call 0 .commit [] = some (outcome, w') ∧ outcome.isDone = false ∧
        Journal.requests w'.backend.journal = Journal.requests w.backend.journal) ∧
      ∃ outcome w', w.call 0 .forceClose [[.openGate, .settle]] = some (outcome, w') ∧
        outcome.isDone = true ∧ Journal.rolledBack w'.backend.journal = [] ∧
        Journal.requests w'.backend.journal =
          Journal.requests w.backend.journal ++ [(.rollback, .ofSeconds 4)] := by
  intro config insert events w
  rcases World.deadlines_recorded events with ⟨issued, asks, -⟩
  have recorded : Journal.requests w.backend.journal = [(.acquire, .ofSeconds 3),
      (.acquire, .ofSeconds 3), (.begin, .ofSeconds 4), (.dataStatement, .ofSeconds 7)] := by
    decide +kernel
  have held : (w.connections[0]?.map fun c => ((c.awaitDrain w.backend []).1, c.state.isInside,
      c.config)) = some (false, true, { config with queryTimeout := .ofSeconds 7 }) := by
    decide +kernel
  have given : ((w.call 0 .commit []).map fun result => result.1.isDone) = some false := by
    decide +kernel
  have forced : ((w.call 0 .forceClose [[.openGate, .settle]]).map fun result =>
      (result.1.isDone, Journal.rolledBack result.2.backend.journal)) = some (true, []) := by
    decide +kernel
  rcases Option.map_eq_some_iff.mp held with ⟨c, found, facts⟩
  simp only [Prod.mk.injEq] at facts
  rcases facts with ⟨waits, inside, configured⟩
  refine ⟨recorded, issued _ _ (by rw [recorded]; simp), ?_, ?_⟩
  · rcases Option.map_eq_some_iff.mp given with ⟨⟨outcome, w'⟩, called, undone⟩
    rcases asks 0 .commit [] outcome w' called with ⟨c₁, asked, found₁, -, added, -, unheard⟩
    cases found.symm.trans found₁
    cases unheard waits
    exact ⟨outcome, w', called, undone, added.recorded.trans (List.append_nil _)⟩
  · rcases Option.map_eq_some_iff.mp forced with ⟨⟨outcome, w'⟩, called, facts⟩
    rcases Prod.mk.inj facts with ⟨done, unended⟩
    rcases asks 0 .forceClose _ outcome w' called with ⟨c₁, asked, found₁, -, added, comes, -⟩
    cases found.symm.trans found₁
    have whole := comes.whole done
    rw [inside] at whole
    rcases whole with ⟨refusal, rfl⟩
    have recorded' := added.recorded
    rw [configured] at recorded'
    exact ⟨outcome, w', called, done, unended, recorded'⟩

end SqlDriver
