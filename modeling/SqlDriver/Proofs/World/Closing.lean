import Mathlib.Data.List.Nodup
import SqlDriver.Proofs.Connection.Closing
import SqlDriver.Proofs.World.Agreement
import SqlDriver.Proofs.World.Sessions

/-!
The end of connections in a world. A connection that is closed keeps being closed, wherever it moves
when other connections are dropped and whatever happens to it, to others and to the backend; and the
way there gives its session back, asking at most once to roll back.
-/

namespace SqlDriver

/-- No connection without an open transaction has a stream to wait for. -/
def World.Rests (w : World) : Prop := ∀ c ∈ w.connections, c.Rests

namespace World.Rests

variable {w : World} {refusals : List (CallKind × Status)}

theorem call (h : w.Rests) (accords : w.Accords refusals) {place : Nat} {request : Request}
    {patience : Patience} {outcome : Outcome Response} {w' : World}
    (called : w.call place request patience = some (outcome, w')) : w'.Rests := by
  rcases World.performs_of_call called with ⟨c, c', b', patience', found, performed, rfl⟩
  have member : c ∈ w.connections := List.mem_of_getElem? found
  have kept := ((Connection.law_rests refusals).perform
    ⟨⟨accords.1 c member, accords.2⟩, h c member⟩ patience request).1
  rw [performed] at kept
  intro other there
  rcases List.mem_or_eq_of_mem_set there with there | rfl
  · exact h other there
  · exact kept.2

theorem step (h : w.Rests) (accords : w.Accords refusals) (event : World.Event) :
    (w.step event).Rests := by
  cases event with
  | connect config =>
    intro c member
    rcases List.mem_append.mp member with member | member
    · exact h c member
    · rw [List.mem_singleton.mp member]
      exact Connection.rests_of_idle rfl
  | call place request patience =>
    rw [World.step]
    cases called : w.call place request patience with
    | none => exact h
    | some result => exact h.call accords called
  | drop place =>
    rw [World.step]
    cases found : w.connections[place]? with
    | none => exact h
    | some c => exact fun other member => h other (List.mem_of_mem_eraseIdx member)
  | stir stir => exact h
  | inject call skip status => exact h
  | setResultSets count => exact h

end World.Rests

/-- After every run no connection that is outside waits for a stream. -/
theorem World.rests_run (events : List World.Event) : (World.run events).Rests := by
  refine (World.run_induction
    (P := fun events w => w.Accords (World.refusals events) ∧ w.Rests) ?_ ?_ events).2
  · refine ⟨World.accords_run [], ?_⟩
    intro c member
    cases member
  · intro events w event h
    exact ⟨h.1.step event, h.2.step h.1 event⟩

/-! ## The place of a connection -/

/-- The place of a connection after an event, unless it is dropped: the places behind a connection
that is dropped move up. -/
def World.Event.follow (place : Nat) : World.Event → Option Nat
  | .drop other =>
    if other = place then none else some (if other < place then place - 1 else place)
  | _ => some place

/-- The place of a connection after events, unless one of them drops it. -/
def World.follow (place : Nat) : List World.Event → Option Nat
  | [] => some place
  | event :: events => (World.Event.follow place event).bind fun place => World.follow place events

theorem World.run_append (events later : List World.Event) :
    World.run (events ++ later) = later.foldl World.step (World.run events) := by
  rw [World.run, List.foldl_append]
  rfl

/-- What an event leaves at the place to which a connection moves: the connection as it was, unless
it was called. -/
theorem World.step_follow {w : World} {place place' : Nat} {c : Connection} {event : World.Event}
    (found : w.connections[place]? = some c)
    (followed : World.Event.follow place event = some place') :
    ∃ c', (w.step event).connections[place']? = some c' ∧
      ((∀ request patience, event ≠ .call place request patience) ∧ c' = c ∨
        ∃ request patience, event = .call place request patience ∧
          c' = (c.perform w.backend patience request).2.1) := by
  rcases List.getElem?_eq_some_iff.mp found with ⟨inside, -⟩
  cases event with
  | connect config =>
    cases followed
    exact ⟨c, (List.getElem?_append_left inside).trans found, Or.inl ⟨by simp, rfl⟩⟩
  | call other request patience =>
    cases followed
    by_cases here : other = place
    · subst here
      refine ⟨_, ?_, Or.inr ⟨request, patience, rfl, rfl⟩⟩
      rw [World.step, World.call, found]
      exact List.getElem?_set_self inside
    · refine ⟨c, ?_, Or.inl ⟨fun _ _ same => here (World.Event.call.inj same).1, rfl⟩⟩
      rw [World.step, World.call]
      cases w.connections[other]? with
      | none => exact found
      | some c₁ => exact (List.getElem?_set_ne here).trans found
  | drop other =>
    rw [World.Event.follow] at followed
    split at followed
    · cases followed
    · rename_i elsewhere
      cases followed
      refine ⟨c, ?_, Or.inl ⟨by simp, rfl⟩⟩
      rw [World.step]
      cases found₁ : w.connections[other]? with
      | none =>
        have behind : ¬ other < place := by
          have := List.getElem?_eq_none_iff.mp found₁
          omega
        rw [if_neg behind]
        exact found
      | some c₁ =>
        simp only [List.getElem?_eraseIdx]
        by_cases before : other < place
        · rw [if_pos before, if_neg (by omega), Nat.sub_add_cancel (by omega)]
          exact found
        · rw [if_neg before, if_pos (by omega)]
          exact found
  | stir stir => cases followed; exact ⟨c, found, Or.inl ⟨by simp, rfl⟩⟩
  | inject call skip status => cases followed; exact ⟨c, found, Or.inl ⟨by simp, rfl⟩⟩
  | setResultSets count => cases followed; exact ⟨c, found, Or.inl ⟨by simp, rfl⟩⟩

/-- Nothing but dropping it ends the connection at a place, and nothing opens a closed one again.
The place may change when a connection before it is dropped. -/
theorem World.step_over {w : World} {place place' : Nat} {c : Connection} {event : World.Event}
    (found : w.connections[place]? = some c) (ended : c.IsOver)
    (followed : World.Event.follow place event = some place') :
    ∃ c', (w.step event).connections[place']? = some c' ∧ c'.IsOver := by
  rcases World.step_follow found followed with ⟨c', found', ⟨-, rfl⟩ | ⟨request, patience, -, rfl⟩⟩
  · exact ⟨c', found', ended⟩
  · rcases ended.perform (b := w.backend) patience request with ⟨c'', ended'', answer⟩
    rw [answer] at found'
    exact ⟨c'', found', ended''⟩

theorem World.run_over {w : World} {place place' : Nat} {c : Connection}
    (found : w.connections[place]? = some c) (ended : c.IsOver) {later : List World.Event}
    (followed : World.follow place later = some place') :
    ∃ c', (later.foldl World.step w).connections[place']? = some c' ∧ c'.IsOver := by
  induction later generalizing w place c with
  | nil =>
    cases followed
    exact ⟨c, found, ended⟩
  | cons event later ih =>
    rcases Option.bind_eq_some_iff.mp followed with ⟨next, moved, followed⟩
    rcases World.step_over found ended moved with ⟨c', found', ended'⟩
    exact ih found' ended' followed

/-! ## Closing -/

/-- A session that was given back was given back once, since it was held once. -/
theorem World.Custody.count_releases {w : World} (custody : w.Custody) {session : Nat}
    (released : session ∈ Journal.releases w.backend.journal) :
    (Journal.releases w.backend.journal).count session = 1 := by
  have distinct := custody.sessions.nodup_iff.mpr (List.nodup_range' ..)
  exact List.count_eq_one_of_mem (List.nodup_append.mp distinct).1 released

/-- A forced close that is not given up closes the connection. It has asked at most once to roll
back, and has given the session back once. -/
theorem World.forceClose_closes {events : List World.Event} {place : Nat} {patience : Patience}
    {outcome : Outcome Response} {w' : World}
    (called : (World.run events).call place .forceClose patience = some (outcome, w')) :
    let w := World.run events
    ∃ c c', w.connections[place]? = some c ∧ w'.connections = w.connections.set place c' ∧
      (outcome = .cancelled ∧ c.isDraining w.backend = true ∧ c'.state = c.state ∨
        outcome = .done .acknowledged ∧ c'.state = .closed ∧
          (∃ b accepted, w.backend.StreamWork b ∧
            w'.backend.journal = b.journal ++ c.parting .rollback accepted) ∧
          Journal.asked w'.backend.journal .rollback =
            Journal.asked w.backend.journal .rollback + (if c.state.isInside then 1 else 0) ∧
          ∀ session, c.state.session? = some session →
            (Journal.releases w'.backend.journal).count session.number = 1) := by
  intro w
  have reached : World.run (events ++ [.call place .forceClose patience]) = w' := by
    rw [World.run_concat, World.step, called]
    rfl
  rcases World.performs_of_call called with ⟨c, c', b', patience', found, performed, same⟩
  subst same
  refine ⟨c, c', found, rfl, ?_⟩
  have closes := (c.forceCloses w.backend patience)
  have finished := fun idle => c.forceClose_of_not_draining (b := w.backend) idle patience
  rw [Connection.perform] at performed
  generalize c.forceClose w.backend patience = run at closes finished performed
  rcases run with ⟨ended, c₁, b₁, left⟩
  cases performed
  rcases closes.closes with ⟨rfl, rfl, -⟩ | ⟨rfl, closed, b₀, accepted, work, added⟩
  · refine Or.inl ⟨rfl, ?_, rfl⟩
    by_contra idle
    cases finished (Bool.eq_false_iff.mpr idle)
  · refine Or.inr ⟨rfl, closed, ⟨b₀, accepted, work, added⟩, ?_, ?_⟩
    · rw [added, ← work.asked .rollback, Journal.asked, List.countP_append]
      exact congrArg (_ + ·) (c.asked_parting .rollback accepted)
    · intro session held
      have released : session.number ∈ Journal.releases b'.journal := by
        rw [added, Journal.releases, List.filterMap_append]
        exact List.mem_append_right _ (Connection.mem_releases_parting held .rollback accepted)
      have custody := World.custody_run (events ++ [.call place .forceClose patience])
      rw [reached] at custody
      exact custody.count_releases released

/-- A close brings the connection to its end exactly when it succeeds, after a commit of what was
open. -/
theorem World.close_closes {w w' : World} {place : Nat} {patience : Patience}
    {outcome : Outcome Response}
    (called : w.call place .close patience = some (outcome, w')) :
    ∃ c c', w.connections[place]? = some c ∧ w'.connections = w.connections.set place c' ∧
      (outcome.isDone = true ↔ c.state ≠ .closed ∧ c'.state = .closed) ∧
      (outcome.isDone = true → ∃ b, w.backend.StreamWork b ∧
        w'.backend.journal = b.journal ++ c.parting .commit true) := by
  rcases World.performs_of_call called with ⟨c, c', b', patience', found, performed, rfl⟩
  refine ⟨c, c', found, rfl, ?_⟩
  have closes := c.closes w.backend patience
  rw [Connection.perform] at performed
  generalize c.close w.backend patience = run at closes performed
  rcases run with ⟨ended, c₁, b₁, left⟩
  cases performed
  rw [Outcome.acknowledge, Outcome.isDone_map]
  exact ⟨closes.isDone_iff, closes.parting⟩

/-- A closed connection answers any call at once, stays closed and leaves the backend alone. -/
theorem World.call_over {w : World} {place : Nat} {c : Connection}
    (found : w.connections[place]? = some c) (ended : c.IsOver) (request : Request)
    (patience : Patience) :
    ∃ c', c'.state = .closed ∧ w.call place request patience =
      some (request.answerWhenClosed, { w with connections := w.connections.set place c' }) := by
  rcases ended.perform (b := w.backend) patience request with ⟨c', ended', answer⟩
  refine ⟨c', ended'.closed, ?_⟩
  rw [World.call, found, Option.map_some, answer]

/-- A connection reaches its end safely and stays there. Nothing but a stream that still goes on
keeps a forced close from closing: the session that was held is then given back, once, after one
request to roll back, whether that is refused or not. A close brings the connection to its end
exactly when it succeeds, which is after the open transaction was committed. A closed connection
stays closed through everything that may happen; whatever is asked of it is answered at once and
comes to nothing at the backend, and so does dropping it. -/
theorem World.closed_for_good (events : List World.Event) :
    let w := World.run events
    (∀ place patience outcome w', w.call place .forceClose patience = some (outcome, w') →
      ∃ c c', w.connections[place]? = some c ∧ w'.connections = w.connections.set place c' ∧
        (outcome = .cancelled ∧ c.isDraining w.backend = true ∧ c'.state = c.state ∨
          outcome = .done .acknowledged ∧ c'.state = .closed ∧
            (∃ b accepted, w.backend.StreamWork b ∧
              w'.backend.journal = b.journal ++ c.parting .rollback accepted) ∧
            Journal.asked w'.backend.journal .rollback =
              Journal.asked w.backend.journal .rollback + (if c.state.isInside then 1 else 0) ∧
            ∀ session, c.state.session? = some session →
              (Journal.releases w'.backend.journal).count session.number = 1)) ∧
      (∀ place patience outcome w', w.call place .close patience = some (outcome, w') →
        ∃ c c', w.connections[place]? = some c ∧ w'.connections = w.connections.set place c' ∧
          (outcome.isDone = true ↔ c.state ≠ .closed ∧ c'.state = .closed) ∧
          (outcome.isDone = true → ∃ b, w.backend.StreamWork b ∧
            w'.backend.journal = b.journal ++ c.parting .commit true)) ∧
      ∀ place c, w.connections[place]? = some c → c.state = .closed →
        ∀ later place', World.follow place later = some place' →
          let w' := World.run (events ++ later)
          ∃ c', w'.connections[place']? = some c' ∧ c'.state = .closed ∧
            (∀ request patience, ∃ c'', c''.state = .closed ∧
              w'.call place' request patience = some (request.answerWhenClosed,
                { w' with connections := w'.connections.set place' c'' })) ∧
            c'.drop w'.backend = w'.backend ∧ c'.abandon w'.backend = w'.backend := by
  intro w
  refine ⟨?_, ?_, ?_⟩
  · intro place patience outcome w' called
    exact World.forceClose_closes called
  · intro place patience outcome w' called
    exact World.close_closes called
  · intro place c found closed later place' followed w'
    have outside : c.state.isInside = false := by rw [closed]; rfl
    have ended : c.IsOver := ⟨closed, World.rests_run events c (List.mem_of_getElem? found) outside⟩
    rcases World.run_over found ended followed with ⟨c', found', ended'⟩
    rw [← World.run_append] at found'
    exact ⟨c', found', ended'.closed, World.call_over found' ended', ended'.drop, ended'.abandon⟩

/-- A forced close whose rollback is refused, a close, and a connection that has been closed and
moves up when another one is dropped. -/
theorem World.closed_for_good_rollback_refused :
    let events : List World.Event := [.connect .default, .connect .default, .connect .default,
      .call 0 (.begin .default) [], .call 1 (.begin .default) [], .call 2 .close [],
      .inject .rollback 0 .unavailable]
    let later : List World.Event := [.call 2 (.begin .default) [], .drop 0, .call 1 .commit []]
    let w := World.run events
    (∃ w', w.call 1 .forceClose [] = some (.done .acknowledged, w') ∧
        Journal.asked w'.backend.journal .rollback = 1 ∧
        Journal.rolledBack w'.backend.journal = [] ∧
        (Journal.releases w'.backend.journal).count 2 = 1) ∧
      (∃ outcome w' b, w.call 0 .close [] = some (outcome, w') ∧ outcome.isDone = true ∧
        w.backend.StreamWork b ∧ w'.backend.journal = b.journal ++
          [.requested .commit (some 1) (.ofSeconds 10), .committed 1 (.issued 0), .released 1]) ∧
      World.follow 2 later = some 1 ∧
        ∃ w', (World.run (events ++ later)).call 1 (.setReadOnly true) [] =
          some (.failed (.state .closed), w') ∧
          w'.backend.journal = (World.run (events ++ later)).backend.journal := by
  intro events later w
  rcases World.closed_for_good events with ⟨forces, closes, stays⟩
  have forced : ((w.call 1 .forceClose []).map fun result => (result.1.isDone,
      Journal.asked result.2.backend.journal .rollback,
      Journal.rolledBack result.2.backend.journal)) = some (true, 1, []) := by decide +kernel
  have held : (w.connections[1]?.map fun c => c.state.session?) =
      some (some ⟨2, some (.issued 1)⟩) := by decide +kernel
  have done : ((w.call 0 .close []).map fun result => result.1.isDone) = some true := by
    decide +kernel
  have parting : (w.connections[0]?.map fun c => c.parting .commit true) =
      some [.requested .commit (some 1) (.ofSeconds 10), .committed 1 (.issued 0), .released 1] := by
    decide +kernel
  have closed : (w.connections[2]?.map Connection.state) = some .closed := by decide +kernel
  refine ⟨?_, ?_, rfl, ?_⟩
  · rcases Option.map_eq_some_iff.mp forced with ⟨⟨outcome, w'⟩, called, facts⟩
    rcases Prod.mk.inj facts with ⟨done, counts⟩
    rcases Prod.mk.inj counts with ⟨asked, rolledBack⟩
    rcases Option.map_eq_some_iff.mp held with ⟨c, found, session⟩
    rcases forces 1 [] outcome w' called with ⟨c₁, c', found₁, -, ⟨rfl, -⟩ | ⟨rfl, -, -, -, once⟩⟩
    · cases done
    · rw [found] at found₁
      cases found₁
      exact ⟨w', called, asked, rolledBack, once _ session⟩
  · rcases Option.map_eq_some_iff.mp done with ⟨⟨outcome, w'⟩, called, done⟩
    rcases Option.map_eq_some_iff.mp parting with ⟨c, found, parting⟩
    rcases closes 0 [] outcome w' called with ⟨c₁, c', found₁, -, -, committed⟩
    rw [found] at found₁
    cases found₁
    rcases committed done with ⟨b, work, added⟩
    rw [parting] at added
    exact ⟨outcome, w', b, called, done, work, added⟩
  · rcases Option.map_eq_some_iff.mp closed with ⟨c, found, closed⟩
    rcases stays 2 c found closed later 1 rfl with ⟨c', found', closed', answers, -⟩
    rcases answers (.setReadOnly true) [] with ⟨c'', closed'', called⟩
    exact ⟨_, called, rfl⟩

end SqlDriver
