import SqlDriver.Proofs.Connection.Agreement
import SqlDriver.Proofs.World.Runs

/-!
The open transactions of a world. In every run each connection takes that transaction to be open
which is open on its session. So no session ever turns down what a connection asks of it: every
request is carried out or meets a refusal that was set for it, and calls fail with nothing else.
-/

namespace SqlDriver

/-- The refusal that an event sets. -/
def World.Event.refusal? : World.Event → Option (CallKind × Status)
  | .inject kind _ status => some (kind, status)
  | _ => none

/-- The refusals that were set in a run. -/
def World.refusals (events : List World.Event) : List (CallKind × Status) :=
  events.filterMap World.Event.refusal?

theorem World.refusals_concat (events : List World.Event) (event : World.Event) :
    World.refusals (events ++ [event]) = World.refusals events ++ event.refusal?.toList := by
  rw [World.refusals, List.filterMap_append]
  cases event <;> rfl

theorem World.refusals_concat_of_none {event : World.Event} (none : event.refusal? = none)
    (events : List World.Event) : World.refusals (events ++ [event]) = World.refusals events := by
  rw [World.refusals_concat, none, Option.toList_none, List.append_nil]

/-- Every connection agrees with its session, and the account of the backend is balanced. -/
def World.Accords (refusals : List (CallKind × Status)) (w : World) : Prop :=
  (∀ c ∈ w.connections, c.Agrees) ∧ w.backend.Account refusals []

namespace World.Accords

variable {refusals : List (CallKind × Status)} {w : World}

/-- A call keeps a world in accord, and fails with nothing but what was set for it. -/
theorem call (h : w.Accords refusals) {place : Nat} {request : Request} {patience : Patience}
    {outcome : Outcome Response} {w' : World}
    (called : w.call place request patience = some (outcome, w')) :
    w'.Accords refusals ∧ ∀ error, outcome.refusal? = some error → error.Injected refusals := by
  obtain ⟨c, found, same⟩ := Option.map_eq_some_iff.mp called
  have mine : Connection.Accords refusals c w.backend :=
    ⟨h.1 c (List.mem_of_getElem? found), h.2⟩
  obtain ⟨kept, fails⟩ := (Connection.law_accords refusals).perform mine patience request
  cases same
  refine ⟨⟨?_, kept.2⟩, fails⟩
  intro other member
  rcases List.mem_or_eq_of_mem_set member with member | rfl
  · exact h.1 other member
  · exact kept.1

/-- Every event keeps a world in accord: the refusals that were met are among those that were set so
far. -/
theorem step {events : List World.Event} (h : w.Accords (World.refusals events))
    (event : World.Event) : (w.step event).Accords (World.refusals (events ++ [event])) := by
  cases event with
  | connect config =>
    rw [World.refusals_concat_of_none rfl]
    refine ⟨?_, h.2⟩
    intro c member
    rcases List.mem_append.mp member with member | member
    · exact h.1 c member
    · rw [List.mem_singleton.mp member]
      exact Connection.agrees_of_not_inside rfl
  | call place request patience =>
    rw [World.refusals_concat_of_none rfl, World.step]
    cases called : w.call place request patience with
    | none => exact h
    | some result => exact (h.call called).1
  | drop place =>
    rw [World.refusals_concat_of_none rfl, World.step]
    cases found : w.connections[place]? with
    | none => exact h
    | some c =>
      refine ⟨?_, h.2.streamWork (c.drop_streamWork w.backend)⟩
      intro other member
      exact h.1 other (List.mem_of_mem_eraseIdx member)
  | stir stir =>
    rw [World.refusals_concat_of_none rfl]
    exact ⟨h.1, h.2.streamWork (.stir w.backend stir)⟩
  | inject call skip status =>
    rw [World.refusals_concat]
    exact ⟨h.1, h.2.inject call skip status⟩
  | setResultSets count =>
    rw [World.refusals_concat_of_none rfl]
    exact ⟨h.1, h.2.congr rfl rfl rfl⟩

end World.Accords

/-- After every run each connection agrees with its session, and every request is accounted for. -/
theorem World.accords_run (events : List World.Event) :
    (World.run events).Accords (World.refusals events) := by
  have fresh : World.Accords (World.refusals []) ⟨[], .fresh⟩ := by
    refine ⟨?_, Backend.Account.fresh⟩
    intro c member
    cases member
  exact World.run_induction (P := fun events w => w.Accords (World.refusals events)) fresh
    (fun _ _ event h => h.step event) events

/-- While a transaction is open on a connection, it is the one that is open on the session it holds.
Every request was carried out or met one of the refusals set for its kind, each of which is met
once, so none was turned down because its transaction was not the open one; and a call that fails
at the backend fails with what was set for it. -/
theorem World.open_transactions_agree (events : List World.Event) :
    let w := World.run events
    (∀ c ∈ w.connections, ∀ transaction session settings,
        c.state = .inside transaction session settings →
        session.openTransaction = some transaction) ∧
      (∀ place request patience outcome w',
        w.call place request patience = some (outcome, w') →
        ∀ error, outcome.refusal? = some error → error.Injected (World.refusals events)) ∧
      ∃ met, (World.refusals events).Perm (met ++ w.backend.injections.map Injection.refusal) ∧
        ∀ call, call ≠ .streamTail → Journal.asked w.backend.journal call =
          Journal.carriedOut w.backend.journal call +
            met.countP fun refusal => refusal.1 = call := by
  intro w
  have h : w.Accords (World.refusals events) := World.accords_run events
  exact ⟨h.1, fun place request patience outcome w' called => (h.call called).2, h.2.balanced⟩

/-- A transaction whose commit is refused. -/
theorem World.open_transaction_agrees_at_refusal :
    let events : List World.Event := [.connect .default, .inject .commit 0 .unavailable,
      .call 0 (.begin .default) []]
    let w := World.run events
    (∃ c ∈ w.connections, ∃ session settings, c.state = .inside (.issued 0) session settings ∧
        session.openTransaction = some (.issued 0)) ∧
      (∃ outcome w', w.call 0 .commit [] = some (outcome, w') ∧
        outcome.refusal? = some ⟨.unavailable, .injected .commit⟩ ∧
        BackendError.Injected (World.refusals events) ⟨.unavailable, .injected .commit⟩) ∧
      ∃ met, (World.refusals events).Perm (met ++ w.backend.injections.map Injection.refusal) ∧
        Journal.asked w.backend.journal .begin = Journal.carriedOut w.backend.journal .begin +
          met.countP fun refusal => refusal.1 = .begin := by
  intro events w
  obtain ⟨agree, fails, met, set, balanced⟩ := World.open_transactions_agree events
  have inside : (w.connections[0]?.map Connection.state) =
      some (.inside (.issued 0) ⟨1, some (.issued 0)⟩ (TransactionSettings.default.withAutoCommit
        false)) := by decide +kernel
  have refused : ((w.call 0 .commit []).bind fun result => result.1.refusal?) =
      some ⟨.unavailable, .injected .commit⟩ := by decide +kernel
  obtain ⟨c, found, state⟩ := Option.map_eq_some_iff.mp inside
  obtain ⟨⟨outcome, w'⟩, called, refusal⟩ := Option.bind_eq_some_iff.mp refused
  have member : c ∈ w.connections := List.mem_of_getElem? found
  exact ⟨⟨c, member, _, _, state, agree c member _ _ _ state⟩,
    ⟨outcome, w', called, refusal, fails 0 .commit [] outcome w' called _ refusal⟩,
    met, set, balanced .begin (by decide)⟩

end SqlDriver
