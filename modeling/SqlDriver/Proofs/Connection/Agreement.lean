import SqlDriver.Proofs.Backend.Account
import SqlDriver.Proofs.Connection.Laws

/-!
The open transaction of a connection and that of its session. A data statement changes the session
as soon as it is accepted, and the connection only once the stream has been taken in; but inside a
transaction it leaves the same transaction open, so the two agree whatever becomes of the stream. It
follows that a session never turns a connection's request down: the account of the requests stays
balanced, and calls fail with nothing but what was set for them.
-/

namespace SqlDriver

/-- The transaction that the connection takes to be open is the one open on its session. -/
def Connection.Agrees (c : Connection) : Prop :=
  ∀ transaction session settings, c.state = .inside transaction session settings →
    session.openTransaction = some transaction

/-- Outside a transaction there is nothing to agree about. -/
theorem Connection.agrees_of_not_inside {c : Connection} (state : c.state.isInside = false) :
    c.Agrees := by
  intro transaction session settings inside
  rw [inside] at state
  cases state

/-- A connection inside a transaction agrees with its session when that is the transaction that is
open there. -/
theorem Connection.agrees_inside {c : Connection} {transaction : TransactionId} {session : Session}
    {settings : TransactionSettings} (state : c.state = .inside transaction session settings)
    (same : session.openTransaction = some transaction) : c.Agrees := by
  intro transaction' session' settings' inside
  rw [state] at inside
  cases inside
  exact same

/-- The connection agrees with its session, and the account of its backend is balanced. -/
def Connection.Accords (refusals : List (CallKind × Status)) (c : Connection) (b : Backend) :
    Prop :=
  c.Agrees ∧ b.Account refusals []

/-! ## Sessions -/

section Session

variable {s s' : Session} {b b' b'' : Backend} {refusals : List (CallKind × Status)}
  {transaction : TransactionId} {text : String} {control : TransactionControl}
  {parameters : NamedValues} {deadline : Duration}

theorem Session.check_open (same : s.openTransaction = some transaction) :
    s.check transaction = .ok () := if_pos same

/-- A statement in the transaction that is open on its session is in place, and leaves the
transaction open. -/
theorem Session.opens_open (same : s.openTransaction = some transaction) (b : Backend) :
    s.opens b (.resume transaction false) = .ok (some transaction) := by
  rw [Session.opens, Session.check_open same]
  rfl

/-- An accepted statement is carried out, and its stream meets what is set for its end. So the
account is balanced again before the stream is pulled. -/
theorem Backend.Account.started {session : Nat} {opened : Option TransactionId}
    {failure : Option Status} {left : List Injection} (h : b.Account refusals [])
    (requested : b.Requests .dataStatement session deadline (.ok (), b'))
    (consulted : Injection.consult .streamTail b'.injections = (failure, left))
    (idles : (b'.accept text control session opened left).Idles b'') :
    b''.Account refusals [] ∧
      ∀ status, failure = some status → (.streamTail, status) ∈ refusals := by
  have accepted : (b'.record (.accepted session text control opened)).Account refusals [] :=
    (h.granted requested).carryOut rfl
  obtain ⟨account, set⟩ := accepted.meetsTail consulted
  exact ⟨account.streamWork idles.streamWork, set⟩

/-- A request to end the transaction that is open is carried out or meets a refusal. It is never
turned away for naming the wrong transaction. -/
theorem Backend.Account.finishes {ending : Ending} {answer : Except BackendError Unit}
    (h : b.Account refusals []) (same : s.openTransaction = some transaction)
    (finishes : s.Finishes b ending transaction deadline (answer, s', b')) :
    b'.Account refusals [] ∧ ∀ error, answer = .error error → error.Injected refusals ∧ s' = s := by
  cases finishes with
  | refused error requested =>
    obtain ⟨account, injected⟩ := h.refused requested
    refine ⟨account, ?_⟩
    intro error' failed
    cases failed
    exact ⟨injected, rfl⟩
  | misplaced error requested checked =>
    rw [Session.check_open same] at checked
    cases checked
  | done requested checked =>
    have carries : (ending.entry s.number transaction).carriedOut? = some ending.call := by
      cases ending <;> rfl
    refine ⟨(h.granted requested).carryOut carries, ?_⟩
    intro error failed
    cases failed

end Session

/-! ## Calls -/

namespace Connection.Accords

variable {refusals : List (CallKind × Status)} {c c' : Connection} {b b' : Backend}
  {transaction : TransactionId} {session : Session} {settings : TransactionSettings} {text : String}
  {parameters : NamedValues} {deadline : Duration}

/-- Waiting for an earlier stream asks for nothing and changes no state of the connection. -/
theorem awaitsDrain {drained : Bool} (h : Connection.Accords refusals c b)
    (waits : c.AwaitsDrain b (drained, c', b')) : Connection.Accords refusals c' b' := by
  cases waits with
  | givenUp idles => exact ⟨h.1, h.2.streamWork idles.streamWork⟩
  | drained idles drained => exact ⟨h.1, h.2.streamWork idles.streamWork⟩

/-- A statement inside a transaction keeps the connection in accord: the transaction is still open
on the session, or the connection has left it. -/
theorem afterInside {result : Except BackendError (Nat × Collected) × Session × Backend}
    (account : b.Account refusals []) (same : session.openTransaction = some transaction)
    (executes : session.Executes b text (.resume transaction false) parameters deadline
      (fun stream _ => .sign stream) result) :
    Connection.Obeys (Connection.Accords refusals) (BackendError.Injected refusals)
      (c.afterInside transaction settings result) := by
  cases executes with
  | refused error requested =>
    obtain ⟨account', injected⟩ := account.refused requested
    exact Connection.obeys_refused ⟨Connection.agrees_inside rfl same, account'⟩ injected
  | misplaced error requested checked =>
    rw [Session.opens_open same] at checked
    cases checked
  | complete opened left requested opens consulted idles =>
    rw [Session.opens_open same] at opens
    cases opens
    obtain ⟨account', -⟩ := account.started requested consulted idles
    exact Connection.obeys_done ⟨Connection.agrees_inside rfl rfl, account'.completed _⟩ _
  | failed opened status left requested opens consulted idles =>
    rw [Session.opens_open same] at opens
    cases opens
    obtain ⟨account', set⟩ := account.started requested consulted idles
    exact Connection.obeys_refused ⟨Connection.agrees_inside rfl rfl, account'.completed _⟩
      (.stream status (set status rfl))
  | cancelled opened failure left rest requested opens consulted idles finishing =>
    rw [Session.opens_open same] at opens
    cases opens
    obtain ⟨account', -⟩ := account.started requested consulted idles
    exact Connection.obeys_cancelled
      ⟨Connection.agrees_inside rfl rfl, account'.streamWork (.setBackground _ _)⟩

/-- A statement outside a transaction keeps the connection in accord. If it leaves a transaction
open, the connection goes inside with the session that has it. -/
theorem afterOutside {result : Except BackendError (Nat × Collected) × Session × Backend}
    {mode : TransactionMode} {commit : Bool} (outside : c.state.isInside = false)
    (account : b.Account refusals [])
    (executes : session.Executes b text (.start mode commit) parameters deadline
      (fun _ session => .lease session) result) :
    Connection.Obeys (Connection.Accords refusals) (BackendError.Injected refusals)
      (c.afterOutside settings result) := by
  have agrees : c.Agrees := Connection.agrees_of_not_inside outside
  cases executes with
  | refused error requested =>
    obtain ⟨account', injected⟩ := account.refused requested
    exact Connection.obeys_refused ⟨agrees, account'.release _⟩ injected
  | misplaced error requested checked => cases commit <;> cases checked
  | complete opened left requested opens consulted idles =>
    obtain ⟨account', -⟩ := account.started requested consulted idles
    rw [Connection.afterOutside]
    cases opened with
    | some transaction =>
      exact Connection.obeys_done ⟨Connection.agrees_inside rfl rfl, account'.completed _⟩ _
    | none => exact Connection.obeys_done ⟨agrees, (account'.completed _).release _⟩ _
  | failed opened status left requested opens consulted idles =>
    obtain ⟨account', set⟩ := account.started requested consulted idles
    exact Connection.obeys_refused ⟨agrees, (account'.completed _).release _⟩
      (.stream status (set status rfl))
  | cancelled opened failure left rest requested opens consulted idles finishing =>
    obtain ⟨account', -⟩ := account.started requested consulted idles
    exact Connection.obeys_cancelled ⟨agrees, account'.streamWork (.setBackground _ _)⟩

/-- A data statement obeys, whatever the state of the connection. -/
theorem executesOne {out : Outcome QueryResult × Connection × Backend}
    (h : Connection.Accords refusals c b) (executes : c.ExecutesOne b text parameters out) :
    Connection.Obeys (Connection.Accords refusals) (BackendError.Injected refusals) out := by
  cases executes with
  | givenUp waits => exact Connection.obeys_cancelled (h.awaitsDrain waits)
  | closed waits state => exact Connection.obeys_misused (h.awaitsDrain waits) _
  | inside waits state executes =>
    obtain ⟨agrees, account⟩ := h.awaitsDrain waits
    exact afterInside account (agrees _ _ _ state) executes
  | outside waits state executes =>
    obtain ⟨agrees, account⟩ := h.awaitsDrain waits
    cases executes with
    | unserved error requested =>
      obtain ⟨account', injected⟩ := account.refused requested
      exact Connection.obeys_refused ⟨agrees, account'⟩ injected
    | served requested executes =>
      exact afterOutside (by rw [state]; rfl) (account.serve requested) executes

/-- A schema statement leaves the connection as it is. -/
theorem runsSchema {out : Outcome Unit × Backend} (h : Connection.Accords refusals c b)
    (runs : c.config.RunsSchema b text out) :
    Connection.Obeys (Connection.Accords refusals) (BackendError.Injected refusals)
      (out.1, c, out.2) := by
  obtain ⟨agrees, account⟩ := h
  cases runs with
  | unserved error requested =>
    obtain ⟨account', injected⟩ := account.refused requested
    exact Connection.obeys_refused ⟨agrees, account'⟩ injected
  | refused error requested runs =>
    have served := account.serve requested
    cases runs with
    | refused error requested =>
      obtain ⟨account', injected⟩ := served.refused requested
      exact Connection.obeys_refused ⟨agrees, account'.release _⟩ injected
  | done requested runs =>
    have served := account.serve requested
    cases runs with
    | done requested =>
      refine Connection.obeys_done ⟨agrees, Backend.Account.release ?_ _⟩ ()
      exact (served.granted requested).carryOut rfl

/-- Beginning takes the connection inside, with a session on which just that transaction is open. -/
theorem begins {out : Outcome Unit × Connection × Backend} (h : Connection.Accords refusals c b)
    (begins : c.Begins b settings out) :
    Connection.Obeys (Connection.Accords refusals) (BackendError.Injected refusals) out := by
  cases begins with
  | closed state => exact Connection.obeys_misused h _
  | already isInside => exact Connection.obeys_done h ()
  | unserved error requested =>
    obtain ⟨account', injected⟩ := h.2.refused requested
    exact Connection.obeys_refused ⟨h.1, account'⟩ injected
  | refused error state requested begins =>
    have served := h.2.serve requested
    cases begins with
    | refused error requested =>
      obtain ⟨account', injected⟩ := served.refused requested
      exact Connection.obeys_refused ⟨h.1, account'.release _⟩ injected
  | done transaction state requested begins =>
    have served := h.2.serve requested
    cases begins with
    | done requested =>
      refine Connection.obeys_done ⟨Connection.agrees_inside rfl rfl, ?_⟩ ()
      exact (served.granted requested).carryOut rfl

/-- Ending the transaction takes the connection outside, unless the request was refused; then it is
still inside, and its session has the transaction. -/
theorem finishes {ending : Ending} {out : Outcome Unit × Connection × Backend}
    (h : Connection.Accords refusals c b) (finishes : c.Finishes b ending out) :
    Connection.Obeys (Connection.Accords refusals) (BackendError.Injected refusals) out := by
  cases finishes with
  | givenUp waits => exact Connection.obeys_cancelled (h.awaitsDrain waits)
  | nothingOpen waits state => exact Connection.obeys_done (h.awaitsDrain waits) ()
  | refused error waits state finishes =>
    obtain ⟨agrees, account⟩ := h.awaitsDrain waits
    have same := agrees _ _ _ state
    obtain ⟨account', fails⟩ := account.finishes same finishes
    obtain ⟨injected, rfl⟩ := fails error rfl
    exact Connection.obeys_refused ⟨Connection.agrees_inside rfl same, account'⟩ injected
  | done waits state finishes =>
    obtain ⟨agrees, account⟩ := h.awaitsDrain waits
    obtain ⟨account', -⟩ := account.finishes (agrees _ _ _ state) finishes
    exact Connection.obeys_done ⟨Connection.agrees_of_not_inside rfl, account'.release _⟩ ()

/-- A forced close does not say how rolling back came out, but the account stays balanced: even
there, the request was carried out or met a refusal. -/
theorem forceCloses {out : Outcome Unit × Connection × Backend}
    (h : Connection.Accords refusals c b) (closes : c.ForceCloses b out) :
    Connection.Obeys (Connection.Accords refusals) (BackendError.Injected refusals) out := by
  cases closes with
  | givenUp waits => exact Connection.obeys_cancelled (h.awaitsDrain waits)
  | nothingOpen waits state =>
    obtain ⟨agrees, account⟩ := h.awaitsDrain waits
    exact Connection.obeys_done ⟨Connection.agrees_of_not_inside rfl, account⟩ ()
  | rolledBack answer waits state finishes =>
    obtain ⟨agrees, account⟩ := h.awaitsDrain waits
    obtain ⟨account', -⟩ := account.finishes (agrees _ _ _ state) finishes
    exact Connection.obeys_done ⟨Connection.agrees_of_not_inside rfl, account'.release _⟩ ()

end Connection.Accords

/-- Every call keeps a connection in accord with its backend, and fails with nothing but what was
set for it. -/
theorem Connection.law_accords (refusals : List (CallKind × Status)) :
    Connection.Law (Connection.Accords refusals) (BackendError.Injected refusals) where
  unreported h := h.2.unreported
  executesOne h executes := h.executesOne executes
  runsSchema h runs := h.runsSchema runs
  begins h begins := h.begins begins
  finishes h finishes := h.finishes finishes
  forceCloses h closes := h.forceCloses closes
  idle h _ outside := ⟨Connection.agrees_of_not_inside outside, h.2⟩
  setQueryTimeout _ h := h

/-- Dropping a connection asks for nothing. -/
theorem Connection.drop_streamWork (c : Connection) (b : Backend) : b.StreamWork (c.drop b) := by
  rw [Connection.drop]
  split
  · exact .releaseAfter b _ _
  · exact .release b _
  · exact .refl b

end SqlDriver
