import SqlDriver.Connection.Request
import SqlDriver.Proofs.Backend.Requests
import SqlDriver.Proofs.Connection.Collect

/-!
The paths that a call on a connection may take. Each kind of call gets one relation that says what
it asks of the backend, in which order, what happens in between, and how it leaves the connection.
Whatever is to be shown of all calls is shown by cases on these relations.
-/

namespace SqlDriver

/-! ## Data statements on a session -/

section DataStatement

variable (s : Session) (b : Backend) (text : String) (control : TransactionControl)
  (parameters : NamedValues) (deadline : Duration)

/-- A backend that has accepted a data statement, and has consulted what is set for its stream. -/
def Backend.accept (session : Nat) (opened : Option TransactionId) (left : List Injection) :
    Backend :=
  { b.record (.accepted session text control opened) with injections := left }

/-- How a data statement may come out that is asked for on a session, from the request to the end of
the call that takes in its stream with a guard: the number of the stream, if it was started, and how
it was taken in. -/
inductive Session.Executes (guard : Nat → Session → Guard) :
    Except BackendError (Nat × Collected) × Session × Backend → Prop
  | refused {b' : Backend} (error : BackendError)
      (requested : b.Requests .dataStatement s.number deadline (.error error, b')) :
      Session.Executes guard (.error error, s, b')
  | misplaced {b' : Backend} (error : BackendError)
      (requested : b.Requests .dataStatement s.number deadline (.ok (), b'))
      (checked : s.opens b' control = .error error) :
      Session.Executes guard (.error error, s, b')
  | complete {b' b'' : Backend} (opened : Option TransactionId) (left : List Injection)
      (requested : b.Requests .dataStatement s.number deadline (.ok (), b'))
      (opens : s.opens b' control = .ok opened)
      (consulted : Injection.consult .streamTail b'.injections = (none, left))
      (idles : (b'.accept text control s.number opened left).Idles b'') :
      Session.Executes guard
        (.ok (Journal.dataStatements b'.journal,
            .complete ⟨List.replicate b'.resultSets (.ofParameters parameters), opened⟩
              (some (guard (Journal.dataStatements b'.journal)
                { s with openTransaction := opened }))),
          { s with openTransaction := opened },
          b''.record (.completed (Journal.dataStatements b'.journal)))
  | failed {b' b'' : Backend} (opened : Option TransactionId) (status : Status)
      (left : List Injection)
      (requested : b.Requests .dataStatement s.number deadline (.ok (), b'))
      (opens : s.opens b' control = .ok opened)
      (consulted : Injection.consult .streamTail b'.injections = (some status, left))
      (idles : (b'.accept text control s.number opened left).Idles b'') :
      Session.Executes guard
        (.ok (Journal.dataStatements b'.journal, .failed ⟨status, .injectedStream⟩),
          { s with openTransaction := opened },
          (b''.record (.completed (Journal.dataStatements b'.journal))).dropKept
            (guard (Journal.dataStatements b'.journal) { s with openTransaction := opened }))
  | cancelled {b' b'' : Backend} (opened : Option TransactionId) (failure : Option Status)
      (left : List Injection) (rest : Script Mark Reply)
      (requested : b.Requests .dataStatement s.number deadline (.ok (), b'))
      (opens : s.opens b' control = .ok opened)
      (consulted : Injection.consult .streamTail b'.injections = (failure, left))
      (idles : (b'.accept text control s.number opened left).Idles b'')
      (finishing : Script.finish? rest = some (Journal.dataStatements b'.journal)) :
      Session.Executes guard
        (.ok (Journal.dataStatements b'.journal, .cancelled),
          { s with openTransaction := opened },
          { b'' with background := b''.background ++ [⟨⟨rest, some (guard
              (Journal.dataStatements b'.journal) { s with openTransaction := opened })⟩, []⟩] })

end DataStatement

theorem StreamContents.foldl_resultSets (contents : StreamContents) (count : Nat)
    (set : ResultSet) :
    (List.replicate count (ResultEvent.resultSet set)).foldl StreamContents.add contents =
      ⟨contents.resultSets ++ List.replicate count set, contents.transaction⟩ := by
  induction count generalizing contents with
  | zero => simp
  | succ count ih =>
    rw [List.replicate_succ, List.foldl_cons, ih, StreamContents.add, List.replicate_succ,
      List.append_assoc]
    rfl

/-- The contents of a stream that is taken in whole: its result sets, and the transaction that was
reported when it started. -/
theorem StreamContents.foldl_all (opened : Option TransactionId) (count : Nat)
    (parameters : NamedValues) :
    (ResultEvent.all opened count parameters).foldl StreamContents.add .empty =
      ⟨List.replicate count (.ofParameters parameters), opened⟩ := by
  rw [ResultEvent.all, List.foldl_append, StreamContents.foldl_resultSets]
  cases opened with
  | none => rfl
  | some transaction => rfl

/-- Replies without an error are events to their end, so nothing was set for the end of their
stream. -/
theorem Reply.unfailing {events events' : List ResultEvent} {failure : Option Reply}
    (fails : ∀ reply, failure = some reply → ∃ error, reply = .error error)
    (same : events.map Except.ok ++ failure.toList = events'.map .ok) :
    events = events' ∧ failure = none := by
  induction events generalizing events' with
  | nil =>
    cases failure with
    | none =>
      cases events' with
      | nil => exact ⟨rfl, rfl⟩
      | cons first rest => cases same
    | some reply =>
      obtain ⟨error, rfl⟩ := fails reply rfl
      cases events' with
      | nil => cases same
      | cons first rest => cases (List.cons.inj same).1
  | cons event events ih =>
    cases events' with
    | nil => cases same
    | cons first rest =>
      obtain ⟨head, tail⟩ := List.cons.inj same
      cases head
      obtain ⟨rfl, none⟩ := ih tail
      exact ⟨rfl, none⟩

/-- The first error among replies is the one that follows the events, and there is no other after
it. -/
theorem Reply.failing {events events' : List ResultEvent} {failure : Option Reply}
    (fails : ∀ reply, failure = some reply → ∃ error, reply = .error error) {error : BackendError}
    {others : List Reply}
    (same : events.map Except.ok ++ failure.toList = events'.map .ok ++ .error error :: others) :
    failure = some (.error error) := by
  induction events generalizing events' with
  | nil =>
    cases failure with
    | none => simp at same
    | some reply =>
      obtain ⟨other, rfl⟩ := fails reply rfl
      cases events' with
      | nil => rw [(List.cons.inj same).1]
      | cons first rest => cases (List.cons.inj same).1
  | cons event events ih =>
    cases events' with
    | nil => cases (List.cons.inj same).1
    | cons first rest => exact ih (List.cons.inj same).2

/-- How taking in the stream of a statement may come out that left the transaction `opened` open,
where `failure` was set for the stream's end. -/
inductive Collected.Of (opened : Option TransactionId) (count : Nat) (parameters : NamedValues)
    (failure : Option Status) (guard : Guard) : Collected → Prop
  | complete (unfailing : failure = none) :
      Collected.Of opened count parameters failure guard
        (.complete ⟨List.replicate count (.ofParameters parameters), opened⟩ (some guard))
  | failed (status : Status) (set : failure = some status) :
      Collected.Of opened count parameters failure guard (.failed ⟨status, .injectedStream⟩)
  | cancelled : Collected.Of opened count parameters failure guard .cancelled

/-- How the stream of a statement may be taken in: whole, up to the failure that was set for its
end, or not to its end. -/
theorem Relay.Collects.of_stream {start b : Backend} {stream : Nat} {guard : Guard}
    {opened : Option TransactionId} {count : Nat} {parameters : NamedValues}
    {failure : Option Status} {collected : Collected}
    (collects : Relay.Collects start stream guard
      (Script.items (Mark.stream stream (ResultEvent.all opened count parameters) failure)) .empty
      (collected, b)) : Collected.Of opened count parameters failure guard collected := by
  have fails : ∀ reply : Reply, (failure.map fun status => Except.error
      ⟨status, .injectedStream⟩) = some reply → ∃ error, reply = .error error := by
    intro reply failed
    obtain ⟨status, -, rfl⟩ := Option.map_eq_some_iff.mp failed
    exact ⟨_, rfl⟩
  rw [Mark.items_stream] at collects
  cases collects with
  | complete idles events all =>
    obtain ⟨rfl, none⟩ := Reply.unfailing fails all
    rw [StreamContents.foldl_all]
    exact .complete (Option.map_eq_none_iff.mp none)
  | failed idles events error others first =>
    obtain ⟨status, set, failed⟩ := Option.map_eq_some_iff.mp (Reply.failing fails first)
    cases failed
    exact .failed status set
  | cancelled idles rest finishing => exact .cancelled

/-- A data statement that was accepted, by how its stream is taken in. What is left of the stream
goes on in the background with the guard that was kept for it. -/
theorem Session.Executes.of_collects {s : Session} {b b' b'' : Backend} {text : String}
    {control : TransactionControl} {parameters : NamedValues} {deadline : Duration}
    {guard : Nat → Session → Guard} {opened : Option TransactionId} {failure : Option Status}
    {left : List Injection} {collected : Collected}
    (requested : b.Requests .dataStatement s.number deadline (.ok (), b'))
    (opens : s.opens b' control = .ok opened)
    (consulted : Injection.consult .streamTail b'.injections = (failure, left))
    (collects : Relay.Collects (b'.accept text control s.number opened left)
      (Journal.dataStatements b'.journal)
      (guard (Journal.dataStatements b'.journal) { s with openTransaction := opened })
      (Script.items (Mark.stream (Journal.dataStatements b'.journal)
        (ResultEvent.all opened b'.resultSets parameters) failure)) .empty (collected, b'')) :
    s.Executes b text control parameters deadline guard
      (.ok (Journal.dataStatements b'.journal, collected), { s with openTransaction := opened },
        b'') := by
  have of := collects.of_stream
  cases collects with
  | complete idles events all =>
    generalize events.foldl StreamContents.add .empty = contents at of
    cases of with
    | complete unfailing =>
      subst unfailing
      exact .complete opened left requested opens consulted idles
  | failed idles events error others first =>
    cases of with
    | failed status set =>
      subst set
      exact .failed opened status left requested opens consulted idles
  | cancelled idles rest finishing =>
    exact .cancelled opened failure left rest requested opens consulted idles finishing

/-- A data statement whose stream is taken in, whatever the guard is that is kept for the stream.
Every proof about data statements goes by these cases. -/
theorem Session.executes (s : Session) {b : Backend} (unreported : b.reports = []) (text : String)
    (control : TransactionControl) (parameters : NamedValues) (deadline : Duration)
    (guard : Nat → Session → Guard) (patience : Patience) :
    match s.runData b text control parameters deadline with
    | (.error error, s', b') =>
      s.Executes b text control parameters deadline guard (.error error, s', b')
    | (.ok stream, s', b') =>
      let run := (Relay.wrap stream.script (guard stream.number s')).collect .empty b' patience
      s.Executes b text control parameters deadline guard
        (.ok (stream.number, run.1), s', run.2.1) := by
  have runs := s.runsData unreported text control parameters deadline
  generalize s.runData b text control parameters deadline = result at runs
  cases runs with
  | refused error requested => exact .refused error requested
  | misplaced error requested checked => exact .misplaced error requested checked
  | @started b' opened failure left requested opens consulted =>
    have finishing := Mark.finish?_stream (Journal.dataStatements b'.journal)
      (ResultEvent.all opened b'.resultSets parameters) failure
    exact .of_collects requested opens consulted (Relay.collects finishing .refl .empty patience)

/-! ## Calls on a connection -/

/-- Waiting until no result stream goes on the session that is held. -/
inductive Connection.AwaitsDrain (c : Connection) (b : Backend) : Bool × Connection × Backend → Prop
  | givenUp {b' : Backend} (idles : b.Idles b') : Connection.AwaitsDrain c b (false, c, b')
  | drained {b' : Backend} (idles : b.Idles b') (drained : c.isDraining b' = false) :
      Connection.AwaitsDrain c b (true, { c with pending := none }, b')

/-- A connection waits until there is no sign of its stream any more, or gives up with the stream
still on its way. Nothing is done by itself in the meantime. -/
theorem Connection.awaitsDrain (c : Connection) (b : Backend) (patience : Patience) :
    let run := c.awaitDrain b patience
    c.AwaitsDrain b (run.1, run.2.1, run.2.2.1) := by
  have waits : ∀ b', b.Idles b' →
      let run := c.awaitDrain b' patience
      c.AwaitsDrain b (run.1, run.2.1, run.2.2.1) := by
    induction patience with
    | nil =>
      intro b' idles
      rw [Connection.awaitDrain]
      cases draining : c.isDraining b' with
      | true => exact .givenUp idles
      | false => exact .drained idles draining
    | cons stirs patience ih =>
      intro b' idles
      rw [Connection.awaitDrain]
      cases draining : c.isDraining b' with
      | true => exact ih (b'.stirAll stirs) (idles.stirAll stirs)
      | false => exact .drained idles draining
  exact waits b .refl

/-- What a data statement on the held session leaves of a connection. -/
def Connection.afterInside (c : Connection) (transaction : TransactionId)
    (settings : TransactionSettings) :
    Except BackendError (Nat × Collected) × Session × Backend →
      Outcome QueryResult × Connection × Backend
  | (.error error, session, b) =>
    (.failed (.backend error), { c with state := .inside transaction session settings }, b)
  | (.ok (stream, .complete contents _), session, b) =>
    (.done ⟨contents.resultSets⟩,
      { c with
        state := .inside transaction session settings
        pending := some stream }.followReport b contents.transaction)
  | (.ok (stream, .failed error), session, b) =>
    (.failed (.backend error),
      { c with state := .inside transaction session settings, pending := some stream }, b)
  | (.ok (stream, .cancelled), session, b) =>
    (.cancelled,
      { c with state := .inside transaction session settings, pending := some stream }, b)

/-- A statement in an open transaction runs on the session that is held, and the connection follows
what its stream reports. -/
theorem Connection.executesInside (c : Connection) {b : Backend} (unreported : b.reports = [])
    (patience : Patience) (transaction : TransactionId) (session : Session)
    (settings : TransactionSettings) (text : String) (parameters : NamedValues) :
    let run := c.executeInside b patience transaction session settings text parameters
    ∃ result, session.Executes b text (.resume transaction false) parameters c.config.queryTimeout
        (fun stream _ => .sign stream) result ∧
      (run.1, run.2.1, run.2.2.1) = c.afterInside transaction settings result := by
  have executes := session.executes unreported text (.resume transaction false) parameters
    c.config.queryTimeout (fun stream _ => .sign stream) patience
  rw [Connection.executeInside]
  generalize session.runData b text _ parameters _ = result at executes
  obtain ⟨answer, session', b'⟩ := result
  cases answer with
  | error error => exact ⟨_, executes, rfl⟩
  | ok stream =>
    refine ⟨_, executes, ?_⟩
    simp only [ResultStream.collect]
    generalize Relay.collect _ _ (_ : Backend) _ = run
    obtain ⟨collected, b'', patience'⟩ := run
    cases collected <;> rfl

/-- What a data statement on a session of its own leaves of a connection. -/
def Connection.afterOutside (c : Connection) (settings : TransactionSettings) :
    Except BackendError (Nat × Collected) × Session × Backend →
      Outcome QueryResult × Connection × Backend
  | (.error error, session, b) => (.failed (.backend error), c, b.release session)
  | (.ok (_, .complete contents (some (.lease session))), _, b) =>
    match contents.transaction with
    | some transaction =>
      (.done ⟨contents.resultSets⟩, { c with state := .inside transaction session settings }, b)
    | none => (.done ⟨contents.resultSets⟩, c, b.release session)
  | (.ok (_, .complete _ _), _, b) => (.failed (.backend ⟨.internal, .leaseLost⟩), c, b)
  | (.ok (_, .failed error), _, b) => (.failed (.backend error), c, b)
  | (.ok (_, .cancelled), _, b) => (.cancelled, c, b)

/-- A data statement on a session of its own. -/
inductive Connection.ExecutesOutside (c : Connection) (b : Backend) (settings : TransactionSettings)
    (text : String) (parameters : NamedValues) : Outcome QueryResult × Connection × Backend → Prop
  | unserved {b' : Backend} (error : BackendError)
      (requested : b.Requests .acquire none c.config.sessionTimeout (.error error, b')) :
      Connection.ExecutesOutside c b settings text parameters (.failed (.backend error), c, b')
  | served {b' : Backend} {result : Except BackendError (Nat × Collected) × Session × Backend}
      (requested : b.Requests .acquire none c.config.sessionTimeout (.ok (), b'))
      (executes : b'.nextSession.Executes b'.serve text (.start settings.mode settings.autoCommit)
        parameters c.config.queryTimeout (fun _ session => .lease session) result) :
      Connection.ExecutesOutside c b settings text parameters (c.afterOutside settings result)

/-- A statement outside a transaction gets a session for itself, which is kept if the statement
leaves a transaction open on it. -/
theorem Connection.executesOutside (c : Connection) {b : Backend} (unreported : b.reports = [])
    (patience : Patience) (settings : TransactionSettings) (text : String)
    (parameters : NamedValues) :
    let run := c.executeOutside b patience settings text parameters
    c.ExecutesOutside b settings text parameters (run.1, run.2.1, run.2.2.1) := by
  have acquires := b.acquires c.config.sessionTimeout
  rw [Connection.executeOutside, Config.runData]
  generalize b.acquire c.config.sessionTimeout = acquired at acquires
  cases acquires with
  | refused error requested => exact .unserved error requested
  | @granted b' requested =>
    have unreported' : b'.serve.reports = [] := requested.reports.trans unreported
    have executes := b'.nextSession.executes unreported' text
      (.start settings.mode settings.autoCommit) parameters c.config.queryTimeout
      (fun _ session => .lease session) patience
    have after : ∀ {result out}, b'.nextSession.Executes b'.serve text
        (.start settings.mode settings.autoCommit) parameters c.config.queryTimeout
        (fun _ session => .lease session) result → out = c.afterOutside settings result →
        c.ExecutesOutside b settings text parameters out := by
      intro result out executes same
      exact same ▸ .served requested executes
    simp only
    generalize b'.nextSession.runData b'.serve text _ parameters _ = result at executes ⊢
    obtain ⟨answer, session, b''⟩ := result
    cases answer with
    | error error => exact after executes rfl
    | ok stream =>
      refine after executes ?_
      simp only [ResultStream.collectWith]
      generalize Relay.collect _ _ (_ : Backend) _ = run
      obtain ⟨collected, b'', patience'⟩ := run
      cases collected with
      | complete contents kept =>
        cases kept with
        | none => rfl
        | some guard =>
          cases guard with
          | lease session =>
            simp only [Connection.afterOutside]
            cases contents.transaction <;> rfl
          | sign number => rfl
          | nothing => rfl
      | failed error => rfl
      | cancelled => rfl

/-- A data statement with one row of parameters. -/
inductive Connection.ExecutesOne (c : Connection) (b : Backend) (text : String)
    (parameters : NamedValues) : Outcome QueryResult × Connection × Backend → Prop
  | givenUp {c' : Connection} {b' : Backend} (waits : c.AwaitsDrain b (false, c', b')) :
      Connection.ExecutesOne c b text parameters (.cancelled, c', b')
  | closed {c' : Connection} {b' : Backend} (waits : c.AwaitsDrain b (true, c', b'))
      (state : c'.state = .closed) :
      Connection.ExecutesOne c b text parameters (.failed (.state .closed), c', b')
  | inside {c' : Connection} {b' : Backend} {transaction : TransactionId} {session : Session}
      {settings : TransactionSettings}
      {result : Except BackendError (Nat × Collected) × Session × Backend}
      (waits : c.AwaitsDrain b (true, c', b'))
      (state : c'.state = .inside transaction session settings)
      (executes : session.Executes b' text (.resume transaction false) parameters
        c'.config.queryTimeout (fun stream _ => .sign stream) result) :
      Connection.ExecutesOne c b text parameters (c'.afterInside transaction settings result)
  | outside {c' : Connection} {b' : Backend} {settings : TransactionSettings}
      {out : Outcome QueryResult × Connection × Backend} (waits : c.AwaitsDrain b (true, c', b'))
      (state : c'.state = .outside settings)
      (executes : c'.ExecutesOutside b' settings text parameters out) :
      Connection.ExecutesOne c b text parameters out

theorem Connection.AwaitsDrain.reports {c : Connection} {b : Backend}
    {out : Bool × Connection × Backend} (waits : c.AwaitsDrain b out) :
    out.2.2.reports = b.reports := by
  cases waits with
  | givenUp idles => exact idles.streamWork.reports
  | drained idles drained => exact idles.streamWork.reports

/-- Waiting leaves the state of the connection as it was. -/
theorem Connection.AwaitsDrain.state {c c' : Connection} {b b' : Backend} {drained : Bool}
    (waits : c.AwaitsDrain b (drained, c', b')) : c'.state = c.state := by
  cases waits with
  | givenUp idles => rfl
  | drained idles drained => rfl

/-- After a wait that was not given up there is nothing to wait for any more. -/
theorem Connection.AwaitsDrain.pending {c c' : Connection} {b b' : Backend}
    (waits : c.AwaitsDrain b (true, c', b')) : c'.pending = none := by
  cases waits with
  | drained idles drained => rfl

/-- Every way in which a data statement may come out, by the state that the connection is in once it
has waited. -/
theorem Connection.executesOne (c : Connection) {b : Backend} (unreported : b.reports = [])
    (patience : Patience) (text : String) (parameters : NamedValues) :
    let run := c.executeOne b patience text parameters
    c.ExecutesOne b text parameters (run.1, run.2.1, run.2.2.1) := by
  have waits := c.awaitsDrain b patience
  rw [Connection.executeOne]
  generalize c.awaitDrain b patience = wait at waits
  obtain ⟨drained, c', b', patience'⟩ := wait
  have unreported' : b'.reports = [] := waits.reports.trans unreported
  cases drained with
  | false => exact .givenUp waits
  | true =>
    cases state : c'.state with
    | closed =>
      simp only [state]
      exact .closed waits state
    | outside settings =>
      simp only [state]
      exact .outside waits state
        (c'.executesOutside unreported' patience' settings text parameters)
    | inside transaction session settings =>
      obtain ⟨result, executes, same⟩ :=
        c'.executesInside unreported' patience' transaction session settings text parameters
      simp only [state, same]
      exact .inside waits state executes

/-- A schema statement on a session of its own. -/
inductive Config.RunsSchema (config : Config) (b : Backend) (text : String) :
    Outcome Unit × Backend → Prop
  | unserved {b' : Backend} (error : BackendError)
      (requested : b.Requests .acquire none config.sessionTimeout (.error error, b')) :
      Config.RunsSchema config b text (.failed (.backend error), b')
  | refused {b' b'' : Backend} (error : BackendError)
      (requested : b.Requests .acquire none config.sessionTimeout (.ok (), b'))
      (runs : b'.nextSession.RunsSchema b'.serve text config.queryTimeout (.error error, b'')) :
      Config.RunsSchema config b text (.failed (.backend error), b''.release b'.nextSession)
  | done {b' b'' : Backend}
      (requested : b.Requests .acquire none config.sessionTimeout (.ok (), b'))
      (runs : b'.nextSession.RunsSchema b'.serve text config.queryTimeout (.ok (), b'')) :
      Config.RunsSchema config b text (.done (), b''.release b'.nextSession)

/-- Every way in which a schema statement may come out: no session, or refused on its session, or
carried out; its session is given back at once. -/
theorem Config.runsSchema (config : Config) (b : Backend) (text : String) :
    config.RunsSchema b text (config.runSchema b text) := by
  have acquires := b.acquires config.sessionTimeout
  rw [Config.runSchema]
  generalize b.acquire config.sessionTimeout = acquired at acquires
  cases acquires with
  | refused error requested => exact .unserved error requested
  | @granted b' requested =>
    have runs := b'.nextSession.runsSchema b'.serve text config.queryTimeout
    simp only
    generalize b'.nextSession.runSchema b'.serve text config.queryTimeout = result at runs ⊢
    obtain ⟨answer, b''⟩ := result
    cases answer with
    | error error => exact .refused error requested runs
    | ok done => exact .done requested runs

/-- Opening a transaction. -/
inductive Connection.Begins (c : Connection) (b : Backend) (settings : TransactionSettings) :
    Outcome Unit × Connection × Backend → Prop
  | closed (state : c.state = .closed) :
      Connection.Begins c b settings (.failed (.state .closed), c, b)
  | already (isInside : c.state.isInside) : Connection.Begins c b settings (.done (), c, b)
  | unserved {b' : Backend} (error : BackendError)
      (requested : b.Requests .acquire none c.config.sessionTimeout (.error error, b')) :
      Connection.Begins c b settings (.failed (.backend error), c, b')
  | refused {b' b'' : Backend} {session : Session} {old : TransactionSettings}
      (error : BackendError) (state : c.state = .outside old)
      (requested : b.Requests .acquire none c.config.sessionTimeout (.ok (), b'))
      (begins : b'.nextSession.Begins b'.serve settings.mode c.config.transactionTimeout
        (.error error, session, b'')) :
      Connection.Begins c b settings (.failed (.backend error), c, b''.release session)
  | done {b' b'' : Backend} {session : Session} {old : TransactionSettings}
      (transaction : TransactionId) (state : c.state = .outside old)
      (requested : b.Requests .acquire none c.config.sessionTimeout (.ok (), b'))
      (begins : b'.nextSession.Begins b'.serve settings.mode c.config.transactionTimeout
        (.ok transaction, session, b'')) :
      Connection.Begins c b settings
        (.done (), { c with state := .inside transaction session (settings.withAutoCommit false) },
          b'')

/-- Every way in which beginning a transaction may come out. If the request is refused the session
that was got for it is given back. -/
theorem Connection.begins (c : Connection) (b : Backend) (settings : TransactionSettings) :
    c.Begins b settings (c.begin b settings) := by
  rw [Connection.begin]
  cases state : c.state with
  | closed => exact .closed state
  | inside transaction session old => exact .already (by rw [state]; rfl)
  | outside old =>
    have acquires := b.acquires c.config.sessionTimeout
    simp only
    generalize b.acquire c.config.sessionTimeout = acquired at acquires ⊢
    cases acquires with
    | refused error requested => exact .unserved error requested
    | @granted b' requested =>
      have begins := b'.nextSession.begins b'.serve settings.mode c.config.transactionTimeout
      simp only
      generalize b'.nextSession.begin b'.serve settings.mode _ = result at begins ⊢
      obtain ⟨answer, session, b''⟩ := result
      cases answer with
      | error error => exact .refused error state requested begins
      | ok transaction => exact .done transaction state requested begins

/-- Ending the transaction that is open, if one is. -/
inductive Connection.Finishes (c : Connection) (b : Backend) (ending : Ending) :
    Outcome Unit × Connection × Backend → Prop
  | givenUp {c' : Connection} {b' : Backend} (waits : c.AwaitsDrain b (false, c', b')) :
      Connection.Finishes c b ending (.cancelled, c', b')
  | nothingOpen {c' : Connection} {b' : Backend} (waits : c.AwaitsDrain b (true, c', b'))
      (state : c'.state.isInside = false) : Connection.Finishes c b ending (.done (), c', b')
  | refused {c' : Connection} {b' b'' : Backend} {transaction : TransactionId}
      {session session' : Session} {settings : TransactionSettings} (error : BackendError)
      (waits : c.AwaitsDrain b (true, c', b'))
      (state : c'.state = .inside transaction session settings)
      (finishes : session.Finishes b' ending transaction c'.config.transactionTimeout
        (.error error, session', b'')) :
      Connection.Finishes c b ending
        (.failed (.backend error), { c' with state := .inside transaction session' settings }, b'')
  | done {c' : Connection} {b' b'' : Backend} {transaction : TransactionId}
      {session session' : Session} {settings : TransactionSettings}
      (waits : c.AwaitsDrain b (true, c', b'))
      (state : c'.state = .inside transaction session settings)
      (finishes : session.Finishes b' ending transaction c'.config.transactionTimeout
        (.ok (), session', b'')) :
      Connection.Finishes c b ending
        (.done (), { c' with state := .outside settings }, b''.release session')

/-- Every way in which ending the transaction may come out: given up in the wait, refused, or done
with the session given back. -/
theorem Connection.finishes (c : Connection) (b : Backend) (patience : Patience) (ending : Ending) :
    let run := c.finish b patience ending
    c.Finishes b ending (run.1, run.2.1, run.2.2.1) := by
  have waits := c.awaitsDrain b patience
  rw [Connection.finish]
  generalize c.awaitDrain b patience = wait at waits
  obtain ⟨drained, c', b', patience'⟩ := wait
  cases drained with
  | false => exact .givenUp waits
  | true =>
    cases state : c'.state with
    | outside settings =>
      simp only [state]
      exact .nothingOpen waits (by rw [state]; rfl)
    | closed =>
      simp only [state]
      exact .nothingOpen waits (by rw [state]; rfl)
    | inside transaction session settings =>
      have finishes := session.finishes b' ending transaction c'.config.transactionTimeout
      simp only [state]
      generalize session.finish b' ending transaction _ = result at finishes ⊢
      obtain ⟨answer, session', b''⟩ := result
      cases answer with
      | error error => exact .refused error waits state finishes
      | ok ended => exact .done waits state finishes

/-- A transaction that was open and is ended leaves the connection outside of one. -/
theorem Connection.Finishes.outside {c c' : Connection} {b b' : Backend} {ending : Ending}
    (finishes : c.Finishes b ending (.done (), c', b')) (inside : c.state.isInside = true) :
    ∃ settings, c'.state = .outside settings := by
  cases finishes with
  | nothingOpen waits state =>
    rw [waits.state, inside] at state
    cases state
  | done waits state finishes => exact ⟨_, rfl⟩

theorem Connection.changeSettings_of_outside {c : Connection} {settings : TransactionSettings}
    (outside : c.state = .outside settings)
    (change : TransactionSettings → TransactionSettings) :
    c.changeSettings change = (.done (), { c with state := .outside (change settings) }) := by
  rw [Connection.changeSettings, outside]

/-- Closing whatever the backend says. -/
inductive Connection.ForceCloses (c : Connection) (b : Backend) :
    Outcome Unit × Connection × Backend → Prop
  | givenUp {c' : Connection} {b' : Backend} (waits : c.AwaitsDrain b (false, c', b')) :
      Connection.ForceCloses c b (.cancelled, c', b')
  | nothingOpen {c' : Connection} {b' : Backend} (waits : c.AwaitsDrain b (true, c', b'))
      (state : c'.state.isInside = false) :
      Connection.ForceCloses c b (.done (), { c' with state := .closed }, b')
  | rolledBack {c' : Connection} {b' b'' : Backend} {transaction : TransactionId}
      {session session' : Session} {settings : TransactionSettings}
      (answer : Except BackendError Unit) (waits : c.AwaitsDrain b (true, c', b'))
      (state : c'.state = .inside transaction session settings)
      (finishes : session.Finishes b' .rollback transaction c'.config.transactionTimeout
        (answer, session', b'')) :
      Connection.ForceCloses c b (.done (), { c' with state := .closed }, b''.release session')

/-- A forced close gives the session back whatever rolling back comes to, and is given up only in
the wait before. -/
theorem Connection.forceCloses (c : Connection) (b : Backend) (patience : Patience) :
    let run := c.forceClose b patience
    c.ForceCloses b (run.1, run.2.1, run.2.2.1) := by
  have waits := c.awaitsDrain b patience
  rw [Connection.forceClose]
  generalize c.awaitDrain b patience = wait at waits
  obtain ⟨drained, c', b', patience'⟩ := wait
  cases drained with
  | false => exact .givenUp waits
  | true =>
    cases state : c'.state with
    | outside settings =>
      simp only [state]
      exact .nothingOpen waits (by rw [state]; rfl)
    | closed =>
      simp only [state]
      exact .nothingOpen waits (by rw [state]; rfl)
    | inside transaction session settings =>
      have finishes := session.finishes b' .rollback transaction c'.config.transactionTimeout
      simp only [state]
      rw [Session.finish] at finishes
      generalize session.rollback b' transaction _ = result at finishes ⊢
      obtain ⟨answer, session', b''⟩ := result
      exact .rolledBack answer waits state finishes

end SqlDriver
