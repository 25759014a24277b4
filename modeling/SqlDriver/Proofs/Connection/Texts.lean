import SqlDriver.Proofs.Connection.Batches
import SqlDriver.Proofs.Connection.Laws

/-!
The statements that calls bring into the journal. A statement stands in the journal once for each
time that a backend has taken it, so what a call adds says which texts it has sent and how often.
Nothing here depends on what result streams report: a stream of any script adds no statement.
-/

namespace SqlDriver

/-! ## Streams of any script -/

namespace Backend.StreamWork

theorem stirAll (b : Backend) (stirs : List Stir) : b.StreamWork (b.stirAll stirs) :=
  (Backend.Idles.refl.stirAll stirs).streamWork

theorem poll_eq {script rest : Script Mark Reply} {polled : Polled Reply} {b b' : Backend}
    (pulled : Script.poll script b = (polled, rest, b')) : b.StreamWork b' := by
  have work := poll script b
  rwa [pulled] at work

theorem drain_eq {script : Script Mark Reply} {left : Option (Script Mark Reply)} {b b' : Backend}
    (drained : Script.drain script b = (left, b')) : b.StreamWork b' := by
  have work := drain script b
  rwa [drained] at work

/-- Bringing a stream to its end after an error is work of streams. -/
theorem failing {guard : Guard} {error : BackendError} {script : Script Mark Reply} {b : Backend}
    {patience : Patience} {out : Collected × Backend × Patience}
    (failing : Relay.Failing guard error script b patience out) : b.StreamWork out.2.1 := by
  induction failing with
  | ended drained patience => exact (drain_eq drained).trans (dropKept _ guard)
  | givenUp drained => exact (drain_eq drained).trans (setBackground _ _)
  | resumed drained later ih => exact (drain_eq drained).trans ((stirAll _ _).trans ih)

/-- Taking in a stream is work of streams, whatever happens while the call is held up. -/
theorem collecting {guard : Guard} {script : Script Mark Reply} {contents : StreamContents}
    {b : Backend} {patience : Patience} {out : Collected × Backend × Patience}
    (collecting : Relay.Collecting guard script contents b patience out) :
    b.StreamWork out.2.1 := by
  induction collecting with
  | event polled later ih => exact (poll_eq polled).trans ih
  | error polled failed contents => exact (poll_eq polled).trans (failing failed)
  | ended polled contents patience => exact poll_eq polled
  | givenUp polled contents => exact (poll_eq polled).trans (setBackground _ _)
  | resumed polled later ih => exact (poll_eq polled).trans ((stirAll _ _).trans ih)

/-- The stream of a statement, whatever its script, adds no statement to the journal. -/
theorem collectStream (stream : ResultStream) (b : Backend) (patience : Patience) :
    b.StreamWork (stream.collect b patience).2.1 := by
  have work := collecting
    (Relay.collecting stream.script (.sign stream.number) .empty b patience)
  rw [ResultStream.collect, Relay.wrap]
  generalize Relay.collect _ _ b patience = run at work
  obtain ⟨collected, b', patience'⟩ := run
  cases collected <;> exact work

/-- The stream of a statement on a session of its own adds none either, whatever its script. -/
theorem collectWith (stream : ResultStream) (session : Session) (b : Backend)
    (patience : Patience) : b.StreamWork (stream.collectWith session b patience).2.1 := by
  have work := collecting (Relay.collecting stream.script (.lease session) .empty b patience)
  rw [ResultStream.collectWith, Relay.wrap]
  generalize Relay.collect _ _ b patience = run at work
  split <;> exact work

theorem leave (c : Connection) (b : Backend) : b.StreamWork (c.leave b).2 := by
  rw [Connection.leave]
  split
  · exact release b _
  · exact refl b

/-- Following a report may give a session back, and adds no statement. -/
theorem followReport (c : Connection) (b : Backend) (reported : Option TransactionId) :
    b.StreamWork (c.followReport b reported).2 := by
  unfold Connection.followReport
  split
  · exact refl b
  · exact refl b
  · exact leave c b

end Backend.StreamWork

/-- While a connection waits nothing but streams works on the backend. -/
theorem Connection.AwaitsDrain.streamWork {c c' : Connection} {b b' : Backend} {drained : Bool}
    (waits : c.AwaitsDrain b (drained, c', b')) : b.StreamWork b' := by
  cases waits with
  | givenUp idles => exact idles.streamWork
  | drained idles drained => exact idles.streamWork

/-! ## Statements in the journal -/

/-- The statement of an entry: its text, and the kind of request that brought it. -/
def Entry.text? : Entry → Option (QueryKind × String)
  | .accepted _ text _ _ => some (.data, text)
  | .schemaChanged _ text => some (.schema, text)
  | _ => none

/-- The statements in a journal, in order. -/
def Journal.texts (j : Journal) : List (QueryKind × String) := j.filterMap Entry.text?

theorem Journal.texts_append (j j' : Journal) :
    Journal.texts (j ++ j') = Journal.texts j ++ Journal.texts j' :=
  List.filterMap_append

/-- Nothing was taken out of the journal, and these statements were added to it. -/
def Backend.Adds (b : Backend) (texts : List (QueryKind × String)) (b' : Backend) : Prop :=
  ∃ added, b'.journal = b.journal ++ added ∧ Journal.texts added = texts

namespace Backend.Adds

variable {b b' b'' : Backend} {texts texts' : List (QueryKind × String)}

theorem refl (b : Backend) : b.Adds [] b := ⟨[], (List.append_nil _).symm, rfl⟩

theorem trans (first : b.Adds texts b') (second : b'.Adds texts' b'') :
    b.Adds (texts ++ texts') b'' := by
  obtain ⟨added, whole, rfl⟩ := first
  obtain ⟨added', whole', rfl⟩ := second
  refine ⟨added ++ added', ?_, Journal.texts_append added added'⟩
  rw [whole', whole, List.append_assoc]

/-- Adding no statement after others. -/
theorem quiet (first : b.Adds texts b') (second : b'.Adds [] b'') : b.Adds texts b'' := by
  have whole := first.trans second
  rwa [List.append_nil] at whole

theorem record (b : Backend) (entry : Entry) : b.Adds entry.text?.toList (b.record entry) := by
  refine ⟨[entry], rfl, ?_⟩
  cases entry <;> rfl

/-- Work of streams adds no statement, as none of its entries is one. -/
theorem of_streamWork (work : b.StreamWork b') : b.Adds [] b' := by
  obtain ⟨added, whole, streams⟩ := work.journal
  refine ⟨added, whole, List.filterMap_eq_nil_iff.mpr fun entry member => ?_⟩
  have stream := streams entry member
  cases entry <;> first | rfl | cases stream

theorem release (b : Backend) (session : Session) : b.Adds [] (b.release session) :=
  record b (.released session.number)

/-- The statements of the journal after a call are those before it and those that were added, in
this order. -/
theorem texts_eq (adds : b.Adds texts b') :
    Journal.texts b'.journal = Journal.texts b.journal ++ texts := by
  obtain ⟨added, whole, rfl⟩ := adds
  rw [whole, Journal.texts_append]

/-- A request adds no statement by being made: that it was accepted is an entry of its own. -/
theorem requests {call : CallKind} {session : Option Nat} {deadline : Duration}
    {answer : Except BackendError Unit} (requested : b.Requests call session deadline (answer, b')) :
    b.Adds [] b' := by
  cases requested with
  | refused status left consulted => exact record b (.requested call session deadline)
  | granted left consulted => exact record b (.requested call session deadline)

theorem served {deadline : Duration} (requested : b.Requests .acquire none deadline (.ok (), b')) :
    b.Adds [] b'.serve :=
  (requests requested).trans (record b' (.acquired b'.nextSession.number))

theorem acquires {deadline : Duration} {answer : Except BackendError Session}
    (acquired : b.Acquires deadline (answer, b')) : b.Adds [] b' := by
  cases acquired with
  | refused error requested => exact requests requested
  | granted requested => exact served requested

end Backend.Adds

/-! ## Data statements -/

/-- A data statement was added at least `least` times and at most `most` times, and nothing else. -/
def Backend.Sends (b : Backend) (text : String) (least most : Nat) (b' : Backend) : Prop :=
  ∃ count, least ≤ count ∧ count ≤ most ∧ b.Adds (List.replicate count (.data, text)) b'

/-- How many of the statements of a call must have been sent: all, if it succeeded. -/
def Outcome.sent {α : Type} (outcome : Outcome α) (count : Nat) : Nat :=
  bif outcome.isDone then count else 0

theorem Outcome.sent_map {α β : Type} (f : α → β) (outcome : Outcome α) (count : Nat) :
    (outcome.map f).sent count = outcome.sent count := by
  rw [Outcome.sent, Outcome.isDone_map]
  rfl

theorem Outcome.sent_le {α : Type} (outcome : Outcome α) (count : Nat) :
    outcome.sent count ≤ count := by
  cases outcome with
  | done value => exact Nat.le_refl _
  | failed error => exact Nat.zero_le _
  | cancelled => exact Nat.zero_le _

namespace Backend.Sends

variable {b b' b'' : Backend} {text : String} {least least' most most' : Nat}

theorem of_adds (adds : b.Adds [] b') : b.Sends text 0 0 b' :=
  ⟨0, Nat.le_refl _, Nat.le_refl _, adds⟩

theorem once (adds : b.Adds [(.data, text)] b') : b.Sends text 1 1 b' :=
  ⟨1, Nat.le_refl _, Nat.le_refl _, adds⟩

theorem trans (first : b.Sends text least most b') (second : b'.Sends text least' most' b'') :
    b.Sends text (least + least') (most + most') b'' := by
  obtain ⟨count, low, high, adds⟩ := first
  obtain ⟨count', low', high', adds'⟩ := second
  refine ⟨count + count', Nat.add_le_add low low', Nat.add_le_add high high', ?_⟩
  rw [← List.replicate_append_replicate]
  exact adds.trans adds'

theorem mono (sends : b.Sends text least most b') (fewer : least' ≤ least) (more : most ≤ most') :
    b.Sends text least' most' b' := by
  obtain ⟨count, low, high, adds⟩ := sends
  exact ⟨count, Nat.le_trans fewer low, Nat.le_trans high more, adds⟩

theorem after (work : b.StreamWork b') (sends : b'.Sends text least most b'') :
    b.Sends text least most b'' := by
  obtain ⟨count, low, high, adds⟩ := sends
  exact ⟨count, low, high, (Backend.Adds.of_streamWork work).trans adds⟩

theorem before (sends : b.Sends text least most b') (work : b'.StreamWork b'') :
    b.Sends text least most b'' := by
  obtain ⟨count, low, high, adds⟩ := sends
  exact ⟨count, low, high, adds.quiet (.of_streamWork work)⟩

end Backend.Sends

theorem Backend.takeReport_journal (b : Backend) : b.takeReport.2.journal = b.journal := by
  rw [Backend.takeReport]
  split <;> rfl

/-- A data statement is in the journal once, if it was accepted, and as the text that was sent. -/
theorem Session.runData_adds (s : Session) (b : Backend) (text : String)
    (control : TransactionControl) (parameters : NamedValues) (deadline : Duration) :
    match s.runData b text control parameters deadline with
    | (.error _, _, b') => b.Adds [] b'
    | (.ok _, _, b') => b.Adds [(.data, text)] b' := by
  have requested := b.requests .dataStatement (some s.number) deadline
  rw [Session.runData]
  generalize b.request .dataStatement (some s.number) deadline = result at requested
  obtain ⟨answer, b'⟩ := result
  have asked := Backend.Adds.requests requested
  cases answer with
  | error error => exact asked
  | ok granted =>
    dsimp only
    cases s.opens b' control with
    | error error => exact asked
    | ok opened =>
      obtain ⟨added, whole, texts⟩ :=
        asked.trans (.record b' (.accepted s.number text control opened))
      exact ⟨added, (Backend.takeReport_journal _).trans whole, texts⟩

/-- In an open transaction a statement is sent once at most, and once exactly if it succeeds. -/
theorem Connection.executeInside_sends (c : Connection) (b : Backend) (patience : Patience)
    (transaction : TransactionId) (session : Session) (settings : TransactionSettings)
    (text : String) (parameters : NamedValues) :
    let out := c.executeInside b patience transaction session settings text parameters
    b.Sends text (out.1.sent 1) 1 out.2.2.1 := by
  have adds := session.runData_adds b text (.resume transaction false) parameters
    c.config.queryTimeout
  dsimp only
  rw [Connection.executeInside]
  generalize session.runData b text _ parameters _ = result at adds
  obtain ⟨answer, session', b'⟩ := result
  cases answer with
  | error error => exact (Backend.Sends.of_adds adds).mono (Nat.le_refl _) (Nat.zero_le _)
  | ok stream =>
    have sends := (Backend.Sends.once adds).before (.collectStream stream b' patience)
    dsimp only
    generalize stream.collect b' patience = collected at sends
    obtain ⟨outcome, b'', patience'⟩ := collected
    cases outcome with
    | done contents => exact sends.before (.followReport _ b'' contents.transaction)
    | failed error => exact sends.mono (Nat.zero_le _) (Nat.le_refl _)
    | cancelled => exact sends.mono (Nat.zero_le _) (Nat.le_refl _)

/-- On a session of its own a statement is sent once at most, and once exactly if it succeeds. -/
theorem Config.runData_sends (config : Config) (b : Backend) (patience : Patience) (text : String)
    (control : TransactionControl) (parameters : NamedValues) :
    let out := config.runData b patience text control parameters
    b.Sends text (out.1.sent 1) 1 out.2.1 := by
  have acquires := b.acquires config.sessionTimeout
  dsimp only
  rw [Config.runData]
  generalize b.acquire config.sessionTimeout = acquired at acquires
  obtain ⟨answer, b'⟩ := acquired
  have served : b.Sends text 0 0 b' := .of_adds (.acquires acquires)
  cases answer with
  | error error => exact served.mono (Nat.le_refl _) (Nat.zero_le _)
  | ok session =>
    have adds := session.runData_adds b' text control parameters config.queryTimeout
    dsimp only
    generalize session.runData b' text _ parameters _ = result at adds
    obtain ⟨answer, session', b''⟩ := result
    cases answer with
    | error error =>
      have sends := (served.trans (.of_adds adds)).before (.release b'' session')
      exact sends.mono (Nat.le_refl _) (Nat.zero_le _)
    | ok stream =>
      have sends := (served.trans (.once adds)).before (.collectWith stream session' b'' patience)
      exact sends.mono (Outcome.sent_le _ _) (Nat.le_refl _)

theorem Connection.executeOutside_sends (c : Connection) (b : Backend) (patience : Patience)
    (settings : TransactionSettings) (text : String) (parameters : NamedValues) :
    let out := c.executeOutside b patience settings text parameters
    b.Sends text (out.1.sent 1) 1 out.2.2.1 := by
  have sends := c.config.runData_sends b patience text
    (.start settings.mode settings.autoCommit) parameters
  dsimp only at sends ⊢
  rw [Connection.executeOutside]
  generalize c.config.runData b patience text _ parameters = ran at sends
  obtain ⟨outcome, b', patience'⟩ := ran
  cases outcome with
  | done value =>
    obtain ⟨contents, session⟩ := value
    dsimp only
    split
    · exact sends
    · exact sends.before (.release b' session)
  | failed error => exact sends
  | cancelled => exact sends

/-- A call for one row sends the statement once, or not at all if it does not succeed and was
refused before it was accepted. -/
theorem Connection.executeOne_sends (c : Connection) (b : Backend) (patience : Patience)
    (text : String) (parameters : NamedValues) :
    let out := c.executeOne b patience text parameters
    b.Sends text (out.1.sent 1) 1 out.2.2.1 := by
  have waits := c.awaitsDrain b patience
  dsimp only at waits ⊢
  rw [Connection.executeOne]
  generalize c.awaitDrain b patience = wait at waits
  obtain ⟨drained, c', b', patience'⟩ := wait
  have work := waits.streamWork
  have unsent : b.Sends text 0 1 b' :=
    (Backend.Sends.of_adds (.of_streamWork work)).mono (Nat.le_refl _) (Nat.zero_le _)
  cases drained with
  | false => exact unsent
  | true =>
    dsimp only
    split
    · exact .after work (c'.executeInside_sends ..)
    · exact .after work (c'.executeOutside_sends ..)
    · exact unsent

/-- A batch sends the statement once for each row, up to the row that fails; the text is the same
for all of them. -/
theorem Connection.executeAll_sends (c : Connection) (b : Backend) (patience : Patience)
    (text : String) (completed : List QueryResult) (rows : List NamedValues) :
    let out := c.executeAll b patience text completed rows
    b.Sends text (out.1.sent rows.length) rows.length out.2.2.1 := by
  induction rows generalizing c b patience completed with
  | nil => exact .of_adds (.refl b)
  | cons row rows ih =>
    have sends := c.executeOne_sends b patience text row
    dsimp only at sends ⊢
    rw [Connection.executeAll, List.length_cons]
    generalize c.executeOne b patience text row = run at sends
    obtain ⟨outcome, c', b', patience'⟩ := run
    cases outcome with
    | done result =>
      have whole := sends.trans (ih c' b' patience' (completed ++ [result]))
      dsimp only
      refine whole.mono ?_ (Nat.le_of_eq (Nat.add_comm 1 rows.length))
      generalize (c'.executeAll b' patience' text (completed ++ [result]) rows).1 = outcome
      cases outcome with
      | done results => exact Nat.le_of_eq (Nat.add_comm rows.length 1)
      | failed error => exact Nat.zero_le _
      | cancelled => exact Nat.zero_le _
    | failed error => exact sends.mono (Nat.le_refl _) (Nat.succ_le_succ (Nat.zero_le _))
    | cancelled => exact sends.mono (Nat.le_refl _) (Nat.succ_le_succ (Nat.zero_le _))

/-- The call for all rows; no row is one without parameters. -/
theorem Connection.executeData_sends (c : Connection) (b : Backend) (patience : Patience)
    (descriptor : Descriptor) (rows : List NamedValues) :
    let out := c.executeData b patience descriptor rows
    b.Sends descriptor.canonical (out.1.sent (max 1 rows.length)) (max 1 rows.length)
      out.2.2.1 := by
  have one (row : NamedValues) := c.executeOne_sends b patience descriptor.canonical row
  dsimp only at one ⊢
  cases closed : c.state.isClosed with
  | true =>
    unfold Connection.executeData
    rw [if_pos closed]
    exact (Backend.Sends.of_adds (.refl b)).mono (Nat.le_refl _) (Nat.zero_le _)
  | false =>
    rcases Connection.executeData_rows closed b patience descriptor rows with
      ⟨row, single, same⟩ | ⟨first, rest, rfl, same⟩
    · rw [same, single, Outcome.sent_map]
      exact one row
    · rw [same, List.length_cons, Nat.max_eq_right (Nat.le_add_left 1 rest.length)]
      exact c.executeAll_sends b patience descriptor.canonical [] (first :: rest)

/-! ## Schema statements -/

/-- What a schema statement that is carried out adds to the journal. Its session is got for it alone
and is given back at once. -/
def Config.schemaEntries (config : Config) (session : Nat) (text : String) : Journal :=
  [.requested .acquire none config.sessionTimeout, .acquired session,
    .requested .schemaStatement session config.queryTimeout, .schemaChanged session text,
    .released session]

theorem Config.texts_schemaEntries (config : Config) (session : Nat) (text : String) :
    Journal.texts (config.schemaEntries session text) = [(.schema, text)] := rfl

theorem Backend.Requests.journal {b b' : Backend} {call : CallKind} {session : Option Nat}
    {deadline : Duration} {answer : Except BackendError Unit}
    (requested : b.Requests call session deadline (answer, b')) :
    b'.journal = b.journal ++ [.requested call session deadline] := by
  cases requested with
  | refused status left consulted => rfl
  | granted left consulted => rfl

/-- How a schema statement may come out: it is carried out on the next session, or nothing is. There
is no way in which only a part of it is recorded. -/
theorem Config.RunsSchema.adds {config : Config} {b b' : Backend} {text : String}
    {outcome : Outcome Unit} (runs : config.RunsSchema b text (outcome, b')) :
    outcome = .done () ∧
        b'.journal = b.journal ++ config.schemaEntries (Journal.acquired b.journal + 1) text ∨
      outcome.isDone = false ∧ b.Adds [] b' := by
  cases runs with
  | unserved error requested => exact Or.inr ⟨rfl, .requests requested⟩
  | refused error requested runs =>
    have served := Backend.Adds.served requested
    cases runs with
    | refused error requested' =>
      exact Or.inr ⟨rfl, (served.trans (.requests requested')).trans (.release _ _)⟩
  | @done b₁ b₂ requested runs =>
    cases runs with
    | @done b₃ requested' =>
      have number : b₁.nextSession.number = Journal.acquired b.journal + 1 := by
        rw [Backend.nextSession, requested.journal, Journal.acquired, List.countP_append]
        rfl
      have asked := requested'.journal
      rw [Backend.serve, Backend.record, requested.journal] at asked
      refine Or.inl ⟨rfl, ?_⟩
      rw [Backend.release, Backend.record, Backend.record, asked, number, Config.schemaEntries]
      simp only [List.append_assoc, List.cons_append, List.nil_append]

/-- A schema statement is carried out only without an open transaction, and then with a session of
its own, which is given back right after it. -/
theorem Connection.executeSchema_adds (c : Connection) (b : Backend) (text : String) :
    let out := c.executeSchema b text
    (out.1 = .done () ∧ (∃ settings, c.state = .outside settings) ∧
        out.2.journal =
          b.journal ++ c.config.schemaEntries (Journal.acquired b.journal + 1) text) ∨
      out.1.isDone = false ∧ b.Adds [] out.2 := by
  dsimp only
  rw [Connection.executeSchema]
  cases c.state with
  | closed => exact Or.inr ⟨rfl, .refl b⟩
  | inside transaction session settings => exact Or.inr ⟨rfl, .refl b⟩
  | outside settings =>
    rcases (c.config.runsSchema b text).adds with ⟨done, whole⟩ | unsent
    · exact Or.inl ⟨done, ⟨settings, rfl⟩, whole⟩
    · exact Or.inr unsent

/-! ## Calls without a text -/

/-- Whether a request is about transactions or the connection itself, and brings no statement. -/
def Request.isControl : Request → Bool
  | .data _ _ => false
  | .schema _ => false
  | _ => true

theorem Session.Begins.adds {s s' : Session} {b b' : Backend} {mode : TransactionMode}
    {deadline : Duration} {answer : Except BackendError TransactionId}
    (begins : s.Begins b mode deadline (answer, s', b')) : b.Adds [] b' := by
  cases begins with
  | refused error requested => exact .requests requested
  | done requested => exact (Backend.Adds.requests requested).trans (.record _ _)

theorem Session.Finishes.adds {s s' : Session} {b b' : Backend} {ending : Ending}
    {transaction : TransactionId} {deadline : Duration} {answer : Except BackendError Unit}
    (finishes : s.Finishes b ending transaction deadline (answer, s', b')) : b.Adds [] b' := by
  cases finishes with
  | refused error requested => exact .requests requested
  | misplaced error requested checked => exact .requests requested
  | done requested checked =>
    cases ending with
    | commit => exact (Backend.Adds.requests requested).trans (.record _ _)
    | rollback => exact (Backend.Adds.requests requested).trans (.record _ _)

theorem Connection.Begins.adds {c c' : Connection} {b b' : Backend}
    {settings : TransactionSettings} {outcome : Outcome Unit}
    (begins : c.Begins b settings (outcome, c', b')) : b.Adds [] b' := by
  cases begins with
  | closed state => exact .refl b
  | already isInside => exact .refl b
  | unserved error requested => exact .requests requested
  | refused error state requested begins =>
    have served := Backend.Adds.served requested
    exact (served.trans begins.adds).trans (.release _ _)
  | done transaction state requested begins =>
    have served := Backend.Adds.served requested
    exact served.trans begins.adds

theorem Connection.Finishes.adds {c c' : Connection} {b b' : Backend} {ending : Ending}
    {outcome : Outcome Unit} (finishes : c.Finishes b ending (outcome, c', b')) :
    b.Adds [] b' := by
  cases finishes with
  | givenUp waits => exact .of_streamWork waits.streamWork
  | nothingOpen waits state => exact .of_streamWork waits.streamWork
  | refused error waits state finishes =>
    exact (Backend.Adds.of_streamWork waits.streamWork).trans finishes.adds
  | done waits state finishes =>
    exact ((Backend.Adds.of_streamWork waits.streamWork).trans finishes.adds).trans (.release _ _)

theorem Connection.ForceCloses.adds {c c' : Connection} {b b' : Backend} {outcome : Outcome Unit}
    (closes : c.ForceCloses b (outcome, c', b')) : b.Adds [] b' := by
  cases closes with
  | givenUp waits => exact .of_streamWork waits.streamWork
  | nothingOpen waits state => exact .of_streamWork waits.streamWork
  | rolledBack answer waits state finishes =>
    exact ((Backend.Adds.of_streamWork waits.streamWork).trans finishes.adds).trans (.release _ _)

theorem Connection.setAutoCommit_adds (c : Connection) (b : Backend) (patience : Patience)
    (autoCommit : Bool) : b.Adds [] (c.setAutoCommit b patience autoCommit).2.2.1 := by
  have adds := (c.finishes b patience .commit).adds
  unfold Connection.setAutoCommit
  split
  · exact .refl b
  · exact .refl b
  · exact .refl b
  · rw [Connection.commit]
    generalize c.finish b patience .commit = run at adds
    obtain ⟨outcome, c', b', patience'⟩ := run
    cases outcome <;> exact adds

theorem Connection.close_adds (c : Connection) (b : Backend) (patience : Patience) :
    b.Adds [] (c.close b patience).2.2.1 := by
  have adds := (c.finishes b patience .commit).adds
  rw [Connection.close]
  split
  · exact .refl b
  · rw [Connection.commit]
    generalize c.finish b patience .commit = run at adds
    obtain ⟨outcome, c', b', patience'⟩ := run
    cases outcome <;> exact adds

/-- A call that brings no statement adds none to the journal, whatever it does with transactions and
sessions. -/
theorem Connection.perform_control (c : Connection) (b : Backend) (patience : Patience)
    {request : Request} (control : request.isControl = true) :
    b.Adds [] (c.perform b patience request).2.2.1 := by
  cases request with
  | data descriptor rows => cases control
  | schema text => cases control
  | begin settings => exact (c.begins b settings).adds
  | commit => exact (c.finishes b patience .commit).adds
  | rollback => exact (c.finishes b patience .rollback).adds
  | setAutoCommit autoCommit => exact c.setAutoCommit_adds b patience autoCommit
  | setIsolationLevel level => exact .refl b
  | setReadOnly readOnly => exact .refl b
  | setQueryTimeout timeout => exact .refl b
  | close => exact c.close_adds b patience
  | forceClose => exact (c.forceCloses b patience).adds

end SqlDriver
