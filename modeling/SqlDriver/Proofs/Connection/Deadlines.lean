import SqlDriver.Proofs.Connection.Asking
import SqlDriver.Proofs.Connection.Closing

/-!
The deadlines of requests. Every call asks the backend for what its kind and the state of the
connection say, each request with the deadline that the configuration of the connection has for it.
A call that the backend refuses comes to its end with the request that is refused; one that the
state does not allow, or that is given up while it waits, asks for nothing.
-/

namespace SqlDriver

/-- The deadline of the requests of a kind. -/
def Config.deadline (config : Config) : CallKind → Duration
  | .acquire => config.sessionTimeout
  | .dataStatement | .streamTail | .schemaStatement => config.queryTimeout
  | .begin | .commit | .rollback => config.transactionTimeout

/-! ## What calls ask for -/

/-- What a call has asked for, by how it came out, where no more than some kinds of request are its
business and `whole` says of all that it asks for if it succeeds. -/
structure Outcome.Asks {α : Type} (kinds : List CallKind) (whole : List Ask → Prop)
    (outcome : Outcome α) (asked : List Ask) : Prop where
  kinds : ∀ ask ∈ asked, ask.call ∈ kinds
  whole : outcome.isDone = true → whole asked
  misused : ∀ fault, outcome = .failed (.state fault) → asked = []
  /-- The refusal that a call fails with is that of its last request. -/
  refused : ∀ status call, outcome.refusal? = some ⟨status, .injected call⟩ →
    asked.getLast? = some ⟨call, some status⟩
  /-- A call is given up before it has asked for anything, or while it takes in a result stream. -/
  cancelled : outcome = .cancelled → asked = [] ∨ asked.getLast? = some ⟨.dataStatement, none⟩

namespace Outcome.Asks

variable {α β : Type} {kinds : List CallKind} {whole whole' : List Ask → Prop}
  {asked front : List Ask}

/-- A call that succeeds has asked for all that belongs to it. -/
theorem done (known : ∀ ask ∈ asked, ask.call ∈ kinds) (all : whole asked) (value : α) :
    Outcome.Asks kinds whole (.done value) asked where
  kinds := known
  whole _ := all
  misused := by intro fault failed; cases failed
  refused := by intro status call failed; cases failed
  cancelled := by intro gaveUp; cases gaveUp

theorem error {error : DriverError} (known : ∀ ask ∈ asked, ask.call ∈ kinds)
    (misused : ∀ fault, error = .state fault → asked = [])
    (last : ∀ status call, error.refusal? = some ⟨status, .injected call⟩ →
      asked.getLast? = some ⟨call, some status⟩) :
    Outcome.Asks kinds whole (.failed error : Outcome α) asked where
  kinds := known
  whole := by intro done; cases done
  misused := by
    intro fault failed
    cases failed
    exact misused fault rfl
  refused := last
  cancelled := by intro gaveUp; cases gaveUp

/-- A call that is given up has asked for nothing, or for a data statement last. -/
theorem cancel (known : ∀ ask ∈ asked, ask.call ∈ kinds)
    (last : asked = [] ∨ asked.getLast? = some ⟨.dataStatement, none⟩) :
    Outcome.Asks kinds whole (.cancelled : Outcome α) asked where
  kinds := known
  whole := by intro done; cases done
  misused := by intro fault failed; cases failed
  refused := by intro status call failed; cases failed
  cancelled _ := last

theorem misuse (fault : StateFault) :
    Outcome.Asks kinds whole (.failed (.state fault) : Outcome α) [] :=
  .error (List.forall_mem_nil _) (fun _ _ => rfl) (by intro status call failed; cases failed)

theorem givenUp : Outcome.Asks kinds whole (.cancelled : Outcome α) [] :=
  .cancel (List.forall_mem_nil _) (Or.inl rfl)

/-- A call that the backend refuses, with its last request if that was set beforehand. An error of a
stream comes after all requests. -/
theorem failed {error : BackendError} (known : ∀ ask ∈ asked, ask.call ∈ kinds)
    (last : ∀ status call, error = ⟨status, .injected call⟩ →
      asked.getLast? = some ⟨call, some status⟩) :
    Outcome.Asks kinds whole (.failed (.backend error) : Outcome α) asked := by
  refine .error known ?_ ?_
  · intro fault same
    cases same
  · intro status call same
    cases same
    exact last status call rfl

/-- A call that fails with what its last request came to: nothing is asked after a refusal. -/
theorem failedLast {deadline : CallKind → Duration} {b b' : Backend} {call : CallKind}
    {error : BackendError} (known : ∀ ask ∈ front, ask.call ∈ kinds) (mine : call ∈ kinds)
    (once : b.AsksOnce deadline call (.error error : Except BackendError β) b') :
    Outcome.Asks kinds whole (.failed (.backend error) : Outcome α)
      (front ++ [⟨call, refusalOf (.error error : Except BackendError β)⟩]) := by
  refine .failed ?_ ?_
  · intro ask member
    rcases List.mem_append.mp member with member | member
    · exact known ask member
    · rwa [List.mem_singleton.mp member]
  · rintro status other rfl
    rw [List.getLast?_concat, once.own status other rfl]
    rfl

/-- A batch fails with the refusal that its row fails with. -/
theorem batch {error : DriverError} (h : (.failed error : Outcome α).Asks kinds whole asked)
    (row : Nat) (completed : List QueryResult) :
    (.failed (.batch row completed error) : Outcome β).Asks kinds whole' asked :=
  .error h.kinds (by intro fault same; cases same) h.refused

theorem map {outcome : Outcome α} (f : α → β) (h : outcome.Asks kinds whole asked) :
    (outcome.map f).Asks kinds whole asked := by
  cases outcome with
  | done value => exact .done h.kinds (h.whole rfl) (f value)
  | failed error =>
    exact .error h.kinds (fun fault same => h.misused fault (by rw [same])) h.refused
  | cancelled => exact .cancel h.kinds (h.cancelled rfl)

end Outcome.Asks

/-! ## Data statements -/

/-- What data statements ask for that are all carried out: each is the last of its requests, and
runs on the session that is held or on one that is got for it. -/
inductive Ask.Rows : (count : Nat) → List Ask → Prop
  | zero : Ask.Rows 0 []
  | held {count : Nat} {asked : List Ask} (rows : Ask.Rows count asked) :
      Ask.Rows (count + 1) (asked ++ [⟨.dataStatement, none⟩])
  | fresh {count : Nat} {asked : List Ask} (rows : Ask.Rows count asked) :
      Ask.Rows (count + 1) (asked ++ [⟨.acquire, none⟩, ⟨.dataStatement, none⟩])

/-- The requests of some rows and of those after them are the requests of all. -/
theorem Ask.Rows.append {count count' : Nat} {asked asked' : List Ask}
    (rows : Ask.Rows count asked) (others : Ask.Rows count' asked') :
    Ask.Rows (count + count') (asked ++ asked') := by
  induction others with
  | zero => rwa [List.append_nil]
  | held others ih =>
    rw [← List.append_assoc]
    exact .held ih
  | fresh others ih =>
    rw [← List.append_assoc]
    exact .fresh ih

/-- The last request of a row is its data statement. -/
theorem Ask.Rows.last {count : Nat} {asked : List Ask} (rows : Ask.Rows (count + 1) asked) :
    asked.getLast? = some ⟨.dataStatement, none⟩ := by
  cases rows with
  | held rows => exact List.getLast?_concat
  | fresh rows => rw [List.getLast?_append]; rfl

/-- The outcome of a data statement, on whichever session it ran. -/
def Collected.outcome : Except BackendError (Nat × Collected) → Outcome QueryResult
  | .error error => .failed (.backend error)
  | .ok (_, .complete contents _) => .done ⟨contents.resultSets⟩
  | .ok (_, .failed error) => .failed (.backend error)
  | .ok (_, .cancelled) => .cancelled

section DataStatement

variable {c c' : Connection} {s s' : Session} {b b' : Backend} {text : String}
  {parameters : NamedValues} {transaction : TransactionId} {settings : TransactionSettings}
  {result : Except BackendError (Nat × Collected) × Session × Backend}

/-- A row asks for its data statement, on a session that is held or that was asked for just before.
-/
theorem Session.Executes.asksRows {control : TransactionControl} {deadline : Duration}
    {guard : Nat → Session → Guard}
    (executes : s.Executes b text control parameters deadline guard result)
    {front : List Ask} (known : front = [] ∨ front = [⟨.acquire, none⟩]) :
    (Collected.outcome result.1).Asks [.acquire, .dataStatement] (Ask.Rows 1)
      (front ++ [⟨.dataStatement, refusalOf result.1⟩]) := by
  obtain ⟨answer, s', b'⟩ := result
  have kinds : ∀ ask ∈ front, ask.call ∈ [CallKind.acquire, .dataStatement] := by
    rcases known with rfl | rfl <;> simp
  have granted : ∀ ask ∈ front ++ [⟨CallKind.dataStatement, none⟩],
      ask.call ∈ [CallKind.acquire, .dataStatement] := by
    rcases known with rfl | rfl <;> simp
  cases answer with
  | error error =>
    have once : b.AsksOnce (fun _ => deadline) .dataStatement
        (.error error : Except BackendError (Nat × Collected)) b' := executes.asksOnce
    exact .failedLast kinds (by simp) once
  | ok value =>
    obtain ⟨stream, collected⟩ := value
    cases collected with
    | complete contents kept =>
      refine .done granted ?_ _
      rcases known with rfl | rfl
      · exact .held .zero
      · exact .fresh .zero
    | failed error =>
      exact .failed granted fun status call same => (executes.ne_injected status call same).elim
    | cancelled => exact .cancel granted (Or.inr List.getLast?_concat)

theorem Connection.config_followReport (c : Connection) (b : Backend)
    (reported : Option TransactionId) : (c.followReport b reported).1.config = c.config := by
  unfold Connection.followReport
  split
  · rfl
  · rfl
  · rw [Connection.leave]
    split <;> rfl

theorem Connection.afterInside_outcome (c : Connection) (transaction : TransactionId)
    (settings : TransactionSettings)
    (result : Except BackendError (Nat × Collected) × Session × Backend) :
    (c.afterInside transaction settings result).1 = Collected.outcome result.1 ∧
      (c.afterInside transaction settings result).2.1.config = c.config ∧
      result.2.2.StreamWork (c.afterInside transaction settings result).2.2 := by
  unfold Connection.afterInside
  split
  · exact ⟨rfl, rfl, .refl _⟩
  · exact ⟨rfl, Connection.config_followReport _ _ _, .followReport _ _ _⟩
  · exact ⟨rfl, rfl, .refl _⟩
  · exact ⟨rfl, rfl, .refl _⟩

theorem Connection.afterOutside_outcome {control : TransactionControl} {deadline : Duration}
    (executes : s.Executes b text control parameters deadline (fun _ session => .lease session)
      result) (c : Connection) (settings : TransactionSettings) :
    (c.afterOutside settings result).1 = Collected.outcome result.1 ∧
      (c.afterOutside settings result).2.1.config = c.config ∧
      result.2.2.StreamWork (c.afterOutside settings result).2.2 := by
  cases executes with
  | refused error requested => exact ⟨rfl, rfl, .release _ _⟩
  | misplaced error requested checked => exact ⟨rfl, rfl, .release _ _⟩
  | complete opened left requested opens consulted idles =>
    cases opened with
    | none => exact ⟨rfl, rfl, .release _ _⟩
    | some transaction => exact ⟨rfl, rfl, .refl _⟩
  | failed opened status left requested opens consulted idles => exact ⟨rfl, rfl, .refl _⟩
  | cancelled opened failure left rest requested opens consulted idles finishing =>
    exact ⟨rfl, rfl, .refl _⟩

/-- A call that has left the configuration as it was, and what it has asked for. -/
structure Connection.AsksFor {α : Type} (kinds : List CallKind) (whole : List Ask → Prop)
    (c : Connection) (b : Backend) (out : Outcome α × Connection × Backend) : Prop where
  config : out.2.1.config = c.config
  asked : ∃ asked, b.Asks c.config.deadline asked out.2.2 ∧ out.1.Asks kinds whole asked

/-- A data statement for one row asks for a session, if it needs one, and for the statement, each
once. -/
theorem Connection.ExecutesOne.asksFor {out : Outcome QueryResult × Connection × Backend}
    (executes : c.ExecutesOne b text parameters out) :
    Connection.AsksFor [.acquire, .dataStatement] (Ask.Rows 1) c b out := by
  cases executes with
  | givenUp waits =>
    exact ⟨waits.config, [], .of_streamWork _ waits.streamWork, .givenUp⟩
  | closed waits state =>
    exact ⟨waits.config, [], .of_streamWork _ waits.streamWork, .misuse _⟩
  | @inside c' b' transaction session settings result waits state executes =>
    obtain ⟨outcome, config, work⟩ := c'.afterInside_outcome transaction settings result
    have once : b'.AsksOnce c.config.deadline .dataStatement result.1 result.2.2 := by
      rw [← waits.config]
      exact executes.asksOnce
    have asks := (Backend.Asks.of_streamWork _ waits.streamWork).trans once.asks
    refine ⟨config.trans waits.config, [⟨.dataStatement, refusalOf result.1⟩],
      asks.streamWork work, ?_⟩
    rw [outcome]
    exact executes.asksRows (Or.inl rfl)
  | @outside c' b' settings out waits state executes =>
    have drained := Backend.Asks.of_streamWork c.config.deadline waits.streamWork
    cases executes with
    | @unserved b'' error requested =>
      have once : b'.AsksOnce c.config.deadline .acquire
          (.error error : Except BackendError Unit) b'' := by
        rw [← waits.config]
        exact requested.asksOnce
      exact ⟨waits.config, _, drained.trans once.asks, .failedLast (by simp) (by simp) once⟩
    | @served b'' result requested executes =>
      obtain ⟨outcome, config, work⟩ := Connection.afterOutside_outcome executes c' settings
      have once : b''.serve.AsksOnce c'.config.deadline .dataStatement result.1 result.2.2 :=
        executes.asksOnce
      have asks := once.onNew requested
      rw [waits.config] at asks
      refine ⟨config.trans waits.config, [⟨.acquire, none⟩, ⟨.dataStatement, refusalOf result.1⟩],
        (drained.trans asks).streamWork work, ?_⟩
      rw [outcome]
      exact executes.asksRows (Or.inr rfl)

end DataStatement

/-- What more statements ask for after one that was carried out. No batch is turned down by the
state of the connection. -/
theorem Outcome.Asks.afterRow {α β : Type} {outcome : Outcome α} {value : β} {count : Nat}
    {asked asked' : List Ask}
    (first : (.done value : Outcome β).Asks [.acquire, .dataStatement] (Ask.Rows 1) asked)
    (others : outcome.Asks [.acquire, .dataStatement] (Ask.Rows count) asked')
    (usable : ∀ fault, outcome ≠ .failed (.state fault)) :
    outcome.Asks [.acquire, .dataStatement] (Ask.Rows (count + 1)) (asked ++ asked') where
  kinds := by
    intro ask member
    rcases List.mem_append.mp member with member | member
    · exact first.kinds ask member
    · exact others.kinds ask member
  whole done := by
    rw [Nat.add_comm]
    exact (first.whole rfl).append (others.whole done)
  misused fault failed := (usable fault failed).elim
  refused status call failed := by
    rw [List.getLast?_append, others.refused status call failed]
    rfl
  cancelled gaveUp := by
    rcases others.cancelled gaveUp with rfl | last
    · rw [List.append_nil]
      exact Or.inr (first.whole rfl).last
    · rw [List.getLast?_append, last]
      exact Or.inr rfl

/-- A batch is not turned down by the state of the connection, though a row of it may be. -/
theorem Connection.executeAll_ne_misused (c : Connection) (b : Backend) (patience : Patience)
    (text : String) (completed : List QueryResult) (rows : List NamedValues) (fault : StateFault) :
    (c.executeAll b patience text completed rows).1 ≠ .failed (.state fault) := by
  induction rows generalizing c b patience completed with
  | nil => exact fun failed => by cases failed
  | cons row rows ih =>
    rw [Connection.executeAll]
    generalize c.executeOne b patience text row = run
    obtain ⟨outcome, c', b', patience'⟩ := run
    cases outcome with
    | done result => exact ih c' b' patience' (completed ++ [result])
    | failed error => exact fun failed => by cases failed
    | cancelled => exact fun failed => by cases failed

section

variable {refusals : List (CallKind × Status)} {c : Connection} {b : Backend}

/-- A batch asks row by row, and stops with the row that fails. A transaction that a row has left
open spares the rows after it a session of their own. -/
theorem Connection.executeAll_asksFor (accords : Connection.Accords refusals c b)
    (patience : Patience) (text : String) (completed : List QueryResult)
    (rows : List NamedValues) :
    let run := c.executeAll b patience text completed rows
    Connection.AsksFor [.acquire, .dataStatement] (Ask.Rows rows.length) c b
      (run.1, run.2.1, run.2.2.1) := by
  induction rows generalizing c b patience completed with
  | nil => exact ⟨rfl, [], .refl _ b, .done (by simp) .zero completed⟩
  | cons row rows ih =>
    have executes := c.executesOne accords.2.unreported patience text row
    have kept := (accords.executesOne executes).1
    obtain ⟨config, asked, asks, comes⟩ := executes.asksFor
    rw [Connection.executeAll]
    generalize c.executeOne b patience text row = run at kept config asks comes
    obtain ⟨outcome, c', b', patience'⟩ := run
    cases outcome with
    | done result =>
      obtain ⟨config', asked', asks', comes'⟩ := ih kept patience' (completed ++ [result])
      have usable := c'.executeAll_ne_misused b' patience' text (completed ++ [result]) rows
      -- The rows that follow are asked for under the same configuration.
      dsimp only at config asks asks' comes' ⊢
      rw [config] at asks'
      exact ⟨config'.trans config, asked ++ asked', asks.trans asks',
        comes.afterRow comes' usable⟩
    | failed error => exact ⟨config, asked, asks, comes.batch completed.length completed⟩
    | cancelled => exact ⟨config, asked, asks, .cancel comes.kinds (comes.cancelled rfl)⟩

/-- A data statement asks for nothing if the connection is closed, and for each of its rows
otherwise. -/
theorem Connection.executeData_asksFor (accords : Connection.Accords refusals c b)
    (patience : Patience) (descriptor : Descriptor) (rows : List NamedValues) :
    let run := c.executeData b patience descriptor rows
    Connection.AsksFor [.acquire, .dataStatement] (Ask.Rows (max 1 rows.length)) c b
      (run.1, run.2.1, run.2.2.1) := by
  have one : ∀ row, let run := c.executeOne b patience descriptor.canonical row
      Connection.AsksFor [.acquire, .dataStatement] (Ask.Rows 1) c b
        (run.1.map ([·]), run.2.1, run.2.2.1) := by
    intro row
    obtain ⟨config, asked, asks, comes⟩ :=
      (c.executesOne accords.2.unreported patience descriptor.canonical row).asksFor
    exact ⟨config, asked, asks, comes.map _⟩
  cases closed : c.state.isClosed with
  | true =>
    unfold Connection.executeData
    rw [if_pos closed]
    exact ⟨rfl, [], .refl _ b, .misuse _⟩
  | false =>
    rcases Connection.executeData_rows closed b patience descriptor rows with
      ⟨row, single, same⟩ | ⟨first, rest, rfl, same⟩
    · rw [same, single]
      exact one row
    · rw [same, List.length_cons, Nat.max_eq_right (Nat.le_add_left 1 rest.length)]
      exact Connection.executeAll_asksFor accords patience descriptor.canonical [] (first :: rest)

end

/-! ## Other calls -/

section

variable {c : Connection} {b : Backend}

/-- A schema statement asks for a session and for itself. -/
theorem Config.RunsSchema.asksFor {text : String} {out : Outcome Unit × Backend}
    (runs : c.config.RunsSchema b text out) :
    Connection.AsksFor [.acquire, .schemaStatement]
      (fun asked => asked = [⟨.acquire, none⟩, ⟨.schemaStatement, none⟩]) c b
      (out.1, c, out.2) := by
  cases runs with
  | @unserved b' error requested =>
    have once : b.AsksOnce c.config.deadline .acquire
        (.error error : Except BackendError Unit) b' := requested.asksOnce
    exact ⟨rfl, _, once.asks, .failedLast (List.forall_mem_nil _) (by simp) once⟩
  | @refused b' b'' error requested runs =>
    have once : b'.serve.AsksOnce c.config.deadline .schemaStatement
        (.error error : Except BackendError Unit) b'' := runs.asksOnce
    exact ⟨rfl, _, (once.onNew requested).streamWork (.release _ _),
      .failedLast (by simp) (by simp) once⟩
  | @done b' b'' requested runs =>
    have once : b'.serve.AsksOnce c.config.deadline .schemaStatement
        (.ok () : Except BackendError Unit) b'' := runs.asksOnce
    exact ⟨rfl, [⟨.acquire, none⟩, ⟨.schemaStatement, none⟩],
      (once.onNew requested).streamWork (.release _ _), .done (by simp) (by rfl) ()⟩

theorem Connection.executeSchema_asksFor (c : Connection) (b : Backend) (text : String) :
    let run := c.executeSchema b text
    Connection.AsksFor [.acquire, .schemaStatement]
      (fun asked => asked = [⟨.acquire, none⟩, ⟨.schemaStatement, none⟩]) c b
      (run.1, c, run.2) := by
  rw [Connection.executeSchema]
  cases c.state with
  | closed => exact ⟨rfl, [], .refl _ b, .misuse _⟩
  | inside transaction session settings => exact ⟨rfl, [], .refl _ b, .misuse _⟩
  | outside settings => exact (c.config.runsSchema b text).asksFor

/-- Beginning asks for a session and for the transaction, unless the connection is inside one
already. -/
theorem Connection.Begins.asksFor {settings : TransactionSettings}
    {out : Outcome Unit × Connection × Backend} (begins : c.Begins b settings out) :
    Connection.AsksFor [.acquire, .begin]
      (fun asked => asked = if c.state.isInside then [] else [⟨.acquire, none⟩, ⟨.begin, none⟩])
      c b out := by
  cases begins with
  | closed state => exact ⟨rfl, [], .refl _ b, .misuse _⟩
  | already inside => exact ⟨rfl, [], .refl _ b, .done (by simp) (by rw [if_pos inside]) ()⟩
  | @unserved b' error requested =>
    have once : b.AsksOnce c.config.deadline .acquire
        (.error error : Except BackendError Unit) b' := requested.asksOnce
    exact ⟨rfl, _, once.asks, .failedLast (List.forall_mem_nil _) (by simp) once⟩
  | @refused b' b'' session old error state requested begins =>
    have once : b'.serve.AsksOnce c.config.deadline .begin
        (.error error : Except BackendError TransactionId) b'' := begins.asksOnce
    exact ⟨rfl, _, (once.onNew requested).streamWork (.release _ _),
      .failedLast (by simp) (by simp) once⟩
  | @done b' b'' session old transaction state requested begins =>
    have once : b'.serve.AsksOnce c.config.deadline .begin
        (.ok transaction : Except BackendError TransactionId) b'' := begins.asksOnce
    refine ⟨rfl, _, once.onNew requested, .done (by simp) ?_ ()⟩
    rw [state]
    rfl

theorem Config.deadline_ending (config : Config) (ending : Ending) :
    config.deadline ending.call = config.transactionTimeout := by
  cases ending <;> rfl

/-- Ending the transaction, after the wait for the stream on its session. -/
theorem Connection.AwaitsDrain.asksOnce {c' : Connection} {b' b'' : Backend} {ending : Ending}
    {transaction : TransactionId} {session session' : Session} {answer : Except BackendError Unit}
    (waits : c.AwaitsDrain b (true, c', b'))
    (finishes : session.Finishes b' ending transaction c'.config.transactionTimeout
      (answer, session', b'')) : b'.AsksOnce c.config.deadline ending.call answer b'' := by
  rw [waits.config, ← Config.deadline_ending c.config ending] at finishes
  exact finishes.asksOnce

/-- What ending the transaction asks for if it succeeds. -/
def Ending.whole (ending : Ending) (inside : Bool) (asked : List Ask) : Prop :=
  asked = if inside then [⟨ending.call, none⟩] else []

/-- Ending the transaction asks once, and only if there is one. -/
theorem Connection.Finishes.asksFor {ending : Ending} {out : Outcome Unit × Connection × Backend}
    (finishes : c.Finishes b ending out) :
    Connection.AsksFor [ending.call] (ending.whole c.state.isInside) c b out := by
  cases finishes with
  | givenUp waits =>
    exact ⟨waits.config, [], .of_streamWork _ waits.streamWork, .givenUp⟩
  | nothingOpen waits state =>
    rw [waits.state] at state
    exact ⟨waits.config, [], .of_streamWork _ waits.streamWork,
      .done (by simp) (by rw [Ending.whole, state]; rfl) ()⟩
  | refused error waits state finishes =>
    have once := waits.asksOnce finishes
    have asks := (Backend.Asks.of_streamWork _ waits.streamWork).trans once.asks
    exact ⟨waits.config, _, asks, .failedLast (by simp) (by simp) once⟩
  | done waits state finishes =>
    have asks := (Backend.Asks.of_streamWork _ waits.streamWork).trans
      (waits.asksOnce finishes).asks
    refine ⟨waits.config, _, asks.streamWork (.release _ _), .done (by simp) ?_ ()⟩
    rw [Ending.whole, ← waits.state, state]
    rfl

/-- A forced close asks to roll back what is open, and does not ask again if that is refused. -/
theorem Connection.ForceCloses.asksFor {out : Outcome Unit × Connection × Backend}
    (closes : c.ForceCloses b out) :
    Connection.AsksFor [.rollback]
      (fun asked => if c.state.isInside then ∃ refusal, asked = [⟨.rollback, refusal⟩]
        else asked = []) c b out := by
  cases closes with
  | givenUp waits => exact ⟨waits.config, [], .of_streamWork _ waits.streamWork, .givenUp⟩
  | nothingOpen waits state =>
    rw [waits.state] at state
    refine ⟨waits.config, [], .of_streamWork _ waits.streamWork, .done (by simp) ?_ ()⟩
    rw [state]
    rfl
  | rolledBack answer waits state finishes =>
    have asks := (Backend.Asks.of_streamWork _ waits.streamWork).trans
      (waits.asksOnce finishes).asks
    refine ⟨waits.config, _, asks.streamWork (.release _ _), .done ?_ ?_ ()⟩
    · intro ask member
      rw [List.mem_singleton.mp member]
      exact List.mem_cons_self
    · rw [← waits.state, state]
      exact ⟨_, rfl⟩

theorem Connection.changeSettings_asksFor (c : Connection) (b : Backend)
    (change : TransactionSettings → TransactionSettings) :
    let run := c.changeSettings change
    Connection.AsksFor [] (fun asked => asked = []) c b (run.1, run.2, b) := by
  rw [Connection.changeSettings]
  cases c.state with
  | outside settings => exact ⟨rfl, [], .refl _ b, .done (by simp) (by rfl) ()⟩
  | inside transaction session settings => exact ⟨rfl, [], .refl _ b, .misuse _⟩
  | closed => exact ⟨rfl, [], .refl _ b, .misuse _⟩

theorem Connection.setAutoCommit_off_asksFor (c : Connection) (b : Backend)
    (patience : Patience) :
    let run := c.setAutoCommit b patience false
    Connection.AsksFor [] (fun asked => asked = []) c b (run.1, run.2.1, run.2.2.1) := by
  unfold Connection.setAutoCommit
  cases state : c.state with
  | closed => exact ⟨rfl, [], .refl _ b, .misuse _⟩
  | outside settings =>
    simp only [Connection.changeSettings_of_outside state]
    exact ⟨rfl, [], .refl _ b, .done (by simp) (by rfl) ()⟩
  | inside transaction session settings =>
    exact ⟨rfl, [], .refl _ b, .done (by simp) (by rfl) ()⟩

/-- Turning automatic committing on commits what is open. -/
theorem Connection.setAutoCommit_on_asksFor (c : Connection) (b : Backend) (patience : Patience) :
    let run := c.setAutoCommit b patience true
    Connection.AsksFor [.commit] (Ending.whole .commit c.state.isInside) c b
      (run.1, run.2.1, run.2.2.1) := by
  have finishes := c.finishes b patience .commit
  unfold Connection.setAutoCommit
  cases state : c.state with
  | closed => exact ⟨rfl, [], .refl _ b, .misuse _⟩
  | outside settings =>
    simp only [Connection.changeSettings_of_outside state]
    exact ⟨rfl, [], .refl _ b, .done (by simp) (by rfl) ()⟩
  | inside transaction session settings =>
    have inside : c.state.isInside = true := by rw [state]; rfl
    obtain ⟨config, asked, asks, comes⟩ := finishes.asksFor
    rw [inside] at comes
    simp only [Connection.commit]
    generalize c.finish b patience .commit = run at finishes config asks comes
    obtain ⟨outcome, c', b', patience'⟩ := run
    cases outcome with
    | done ended =>
      obtain ⟨settings', outside⟩ := finishes.outside inside
      dsimp only at outside ⊢
      rw [Connection.changeSettings_of_outside outside]
      exact ⟨config, asked, asks, comes⟩
    | failed error => exact ⟨config, asked, asks, comes⟩
    | cancelled => exact ⟨config, asked, asks, comes⟩

theorem Connection.Closes.asksFor {out : Outcome Unit × Connection × Backend}
    (closes : c.Closes b out) :
    Connection.AsksFor [.commit] (Ending.whole .commit c.state.isInside) c b out := by
  cases closes with
  | already state => exact ⟨rfl, [], .refl _ b, .misuse _⟩
  | kept unclosed undone finishes => exact finishes.asksFor
  | closed unclosed finishes =>
    obtain ⟨config, asked, asks, comes⟩ := finishes.asksFor
    exact ⟨config, asked, asks, comes⟩

end

/-! ## All calls -/

/-- The kinds of request that a call may make. -/
def Request.kinds : Request → List CallKind
  | .data _ _ => [.acquire, .dataStatement]
  | .schema _ => [.acquire, .schemaStatement]
  | .begin _ => [.acquire, .begin]
  | .commit | .setAutoCommit true | .close => [.commit]
  | .rollback | .forceClose => [.rollback]
  | _ => []

/-- What a call asks for that succeeds, by whether a transaction is open. A forced close succeeds
even if its request is refused. -/
def Request.whole (inside : Bool) : Request → List Ask → Prop
  | .data _ rows => Ask.Rows (max 1 rows.length)
  | .schema _ => fun asked => asked = [⟨.acquire, none⟩, ⟨.schemaStatement, none⟩]
  | .begin _ => fun asked => asked = if inside then [] else [⟨.acquire, none⟩, ⟨.begin, none⟩]
  | .commit | .setAutoCommit true | .close => Ending.whole .commit inside
  | .rollback => Ending.whole .rollback inside
  | .forceClose => fun asked =>
    if inside then ∃ refusal, asked = [⟨.rollback, refusal⟩] else asked = []
  | _ => fun asked => asked = []

/-- The configuration after a call. -/
def Request.configure (config : Config) : Request → Config
  | .setQueryTimeout timeout => { config with queryTimeout := timeout }
  | _ => config

/-- What a call has asked for. Its requests carry the deadlines of the configuration as it was
before the call, which is changed by setting the deadline of statements alone. -/
theorem Connection.Accords.perform_asks {refusals : List (CallKind × Status)} {c : Connection}
    {b : Backend} (accords : Connection.Accords refusals c b) (patience : Patience)
    (request : Request) :
    let run := c.perform b patience request
    run.2.1.config = request.configure c.config ∧
      ∃ asked, b.Asks c.config.deadline asked run.2.2.1 ∧
        run.1.Asks request.kinds (request.whole c.state.isInside) asked := by
  have mapped : ∀ {α : Type} {kinds whole} {out : Outcome α × Connection × Backend}
      (f : α → Response), Connection.AsksFor kinds whole c b out → out.2.1.config = c.config ∧
        ∃ asked, b.Asks c.config.deadline asked out.2.2 ∧ (out.1.map f).Asks kinds whole asked := by
    rintro α kinds whole out f ⟨config, asked, asks, comes⟩
    exact ⟨config, asked, asks, comes.map f⟩
  cases request with
  | data descriptor rows =>
    exact mapped _ (Connection.executeData_asksFor accords patience descriptor rows)
  | schema text => exact mapped _ (c.executeSchema_asksFor b text)
  | begin settings => exact mapped _ (c.begins b settings).asksFor
  | commit => exact mapped _ (c.finishes b patience .commit).asksFor
  | rollback => exact mapped _ (c.finishes b patience .rollback).asksFor
  | setAutoCommit autoCommit =>
    cases autoCommit with
    | true => exact mapped _ (c.setAutoCommit_on_asksFor b patience)
    | false => exact mapped _ (c.setAutoCommit_off_asksFor b patience)
  | setIsolationLevel level => exact mapped _ (c.changeSettings_asksFor b _)
  | setReadOnly readOnly => exact mapped _ (c.changeSettings_asksFor b _)
  | setQueryTimeout timeout =>
    exact ⟨rfl, [], .refl _ b, .done (by simp) (by rfl) _⟩
  | close => exact mapped _ (c.closes b patience).asksFor
  | forceClose => exact mapped _ (c.forceCloses b patience).asksFor

/-- A call that is held up by the stream on its session, and given up, has done nothing else. So it
has asked for nothing either. -/
theorem Connection.perform_givenUp {c : Connection} (inside : c.state.isInside = true) (b : Backend)
    (patience : Patience) (held : (c.awaitDrain b patience).1 = false) (request : Request) :
    b.StreamWork (c.perform b patience request).2.2.1 := by
  have work := (c.awaitsDrain b patience).streamWork
  generalize waits : c.awaitDrain b patience = wait at held work
  obtain ⟨drained, c', b', patience'⟩ := wait
  cases held
  obtain ⟨transaction, session, settings, state⟩ :
      ∃ transaction session settings, c.state = .inside transaction session settings := by
    cases state : c.state with
    | inside transaction session settings => exact ⟨_, _, _, rfl⟩
    | _ => rw [state] at inside; cases inside
  have usable : c.state.isClosed = false := by rw [state]; rfl
  have finish : ∀ ending, c.finish b patience ending = (.cancelled, c', b', patience') := by
    intro ending
    rw [Connection.finish, waits]
  cases request with
  | data descriptor rows =>
    have one : ∀ text row, c.executeOne b patience text row = (.cancelled, c', b', patience') := by
      intro text row
      rw [Connection.executeOne, waits]
    rw [Connection.perform]
    rcases Connection.executeData_rows usable b patience descriptor rows with
      ⟨row, -, same⟩ | ⟨first, rest, -, same⟩
    · rw [same, one]
      exact work
    · rw [same, Connection.executeAll, one]
      exact work
  | schema text =>
    rw [Connection.perform, Connection.executeSchema, state]
    exact .refl b
  | begin settings =>
    rw [Connection.perform, Connection.begin, state]
    exact .refl b
  | commit =>
    rw [Connection.perform, Connection.commit, finish]
    exact work
  | rollback =>
    rw [Connection.perform, Connection.rollback, finish]
    exact work
  | setAutoCommit autoCommit =>
    rw [Connection.perform]
    unfold Connection.setAutoCommit
    cases autoCommit with
    | true =>
      simp only [state, Connection.commit, finish]
      exact work
    | false =>
      simp only [state]
      exact .refl b
  | setIsolationLevel level => exact .refl b
  | setReadOnly readOnly => exact .refl b
  | setQueryTimeout timeout => exact .refl b
  | close =>
    rw [Connection.perform, Connection.close, usable, if_neg Bool.false_ne_true,
      Connection.commit, finish]
    exact work
  | forceClose =>
    rw [Connection.perform, Connection.forceClose, waits]
    exact work

end SqlDriver
