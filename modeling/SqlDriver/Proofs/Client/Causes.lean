import SqlDriver.Proofs.Client.Groups
import SqlDriver.Proofs.Connection.Causes

/-!
What calls of clients fail for. Whatever a client or a prepared statement is asked to do, it comes
to at most one call on the connection. So an error in a query, in its parameters or in the use of a
connection is raised before the backend is asked for anything, and every other error is a refusal
that was set for the backend and is used up by it.
-/

namespace SqlDriver

/-- The error that a call failed with. -/
def Client.Answer.error? : Client.Answer → Option DriverError
  | .prepared outcome => outcome.error?
  | .executed outcome => outcome.error?
  | .queried outcome => outcome.error?
  | .ran outcome => outcome.error?
  | .acknowledged outcome => outcome.error?
  | .responded outcome => outcome.error?

/-- Whether an action falsifies what the backend reports of transactions. -/
def Client.Action.falsifies : Client.Action → Bool
  | .event (.queueReport _) => true
  | _ => false

/-! ## What an action comes to -/

/-- What an action may come to on a connection: the error it fails with, and what it leaves. -/
inductive Connection.Acts (c : Connection) (b : Backend) :
    Option DriverError → Connection → Backend → Prop
  /-- Nothing is asked, and nothing is at fault. -/
  | unasked : Connection.Acts c b none c b
  | misread (error : QueryError) : Connection.Acts c b (some (.query error)) c b
  | calls (request : Request) (patience : Patience) :
      Connection.Acts c b (c.perform b patience request).1.error?
        (c.perform b patience request).2.1 (c.perform b patience request).2.2.1
  /-- Result streams go on. -/
  | streams {b' : Backend} (work : b.StreamWork b') : Connection.Acts c b none c b'
  | injects (call : CallKind) (skip : Nat) (status : Status) :
      Connection.Acts c b none c (b.inject call skip status)
  | resizes (count : Nat) : Connection.Acts c b none c (b.setResultSets count)

section

variable (c : Connection) (b : Backend) (patience : Patience)

/-- A call that is one on the connection but for the value of its answer. -/
theorem Connection.Acts.of_call {α : Type} (value : α → Response) (request : Request)
    (out : Outcome α × Connection × Backend × Patience)
    (same : c.perform b patience request = (out.1.map value, out.2)) :
    c.Acts b out.1.error? out.2.1 out.2.2.1 := by
  have calls : c.Acts b _ _ _ := .calls request patience
  rwa [same, Outcome.error?_map] at calls

/-- Executing the rows of a prepared statement is one call on the connection, or fails before it is
made for the rows. -/
theorem Connection.executeBound_acts (bindings : Bindings) :
    let out := c.executeBound b patience bindings
    c.Acts b out.1.error? out.2.1 out.2.2.1 := by
  rw [Connection.executeBound]
  cases bindings.descriptor.kind with
  | data =>
    dsimp only
    cases bindings.rowsToExecute with
    | error error => exact .misread error
    | ok rows => exact .of_call c b patience .results (.data bindings.descriptor rows) _ rfl
  | schema =>
    dsimp only
    split
    · cases bindings.check with
      | error error => exact .misread error
      | ok complete =>
        have acts := Connection.Acts.of_call c b patience (fun _ => .acknowledged)
          (.schema bindings.descriptor.canonical)
          (_, c, (c.executeSchema b bindings.descriptor.canonical).2, patience) rfl
        rwa [← Outcome.error?_map (fun _ => [QueryResult.empty])] at acts
    · exact .misread _

/-- Executing a text is one call on the connection, or fails before it is made for the text. -/
theorem Client.execute_acts (client : Client) (text : String) :
    let out := client.execute b patience text
    client.connection.Acts b out.1.error? out.2.1.connection out.2.2.1 := by
  rw [Client.execute]
  generalize client.cache.parse text = parsed
  obtain ⟨answer, cache⟩ := parsed
  cases answer with
  | error error => exact .misread error
  | ok handle =>
    dsimp only
    rw [Outcome.error?_map]
    exact client.connection.executeBound_acts b patience _

/-- Querying is executing a text, with its first result set as the answer, or an empty one where
there is none. -/
theorem Client.query_acts (client : Client) (text : String) :
    let out := client.query b patience text
    client.connection.Acts b out.1.error? out.2.1.connection out.2.2.1 := by
  rw [Client.query]
  dsimp only
  rw [Outcome.error?_map]
  exact client.execute_acts b patience text

/-- Executing a prepared statement is one call on the connection with its rows. -/
theorem PreparedStatement.execute_acts (s : PreparedStatement) (client : Client) :
    let out := s.execute client b patience
    client.connection.Acts b out.1.error? out.2.2.1.connection out.2.2.2.1 := by
  have acts := client.connection.executeBound_acts b patience s.bindings
  rw [PreparedStatement.execute]
  generalize client.connection.executeBound b patience s.bindings = run at acts
  obtain ⟨outcome, connection, b', patience'⟩ := run
  cases outcome <;> exact acts

/-- Changing the rows of a prepared statement asks for nothing, and fails for its parameters. -/
theorem PreparedStatement.respond_acts (s : PreparedStatement) (change : Bindings.Change) :
    c.Acts b (s.respond change).error? c b := by
  have changes : ∀ change, c.Acts b (s.change change).1.error? c b := by
    intro change
    rw [PreparedStatement.change]
    cases change s.bindings with
    | error error => exact .misread error
    | ok bindings => exact .unasked
  cases change with
  | bind parameter value => exact changes _
  | bindAs parameter value type => exact changes _
  | bindNull parameter type => exact changes _
  | add => exact changes _
  | clear => exact .unasked

end

/-- Every action comes to at most one call on the connection, but for what happens around it. So
whatever calls on connections fail for, actions fail for nothing else than that, an unreadable text
or parameters that do not fit. -/
theorem Client.World.act_acts (w : Client.World) {action : Client.Action}
    (truthful : action.falsifies = false) :
    w.client.connection.Acts w.backend ((w.answer? action).bind Client.Answer.error?)
      (w.act action).client.connection (w.act action).backend := by
  obtain ⟨⟨c, cache⟩, statements, b⟩ := w
  have acknowledged : ∀ request patience (out : Outcome Unit × Connection × Backend × Patience),
      c.perform b patience request = (out.1.acknowledge, out.2) →
        c.Acts b out.1.error? out.2.1 out.2.2.1 :=
    fun request patience out same => .of_call c b patience _ request out same
  cases action with
  | request request patience => exact .calls request patience
  | event event =>
    cases event with
    | prepare text =>
      dsimp only [Client.World.answer?, Client.World.respond?, Client.World.act,
        Client.World.step, Client.prepare]
      generalize cache.parse text = parsed
      obtain ⟨answer, cache⟩ := parsed
      cases answer with
      | error error => exact .misread error
      | ok handle => exact .unasked
    | execute text patience => exact Client.execute_acts b patience ⟨c, cache⟩ text
    | query text patience => exact Client.query_acts b patience ⟨c, cache⟩ text
    | change place change =>
      dsimp only [Client.World.answer?, Client.World.respond?, Client.World.act,
        Client.World.step]
      cases statements[place]? with
      | none => exact .unasked
      | some s => exact s.respond_acts c b change
    | run place patience =>
      dsimp only [Client.World.answer?, Client.World.respond?, Client.World.act,
        Client.World.step]
      cases statements[place]? with
      | none => exact .unasked
      | some s => exact s.execute_acts b patience ⟨c, cache⟩
    | begin => exact acknowledged (.begin _) [] (_, _, _, []) rfl
    | commit patience => exact acknowledged .commit patience _ rfl
    | rollback patience => exact acknowledged .rollback patience _ rfl
    | close patience => exact acknowledged .close patience _ rfl
    | clearCache => exact .unasked
    | control request textless patience => exact .calls request patience
    | shared text => exact .unasked
    | stir stir => exact .streams (.stir b stir)
    | inject call skip status => exact .injects call skip status
    | setResultSets count => exact .resizes count
    | queueReport report => cases truthful

/-! ## What it fails for -/

namespace Connection.Acts

variable {c c' : Connection} {b b' : Backend} {error? : Option DriverError} {error : DriverError}

/-- An error that is not the backend's is raised before the backend is asked for anything, so
neither connection nor backend is changed by it. -/
theorem early (acts : c.Acts b (some error) c' b') (kind : error.kind ≠ .backend) :
    c' = c ∧ b' = b := by
  generalize failed : some error = outcome at acts
  cases acts with
  | misread fault => exact ⟨rfl, rfl⟩
  | calls request patience =>
    have same := c.perform_raisesEarly b patience request error failed.symm kind
    rw [same]
    exact ⟨rfl, rfl⟩
  | _ => cases failed

/-- An error of the backend is a refusal that was to be met, and was met now, alone: it is off the
list, and no other one is. -/
theorem uses {refusals : List (CallKind × Status)} (accords : Connection.Accords refusals c b)
    (acts : c.Acts b (some error) c' b') {refused : BackendError}
    (backend : error.refusal? = some refused) : refused.Uses b b' := by
  generalize failed : some error = outcome at acts
  cases acts with
  | misread fault =>
    cases failed
    cases backend
  | calls request patience =>
    refine accords.perform_uses patience request ?_
    rw [Outcome.refusal?_eq, ← failed]
    exact backend
  | _ => cases failed

/-- A connection that accords with its backend does so after every action, whether it succeeds or
fails. -/
theorem accords {refusals : List (CallKind × Status)} (accords : Connection.Accords refusals c b)
    (acts : c.Acts b error? c' b') : ∃ refusals', Connection.Accords refusals' c' b' := by
  cases acts with
  | unasked => exact ⟨refusals, accords⟩
  | misread fault => exact ⟨refusals, accords⟩
  | calls request patience =>
    exact ⟨refusals, ((Connection.law_accords refusals).perform accords patience request).1⟩
  | streams work => exact ⟨refusals, accords.1, accords.2.streamWork work⟩
  | injects call skip status => exact ⟨_, accords.1, accords.2.inject call skip status⟩
  | resizes count => exact ⟨refusals, accords.1, accords.2.congr rfl rfl rfl⟩

end Connection.Acts

/-! ## Groups -/

namespace ClientGroup

/-- Whether a call falsifies what the backend reports of transactions. -/
def Call.falsifies : Call → Bool
  | .act _ action => action.falsifies
  | .drop _ => false

namespace World

/-- Every connection agrees with its session, and the account of the backend is balanced. -/
def Accords (w : ClientGroup.World) : Prop :=
  ∃ refusals, (∀ c ∈ w.group.connections, c.Agrees) ∧ w.backend.Account refusals []

variable {w : ClientGroup.World}

/-- An action of one client leaves all connections of the group in accord with the backend: the
others are not touched, and the backend is changed by calls on this one alone. -/
theorem Accords.act (accords : w.Accords) (place : Nat) {action : Client.Action}
    (truthful : action.falsifies = false) : (w.step (.act place action)).Accords := by
  obtain ⟨refusals, agree, account⟩ := accords
  cases found : w.group.clients[place]? with
  | none =>
    rw [step_of_none found]
    exact ⟨refusals, agree, account⟩
  | some client =>
    have member : client.connection ∈ w.group.connections :=
      List.mem_map_of_mem (List.mem_of_getElem? found)
    have acts := Client.World.act_acts ⟨client, w.statements, w.backend⟩ truthful
    obtain ⟨refusals', agrees, account'⟩ := acts.accords ⟨agree _ member, account⟩
    rw [step_of_some found]
    refine ⟨refusals', ?_, account'⟩
    intro other member
    rw [put, connections_set] at member
    rcases List.mem_or_eq_of_mem_set member with kept | rfl
    · exact agree other kept
    · exact agrees

/-- Dropping a client leaves the others in accord with the backend. -/
theorem Accords.drop (accords : w.Accords) (place : Nat) : (w.step (.drop place)).Accords := by
  obtain ⟨refusals, agree, account⟩ := accords
  cases found : w.group.clients[place]? with
  | none =>
    rw [drop_of_none found]
    exact ⟨refusals, agree, account⟩
  | some client =>
    rw [drop_of_some found]
    refine ⟨refusals, ?_, account.streamWork (client.connection.drop_streamWork w.backend)⟩
    intro other member
    rw [connections_erase] at member
    exact agree other (List.mem_of_mem_eraseIdx member)

theorem accords_start {count : Nat} {config : Config} {mode : ReadingMode} {group : ClientGroup}
    (opens : Opens count config mode group) : (start group).Accords := by
  obtain ⟨size, reading, connections⟩ := opens.connections
  refine ⟨[], ?_, .fresh⟩
  intro c member
  rw [start, connections] at member
  rw [List.eq_of_mem_replicate member]
  exact Connection.agrees_of_not_inside rfl

/-- The connections of a group accord with their backend throughout a run in which no report is
falsified. -/
theorem Accords.run (accords : w.Accords) (calls : List Call)
    (truthful : ∀ call ∈ calls, call.falsifies = false) : (w.run calls).Accords := by
  induction calls generalizing w with
  | nil => exact accords
  | cons call calls ih =>
    have step : (w.step call).Accords := by
      cases call with
      | act place action => exact accords.act place (truthful _ List.mem_cons_self)
      | drop place => exact accords.drop place
    exact ih step fun call member => truthful call (List.mem_cons_of_mem _ member)

/-- A call that answers is one of a client that there is, and comes to what it may on its
connection. -/
theorem exists_acts {call : Call} {answer : Client.Answer}
    (answered : w.answer? call = some answer) :
    ∃ place client c', w.group.clients[place]? = some client ∧
      client.connection.Acts w.backend answer.error? c' (w.step call).backend ∧
      (w.step call).group.connections = w.group.connections.set place c' := by
  cases call with
  | drop place => cases answered
  | act place action =>
    cases found : w.group.clients[place]? with
    | none =>
      rw [answer?_of_none found] at answered
      cases answered
    | some client =>
      rw [answer?_of_some found] at answered
      have truthful : action.falsifies = false := by
        cases action with
        | request request patience => rfl
        | event event =>
          cases event with
          | queueReport report => cases answered
          | _ => rfl
      have acts := Client.World.act_acts ⟨client, w.statements, w.backend⟩ truthful
      rw [answered] at acts
      rw [step_of_some found]
      exact ⟨place, client, _, found, acts, connections_set _ _ _⟩

end World

end ClientGroup

/-- Only the errors of the backend come from the backend. A call of a client, of a prepared
statement or of a connection that fails with an error of any other kind, at whatever state it is
made, leaves every connection and the backend as they were: nothing was recorded, and no refusal was
met. One that fails with an error of the backend's kind, a batch included, tells the status of a
refusal that was still to be met, and is the one to meet it; the other refusals are left. That is, as
long as nothing falsifies what the backend reports of transactions. -/
theorem ClientGroup.World.errors_have_causes {count : Nat} {config : Config} {mode : ReadingMode}
    {group : ClientGroup} (opens : group.Opens count config mode) (calls : List ClientGroup.Call)
    (call : ClientGroup.Call) {answer : Client.Answer} {error : DriverError}
    (answered : ((start group).run calls).answer? call = some answer)
    (failed : answer.error? = some error) :
    let w := (start group).run calls
    let w' := w.step call
    (error.kind ≠ .backend →
        w'.group.connections = w.group.connections ∧ w'.backend = w.backend) ∧
      ((∀ call ∈ calls, call.falsifies = false) → error.kind = .backend →
        ∃ refused, error.refusal? = some refused ∧ refused.Uses w.backend w'.backend) := by
  intro w w'
  obtain ⟨place, client, c', found, acts, connections⟩ := exists_acts answered
  rw [failed] at acts
  constructor
  · intro kind
    obtain ⟨rfl, backend⟩ := acts.early kind
    exact ⟨connections.trans (connections_set_self found), backend⟩
  · intro truthful kind
    obtain ⟨refused, backend⟩ := error.kind_eq_backend_iff.mp kind
    obtain ⟨refusals, agree, account⟩ := (accords_start opens).run calls truthful
    have member := List.mem_of_getElem? (connection_of_client found)
    exact ⟨refused, backend, acts.uses ⟨agree _ member, account⟩ backend⟩

/-- A batch whose second row is refused, where a query text that cannot be read would have left the
refusal to be met. -/
theorem ClientGroup.World.errors_have_causes_in_batch :
    let group := ClientGroup.separate 1 .default
    let tell := fun event => ClientGroup.Call.act 0 (.event event)
    let calls := [tell (.prepare "INSERT INTO t VALUES (?)"), tell (.inject .commit 0 .aborted),
      tell (.inject .dataStatement 1 .unavailable), tell (.change 0 (.bind (.index 1) (.text "a"))),
      tell (.change 0 .add), tell (.change 0 (.bind (.index 1) (.text "b"))),
      tell (.change 0 .add)]
    let w := (start group).run calls
    (∃ answer error, w.answer? (tell (.prepare "a")) = some answer ∧ answer.error? = some error ∧
        error.kind = .grammar ∧ (w.step (tell (.prepare "a"))).backend = w.backend) ∧
      ∃ answer error refused, w.answer? (tell (.run 0 [])) = some answer ∧
        answer.error? = some error ∧ error.kind = .backend ∧ error.refusal? = some refused ∧
        refused.status = .unavailable ∧ w.backend.unmet.length = 2 ∧
        refused.Uses w.backend (w.step (tell (.run 0 []))).backend := by
  intro group tell calls w
  have opens : group.Opens 1 .default .tolerant := .separate 256
  have truthful : ∀ call ∈ calls, call.falsifies = false := by
    intro call member
    simp only [calls, List.mem_cons, List.not_mem_nil, or_false] at member
    rcases member with rfl | rfl | rfl | rfl | rfl | rfl | rfl <;> rfl
  have misread : ((w.answer? (tell (.prepare "a"))).bind fun answer =>
      answer.error?.map DriverError.kind) = some .grammar := by
    decide +kernel
  have batch : ((w.answer? (tell (.run 0 []))).bind fun answer =>
      answer.error?.map fun error => (error.kind, error.refusal?.map BackendError.status)) =
      some (.backend, some .unavailable) := by
    decide +kernel
  obtain ⟨answer₁, answered₁, failed₁⟩ := Option.bind_eq_some_iff.mp misread
  obtain ⟨error₁, failed₁, kind₁⟩ := Option.map_eq_some_iff.mp failed₁
  obtain ⟨answer₂, answered₂, failed₂⟩ := Option.bind_eq_some_iff.mp batch
  obtain ⟨error₂, failed₂, facts⟩ := Option.map_eq_some_iff.mp failed₂
  obtain ⟨kind₂, status⟩ := Prod.mk.inj facts
  obtain ⟨early, -⟩ := errors_have_causes opens calls _ answered₁ failed₁
  obtain ⟨-, uses⟩ := errors_have_causes opens calls _ answered₂ failed₂
  obtain ⟨refused, found, uses⟩ := uses truthful kind₂
  rw [found] at status
  have unread : error₁.kind ≠ .backend := by
    rw [kind₁]
    decide
  exact ⟨⟨answer₁, error₁, answered₁, failed₁, kind₁, (early unread).2⟩,
    answer₂, error₂, refused, answered₂, failed₂, kind₂, found, Option.some.inj status,
    by decide +kernel, uses⟩

end SqlDriver
