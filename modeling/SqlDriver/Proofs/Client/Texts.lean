import SqlDriver.Proofs.Client.Rows
import SqlDriver.Proofs.Client.Runs
import SqlDriver.Proofs.Query.Caching
import SqlDriver.Proofs.Query.Canonical

/-!
The texts that a client sends. A client reads every text that it is given, through its cache, and
sends what it has read in its canonical form and as what it says it is. So whatever its calls come
to, the journal holds no text but canonical ones, each brought by a request of its kind.
-/

namespace SqlDriver

/-! ## What a call on the connection adds -/

/-- What a call for a query may add to the journal: its text some times, if it is a data statement;
the five entries of a schema statement, if it is one and no transaction is open; or no statement. -/
inductive Connection.Tells (c : Connection) (d : Descriptor) (b : Backend) :
    Connection × Backend → Prop
  | unsent {c' : Connection} {b' : Backend} (adds : b.Adds [] b') :
      Connection.Tells c d b (c', b')
  | data {c' : Connection} {b' : Backend} (count : Nat) (data : d.kind = .data)
      (adds : b.Adds (List.replicate count (.data, d.canonical)) b') :
      Connection.Tells c d b (c', b')
  | schema {b' : Backend} (schema : d.kind = .schema)
      (outside : ∃ settings, c.state = .outside settings)
      (whole : b'.journal =
        b.journal ++ c.config.schemaEntries (Journal.acquired b.journal + 1) d.canonical) :
      Connection.Tells c d b (c, b')

/-- Whatever becomes of the rows of a prepared statement, what the backend is sent is the canonical
text of its query. -/
theorem Connection.executeBound_tells (c : Connection) (b : Backend) (patience : Patience)
    (bindings : Bindings) :
    let out := c.executeBound b patience bindings
    c.Tells bindings.descriptor b (out.2.1, out.2.2.1) := by
  cases kind : bindings.descriptor.kind with
  | data =>
    cases prepared : bindings.rowsToExecute with
    | error error =>
      rw [Connection.executeBound, kind]
      dsimp only
      rw [prepared]
      exact .unsent (.refl b)
    | ok rows =>
      rw [Connection.executeBound_data kind prepared]
      obtain ⟨count, -, -, adds⟩ := c.executeData_sends b patience bindings.descriptor rows
      exact .data count kind adds
  | schema =>
    have bound := c.executeBound_schema b patience kind
    dsimp only at bound ⊢
    generalize c.executeBound b patience bindings = run at bound
    obtain ⟨outcome, c', b', patience'⟩ := run
    obtain ⟨rfl, ⟨-, outside, whole⟩ | ⟨-, adds⟩⟩ := bound
    · exact .schema kind outside whole
    · exact .unsent adds

/-- All that a statement adds to the journal is its own text, with its own kind. -/
theorem Connection.Tells.adds {c : Connection} {d : Descriptor} {b : Backend}
    {out : Connection × Backend} (tells : c.Tells d b out) :
    ∃ texts, b.Adds texts out.2 ∧ ∀ sent ∈ texts, sent = (d.kind, d.canonical) := by
  cases tells with
  | unsent adds => exact ⟨[], adds, fun _ member => nomatch member⟩
  | data count data adds =>
    refine ⟨_, adds, fun sent member => ?_⟩
    rw [data]
    exact List.eq_of_mem_replicate member
  | schema schema outside whole =>
    refine ⟨_, ⟨_, whole, Config.texts_schemaEntries _ _ _⟩, fun sent member => ?_⟩
    rw [schema]
    exact List.mem_singleton.mp member

/-- How an added schema statement got there: without an open transaction, on the next session, which
was got and given back by the call, and with nothing else. -/
def Connection.Isolates (c : Connection) (b : Backend) (out : Connection × Backend) : Prop :=
  ∃ added, out.2.journal = b.journal ++ added ∧
    ∀ session text, .schemaChanged session text ∈ added →
      (∃ settings, c.state = .outside settings) ∧ out.1 = c ∧
        session = Journal.acquired b.journal + 1 ∧ added = c.config.schemaEntries session text

/-- Where no schema statement is added, none is added on a session that is used for anything else.
-/
theorem Backend.Adds.isolates {c c' : Connection} {b b' : Backend}
    {texts : List (QueryKind × String)} (adds : b.Adds texts b')
    (data : ∀ sent ∈ texts, sent.1 = .data) : c.Isolates b (c', b') := by
  obtain ⟨added, whole, rfl⟩ := adds
  refine ⟨added, whole, fun session text member => ?_⟩
  have sent : (.schema, text) ∈ Journal.texts added := List.mem_filterMap.mpr ⟨_, member, rfl⟩
  cases data _ sent

theorem Connection.Tells.isolates {c : Connection} {d : Descriptor} {b : Backend}
    {out : Connection × Backend} (tells : c.Tells d b out) : c.Isolates b out := by
  cases tells with
  | unsent adds => exact adds.isolates fun _ member => nomatch member
  | data count data adds =>
    refine adds.isolates fun sent member => ?_
    rw [List.eq_of_mem_replicate member]
  | schema schema outside whole =>
    refine ⟨_, whole, fun session text member => ?_⟩
    obtain ⟨rfl, rfl⟩ : session = Journal.acquired b.journal + 1 ∧ text = d.canonical := by
      simpa [Config.schemaEntries] using member
    exact ⟨outside, rfl, rfl, rfl⟩

/-! ## What a call of a client adds -/

/-- Executing a text reads it through the cache, and sends nothing at all or what its descriptor
says. -/
theorem Client.execute_tells {mode : ReadingMode} {client : Client}
    (valid : Cache.Valid mode client.cache) (b : Backend) (patience : Patience) (text : String) :
    let out := client.execute b patience text
    Cache.Valid mode out.2.1.cache ∧
      (b.Adds [] out.2.2.1 ∨
        ∃ d : Descriptor, d.raw = text ∧ d.IsRead mode ∧
          client.connection.Tells d b (out.2.1.connection, out.2.2.1)) := by
  have parsed := valid.parse text
  dsimp only
  rw [Client.execute]
  generalize client.cache.parse text = result at parsed
  obtain ⟨answer, cache⟩ := result
  cases answer with
  | error error => exact ⟨parsed.1, Or.inl (.refl b)⟩
  | ok handle =>
    obtain ⟨raw, read⟩ := parsed.2 handle rfl
    have tells := client.connection.executeBound_tells b patience (.empty handle.descriptor)
    dsimp only at tells ⊢
    generalize client.connection.executeBound b patience (.empty handle.descriptor) = run at tells
    exact ⟨parsed.1, Or.inr ⟨handle.descriptor, raw, read, tells⟩⟩

/-- Executing a prepared statement sends what its descriptor says, and leaves the cache alone. -/
theorem PreparedStatement.execute_tells (s : PreparedStatement) (client : Client) (b : Backend)
    (patience : Patience) :
    let out := s.execute client b patience
    out.2.2.1.cache = client.cache ∧
      client.connection.Tells s.bindings.descriptor b
        (out.2.2.1.connection, out.2.2.2.1) := by
  have tells := client.connection.executeBound_tells b patience s.bindings
  dsimp only at tells ⊢
  rw [PreparedStatement.execute]
  generalize client.connection.executeBound b patience s.bindings = run at tells
  obtain ⟨outcome, connection, b', patience'⟩ := run
  cases outcome <;> exact ⟨rfl, tells⟩

/-! ## In every run -/

/-- Whether a descriptor is what reading one of the texts makes of it. -/
structure Descriptor.ReadFrom (mode : ReadingMode) (sources : List String) (d : Descriptor) :
    Prop where
  given : d.raw ∈ sources
  read : d.IsRead mode

theorem Descriptor.ReadFrom.mono {mode : ReadingMode} {sources sources' : List String}
    {d : Descriptor} (from_ : d.ReadFrom mode sources) (more : sources ⊆ sources') :
    d.ReadFrom mode sources' :=
  ⟨more from_.given, from_.read⟩

/-- The cache and the statements of a client hold only what it has read, and its backend was sent
nothing but the canonical texts of it, each as what it is. -/
structure Client.World.Faithful (mode : ReadingMode) (sources : List String) (w : Client.World) :
    Prop where
  cache : Cache.Valid mode w.client.cache
  statements : ∀ s ∈ w.statements, s.bindings.descriptor.ReadFrom mode sources
  texts : ∀ sent ∈ Journal.texts w.backend.journal,
    ∃ d : Descriptor, d.ReadFrom mode sources ∧ sent = (d.kind, d.canonical)

/-- What an event may add to the journal: no statement, or what a call adds for a query that was
read. -/
inductive Client.World.Tells (mode : ReadingMode) (sources : List String)
    (w w' : Client.World) : Prop
  | unsent (adds : w.backend.Adds [] w'.backend)
  | query (d : Descriptor) (read : d.ReadFrom mode sources)
      (tells : w.client.connection.Tells d w.backend (w'.client.connection, w'.backend))

namespace Client.World.Faithful

variable {mode : ReadingMode} {sources : List String} {w w' : Client.World}

/-- The statements that an event leaves are read from the texts so far, as a change to one of them
is none to its query. -/
theorem set_statement (h : w.Faithful mode sources) {place : Nat} {s s' : PreparedStatement}
    (found : w.statements[place]? = some s)
    (same : s'.bindings.descriptor = s.bindings.descriptor) :
    ∀ other ∈ w.statements.set place s', other.bindings.descriptor.ReadFrom mode sources := by
  intro other member
  rcases List.mem_or_eq_of_mem_set member with old | rfl
  · exact h.statements other old
  · rw [same]
    exact h.statements s (List.mem_of_getElem? found)

/-- What an event does: the cache goes on reading in its mode, the statements are read from the
texts so far, and so are the entries that are added. -/
theorem step_tells (h : w.Faithful mode sources) (event : Client.Event) :
    let sources' := sources ++ event.source?.toList
    Cache.Valid mode (w.step event).client.cache ∧
      (∀ s ∈ (w.step event).statements, s.bindings.descriptor.ReadFrom mode sources') ∧
      w.Tells mode sources' (w.step event) := by
  have more : sources ⊆ sources ++ event.source?.toList := List.subset_append_left _ _
  have kept : ∀ s ∈ w.statements,
      s.bindings.descriptor.ReadFrom mode (sources ++ event.source?.toList) :=
    fun s member => (h.statements s member).mono more
  cases event with
  | prepare text =>
    have parsed := h.cache.parse text
    rw [Client.World.step, Client.prepare]
    generalize w.client.cache.parse text = result at parsed
    obtain ⟨answer, cache⟩ := result
    cases answer with
    | error error => exact ⟨parsed.1, kept, .unsent (.refl _)⟩
    | ok handle =>
      refine ⟨parsed.1, fun s member => ?_, .unsent (.refl _)⟩
      obtain ⟨raw, read⟩ := parsed.2 handle rfl
      rcases List.mem_append.mp member with old | new
      · exact kept s old
      · rw [List.mem_singleton.mp new]
        exact ⟨raw ▸ List.mem_append_right sources List.mem_cons_self, read⟩
  | execute text patience =>
    obtain ⟨valid, tells⟩ := Client.execute_tells h.cache w.backend patience text
    refine ⟨valid, kept, ?_⟩
    rcases tells with adds | ⟨d, raw, read, tells⟩
    · exact .unsent adds
    · exact .query d ⟨raw ▸ List.mem_append_right sources List.mem_cons_self, read⟩ tells
  | query text patience =>
    obtain ⟨valid, tells⟩ := Client.execute_tells h.cache w.backend patience text
    refine ⟨valid, kept, ?_⟩
    rcases tells with adds | ⟨d, raw, read, tells⟩
    · exact .unsent adds
    · exact .query d ⟨raw ▸ List.mem_append_right sources List.mem_cons_self, read⟩ tells
  | change place change =>
    rw [Client.World.step]
    cases found : w.statements[place]? with
    | none => exact ⟨h.cache, kept, .unsent (.refl _)⟩
    | some s =>
      refine ⟨h.cache, fun other member => ?_, .unsent (.refl _)⟩
      exact (h.set_statement found (s.descriptor_apply change) other member).mono more
  | run place patience =>
    rw [Client.World.step]
    cases found : w.statements[place]? with
    | none => exact ⟨h.cache, kept, .unsent (.refl _)⟩
    | some s =>
      obtain ⟨cache, tells⟩ := s.execute_tells w.client w.backend patience
      refine ⟨cache ▸ h.cache, fun other member => ?_, .query s.bindings.descriptor ?_ tells⟩
      · exact (h.set_statement found (s.descriptor_execute ..) other member).mono more
      · exact kept s (List.mem_of_getElem? found)
  | begin => exact ⟨h.cache, kept, .unsent (w.client.connection.begins w.backend _).adds⟩
  | commit patience =>
    exact ⟨h.cache, kept, .unsent (w.client.connection.finishes w.backend patience .commit).adds⟩
  | rollback patience =>
    exact ⟨h.cache, kept, .unsent (w.client.connection.finishes w.backend patience .rollback).adds⟩
  | close patience =>
    exact ⟨h.cache, kept, .unsent (w.client.connection.close_adds w.backend patience)⟩
  | clearCache => exact ⟨h.cache.clear, kept, .unsent (.refl _)⟩
  | control request textless patience =>
    exact ⟨h.cache, kept, .unsent (w.client.connection.perform_control w.backend patience textless)⟩
  | shared text => exact ⟨(h.cache.parse text).1, kept, .unsent (.refl _)⟩
  | stir stir => exact ⟨h.cache, kept, .unsent (.of_streamWork (.stir w.backend stir))⟩
  | inject call skip status => exact ⟨h.cache, kept, .unsent (.refl _)⟩
  | setResultSets count => exact ⟨h.cache, kept, .unsent (.refl _)⟩
  | queueReport report => exact ⟨h.cache, kept, .unsent (.refl _)⟩

/-- Every event keeps a client faithful to the texts that it was given. -/
theorem step (h : w.Faithful mode sources) (event : Client.Event) :
    (w.step event).Faithful mode (sources ++ event.source?.toList) := by
  obtain ⟨cache, statements, tells⟩ := h.step_tells event
  refine ⟨cache, statements, fun sent member => ?_⟩
  have old : sent ∈ Journal.texts w.backend.journal →
      ∃ d : Descriptor, d.ReadFrom mode (sources ++ event.source?.toList) ∧
        sent = (d.kind, d.canonical) := by
    intro before
    obtain ⟨d, read, same⟩ := h.texts sent before
    exact ⟨d, read.mono (List.subset_append_left _ _), same⟩
  cases tells with
  | unsent adds =>
    rw [adds.texts_eq, List.append_nil] at member
    exact old member
  | query d read tells =>
    obtain ⟨texts, adds, new⟩ := tells.adds
    rw [adds.texts_eq] at member
    rcases List.mem_append.mp member with before | after
    · exact old before
    · exact ⟨d, read, new sent after⟩

end Client.World.Faithful

/-- Throughout every run a client is faithful to its texts: cache, prepared statements and journal
hold nothing but what is read from them. -/
theorem Client.World.faithful_run (config : Config) (capacity : Nat) (mode : ReadingMode)
    (events : List Client.Event) :
    (Client.World.run config capacity mode events).Faithful mode (Client.sources events) := by
  refine Client.World.run_induction (P := fun events w => w.Faithful mode (Client.sources events))
    ⟨.empty capacity mode, (fun _ member => nomatch member), (fun _ member => nomatch member)⟩
    ?_ events
  intro events w event h
  rw [Client.sources_concat]
  exact h.step event

/-- A client sends nothing but canonical texts, as what they are. Whatever its calls come to, each
text in the journal is what a text that the client was given was rewritten to; it is read in the
same mode, has no parameters, is its own canonical text, and says that it is what it was sent as.
And when an event adds a schema statement, then no transaction is open, the connection stays as it
is, and all that is added is the one call: a new session is got, the statement is asked for and
carried out on it, and it is given back. -/
theorem Client.World.texts_canonical (config : Config) (capacity : Nat) (mode : ReadingMode)
    (events : List Client.Event) :
    let w := Client.World.run config capacity mode events
    (∀ kind text, (kind, text) ∈ Journal.texts w.backend.journal →
        (∃ source ∈ Client.sources events, ∃ d, Descriptor.parse mode source = .ok d ∧
          d.canonical = text ∧ d.kind = kind) ∧
        ∃ again, Descriptor.parse mode text = .ok again ∧ again.parameters = [] ∧
          again.canonical = text ∧ again.kind = kind) ∧
      ∀ event, ∃ added, (w.step event).backend.journal = w.backend.journal ++ added ∧
        ∀ session text, .schemaChanged session text ∈ added →
          (∃ settings, w.client.connection.state = .outside settings) ∧
            (w.step event).client.connection = w.client.connection ∧
            session = Journal.acquired w.backend.journal + 1 ∧
            added = [.requested .acquire none w.client.connection.config.sessionTimeout,
              .acquired session,
              .requested .schemaStatement session w.client.connection.config.queryTimeout,
              .schemaChanged session text, .released session] := by
  intro w
  have faithful : w.Faithful mode (Client.sources events) := Client.World.faithful_run ..
  refine ⟨fun kind text sent => ?_, fun event => ?_⟩
  · obtain ⟨d, read, same⟩ := faithful.texts _ sent
    cases same
    exact ⟨⟨d.raw, read.given, d, read.read, rfl, rfl⟩, _, Descriptor.parse_canonical read.read,
      rfl, rfl, rfl⟩
  · obtain ⟨-, -, tells⟩ := faithful.step_tells event
    cases tells with
    | unsent adds => exact adds.isolates (c := w.client.connection) fun _ member => nomatch member
    | query d read tells => exact tells.isolates

/-- A table is created, and an insertion is refused and tried again at the closed gate, where it is
given up. -/
theorem Client.World.texts_canonical_after_failures :
    let events : List Client.Event := [.prepare "INSERT INTO t VALUES (?, '?')",
      .execute "create table t (a Text) -- ?" [], .change 0 (.bind (.index 1) (.text "a")),
      .inject .dataStatement 0 .unavailable, .run 0 [], .setResultSets 2, .stir .closeGate,
      .run 0 [], .execute "DROP TABLE ?" []]
    let w := Client.World.run .default 1 .strict events
    Journal.texts w.backend.journal = [(.schema, "create table t (a Text) -- ?"),
        (.data, "INSERT INTO t VALUES ($jp1, '?')")] ∧
      (∃ source ∈ Client.sources events, ∃ d, Descriptor.parse .strict source = .ok d ∧
        d.canonical = "INSERT INTO t VALUES ($jp1, '?')" ∧ d.kind = .data) ∧
      (∃ again, Descriptor.parse .strict "INSERT INTO t VALUES ($jp1, '?')" = .ok again ∧
        again.parameters = [] ∧ again.kind = .data) ∧
      (w.step (.execute "DROP TABLE t" [])).backend.journal =
        w.backend.journal ++ Config.default.schemaEntries 4 "DROP TABLE t" := by
  intro events w
  have texts : Journal.texts w.backend.journal = [(.schema, "create table t (a Text) -- ?"),
      (.data, "INSERT INTO t VALUES ($jp1, '?')")] := by
    decide +kernel
  obtain ⟨canonical, isolated⟩ := Client.World.texts_canonical .default 1 .strict events
  obtain ⟨source, again, read, parameters, -, kind⟩ :=
    canonical .data "INSERT INTO t VALUES ($jp1, '?')" (by rw [texts]; simp)
  obtain ⟨added, whole, schema⟩ := isolated (.execute "DROP TABLE t" [])
  have config : w.client.connection.config = .default := by decide +kernel
  have dropped : Entry.schemaChanged 4 "DROP TABLE t" ∈ added := by
    have after : Entry.schemaChanged 4 "DROP TABLE t" ∈
        (w.step (.execute "DROP TABLE t" [])).backend.journal := by
      decide +kernel
    have before : Entry.schemaChanged 4 "DROP TABLE t" ∉ w.backend.journal := by decide +kernel
    rw [whole] at after
    exact (List.mem_append.mp after).resolve_left before
  obtain ⟨-, -, -, entries⟩ := schema 4 "DROP TABLE t" dropped
  refine ⟨texts, source, ⟨again, read, parameters, kind⟩, ?_⟩
  rw [whole, entries, config]
  rfl

end SqlDriver
