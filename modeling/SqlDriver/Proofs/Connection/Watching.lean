import SqlDriver.Proofs.Connection.Cancellation
import SqlDriver.Proofs.Stream.Watching

/-!
Taking in a stream, watched. A call that takes in the stream of a statement either gets all of it or
its first error. To say what becomes of the items in between and of the guard, the call is made on a
watched backend, which comes to the same and keeps what was noted: every item was pulled, then the
end was met and the stream dropped, and after an error the guard was dropped last, before the call
answered.
-/

namespace SqlDriver

/-! ## Calls on a watched backend -/

/-- A backend, and everything that was noted on it. -/
abbrev Backend.Watched := SqlDriver.Watched Backend Reply Guard

/-- Whatever happens while a call is held up happens at the stage that is watched. -/
instance {σ : Type} [Backstage σ] : Backstage (SqlDriver.Watched σ Reply Guard) where
  leave left w := { w with stage := Backstage.leave left w.stage }
  stir stirs w := { w with stage := Backstage.stir stirs w.stage }

/-- A watched backend is in step with the backend also while a call is held up, so a call comes to
the same on both. -/
theorem Backend.Watched.backstage :
    Backstage.InStep fun (w : Backend.Watched) (b : Backend) => w.stage = b where
  toInStep := Watched.inStep
  leave left _ _ same := congrArg (Backstage.leave left) same
  stir stirs _ _ same := congrArg (Backstage.stir stirs) same

/-! ## What is seen -/

/-- What is noted while items are taken in, by how that came out. -/
inductive Collected.Noted (guard : Guard) (items : List Reply) :
    Collected → List (Notice Reply Guard) → Prop
  | complete (contents : StreamContents) (kept : Option Guard) :
      Collected.Noted guard items (.complete contents kept)
        (items.map .pulled ++ [.ended, .streamDropped])
  | failed (error : BackendError) :
      Collected.Noted guard items (.failed error)
        (items.map .pulled ++ [.ended, .streamDropped, .guardDropped guard])
  | cancelled (front : List Reply) (begins : front <+: items) :
      Collected.Noted guard items .cancelled (front.map .pulled)

/-- Items that were pulled before are noted before, and count among all the items. -/
theorem Collected.Noted.after {guard : Guard} {items : List Reply} {collected : Collected}
    {notices : List (Notice Reply Guard)} (noted : Collected.Noted guard items collected notices)
    (front : List Reply) :
    Collected.Noted guard (front ++ items) collected (front.map .pulled ++ notices) := by
  cases noted with
  | complete contents kept =>
    rw [← List.append_assoc, ← List.map_append]
    exact .complete contents kept
  | failed error =>
    rw [← List.append_assoc, ← List.map_append]
    exact .failed error
  | cancelled front' begins =>
    rw [← List.map_append]
    exact .cancelled _ ((List.prefix_append_right_inj front).mpr begins)

section

variable {guard : Guard} {script : Script Mark Reply} {w : Backend.Watched} {patience : Patience}
  {out : Collected × Backend.Watched × Patience}

/-- After an error everything that is left is pulled, and the guard is dropped at the end, after the
stream. If the call is given up, what was pulled until then is noted and no more. -/
theorem Relay.Failing.noted {error : BackendError}
    (failing : Relay.Failing guard error script w patience out) :
    ∃ notices, out.2.1.notices = w.notices ++ notices ∧
      Collected.Noted guard (Script.items script) out.1 notices := by
  induction failing with
  | @ended script w w' drained patience =>
    cases Script.pullsOut_eq drained with
    | ended played =>
      have items := played.items
      rw [show Script.items ([] : Script Mark Reply) = [] from rfl, List.append_nil] at items
      rw [items]
      refine ⟨_, ?_, .failed error⟩
      simp only [dropGuard, Watched.note_eq, played.noted, List.append_assoc]
      rfl
  | @givenUp script rest w w' drained =>
    cases Script.pullsOut_eq drained with
    | held played held =>
      rw [played.items]
      exact ⟨_, played.noted, .cancelled _ (List.prefix_append _ _)⟩
  | @resumed script rest w w' stirs patience out drained later ih =>
    cases Script.pullsOut_eq drained with
    | held played held =>
      obtain ⟨notices, added, noted⟩ := ih
      rw [played.items]
      refine ⟨_, ?_, noted.after _⟩
      rw [added, ← List.append_assoc]
      exact congrArg (· ++ notices) played.noted

/-- What one pull of a stream takes is noted, and is the first of the stream's items. -/
theorem Script.noted_of_item {item : Reply} {rest : Script Mark Reply} {w' : Backend.Watched}
    (polled : Script.poll script w = (.item item, rest, w')) :
    Script.items script = [item] ++ Script.items rest ∧
      w'.notices = w.notices ++ [item].map .pulled := by
  cases Script.pulls_eq polled with
  | item played =>
    refine ⟨played.items, ?_⟩
    rw [Watched.note_eq, played.noted, List.map_nil, List.append_nil]
    rfl

/-- Whatever a call takes in is noted in order, with the end and what is dropped then. The items
that are left when the call is given up are pulled in the background, and not noted here. -/
theorem Relay.Collecting.noted {contents : StreamContents}
    (collecting : Relay.Collecting guard script contents w patience out) :
    ∃ notices, out.2.1.notices = w.notices ++ notices ∧
      Collected.Noted guard (Script.items script) out.1 notices := by
  induction collecting with
  | event polled later ih =>
    obtain ⟨items, first⟩ := Script.noted_of_item polled
    obtain ⟨notices, added, noted⟩ := ih
    rw [items]
    refine ⟨_, ?_, noted.after _⟩
    rw [added, first, List.append_assoc]
  | error polled failing contents =>
    obtain ⟨items, first⟩ := Script.noted_of_item polled
    obtain ⟨notices, added, noted⟩ := failing.noted
    rw [items]
    refine ⟨_, ?_, noted.after _⟩
    rw [added, first, List.append_assoc]
  | @ended script rest w w' polled contents patience =>
    cases Script.pulls_eq polled with
    | ended played =>
      rw [played.items]
      refine ⟨_, ?_, .complete contents (some guard)⟩
      have noted := played.noted
      rw [List.map_nil, List.append_nil] at noted
      simp only [Backstage.leave, Watched.note_eq, noted, List.append_assoc]
      rfl
  | @givenUp script rest w w' polled contents =>
    cases Script.pulls_eq polled with
    | stalled played held =>
      rw [played.items]
      exact ⟨_, played.noted, .cancelled [] List.nil_prefix⟩
  | @resumed script rest contents w w' stirs patience out polled later ih =>
    cases Script.pulls_eq polled with
    | stalled played held =>
      obtain ⟨notices, added, noted⟩ := ih
      rw [played.items]
      refine ⟨_, ?_, noted⟩
      rw [added]
      have before := played.noted
      rw [List.map_nil, List.append_nil] at before
      exact congrArg (· ++ notices) before

end

/-- A call on a watched backend comes to what it comes to on the backend. -/
theorem Relay.collect_watched (script : Script Mark Reply) (guard : Guard)
    (contents : StreamContents) (w : Backend.Watched) (patience : Patience) :
    let watched := Relay.collect ⟨some script, some guard, false, false⟩ contents w patience
    (watched.1, watched.2.1.stage, watched.2.2) =
      Relay.collect ⟨some script, some guard, false, false⟩ contents w.stage patience := by
  have same := Backend.Watched.backstage.collect script guard contents patience
    (rfl : w.stage = w.stage)
  generalize Relay.collect _ contents w patience = watched at same ⊢
  generalize Relay.collect _ contents w.stage patience = plain at same ⊢
  obtain ⟨collected, ⟨same, left⟩⟩ := same
  exact congrArg (fun b => (collected, b, left)) same

/-! ## What comes out -/

/-- The transaction that an event reports. -/
def ResultEvent.transaction? : ResultEvent → Option TransactionId
  | .transaction id => some id
  | .resultSet _ => none

/-- The result set that an event hands out. -/
def ResultEvent.resultSet? : ResultEvent → Option ResultSet
  | .transaction _ => none
  | .resultSet set => some set

/-- What a stream without an error holds: all result sets in order, and the transaction that was
reported last. -/
def StreamContents.ofEvents (events : List ResultEvent) : StreamContents :=
  ⟨events.filterMap ResultEvent.resultSet?, (events.filterMap ResultEvent.transaction?).getLast?⟩

/-- Events are added in order: result sets to those before, and of the transactions the last one
stays. -/
theorem StreamContents.foldl_add (events : List ResultEvent) (contents : StreamContents) :
    events.foldl StreamContents.add contents =
      ⟨contents.resultSets ++ events.filterMap ResultEvent.resultSet?,
        (events.filterMap ResultEvent.transaction?).getLast?.or contents.transaction⟩ := by
  induction events generalizing contents with
  | nil => simp
  | cons event events ih =>
    rw [List.foldl_cons, ih]
    cases event with
    | resultSet set =>
      have sets : (ResultEvent.resultSet set :: events).filterMap ResultEvent.resultSet? =
          set :: events.filterMap ResultEvent.resultSet? := rfl
      rw [sets, List.append_cons]
      rfl
    | transaction id =>
      have reported : (ResultEvent.transaction id :: events).filterMap ResultEvent.transaction? =
          id :: events.filterMap ResultEvent.transaction? := rfl
      rw [reported, List.getLast?_cons]
      cases (events.filterMap ResultEvent.transaction?).getLast? <;> rfl

theorem StreamContents.foldl_empty (events : List ResultEvent) :
    events.foldl StreamContents.add .empty = .ofEvents events := by
  rw [StreamContents.foldl_add, StreamContents.empty, List.nil_append, Option.or_none]
  rfl

/-- What items come to that are taken in to the end or the first error. -/
def Collected.ofItems (guard : Guard) (contents : StreamContents) : List Reply → Collected
  | [] => .complete contents (some guard)
  | .ok event :: items => Collected.ofItems guard (contents.add event) items
  | .error error :: _ => .failed error

/-- Items without an error come to all their events. -/
theorem Collected.ofItems_events (guard : Guard) (contents : StreamContents)
    (events : List ResultEvent) :
    Collected.ofItems guard contents (events.map .ok) =
      .complete (events.foldl .add contents) (some guard) := by
  induction events generalizing contents with
  | nil => rfl
  | cons event events ih => exact ih (contents.add event)

/-- Items with an error come to the first one, whatever the events before it were. -/
theorem Collected.ofItems_error (guard : Guard) (contents : StreamContents)
    (events : List ResultEvent) (error : BackendError) (others : List Reply) :
    Collected.ofItems guard contents (events.map .ok ++ .error error :: others) =
      .failed error := by
  induction events generalizing contents with
  | nil => rfl
  | cons event events ih => exact ih (contents.add event)

/-- After an error a call fails with that error, once the guard is dropped, or it is given up.
Nothing that is pulled later replaces the error. -/
theorem Relay.Failing.fails {guard : Guard} {error : BackendError} {script : Script Mark Reply}
    {b : Backend} {patience : Patience} {out : Collected × Backend × Patience}
    (failing : Relay.Failing guard error script b patience out) :
    out.1 = .cancelled ∨ out.1 = .failed error ∧ ∃ b' : Backend, out.2.1 = b'.dropKept guard := by
  induction failing with
  | ended drained patience => exact Or.inr ⟨rfl, _, rfl⟩
  | givenUp drained => exact Or.inl rfl
  | resumed drained later ih => exact ih

/-- A call that takes in a running stream comes to what its items come to, or it is given up. When
the pulls are held makes no difference to the first of these. -/
theorem Relay.Collecting.ofItems {guard : Guard} {script : Script Mark Reply}
    {contents : StreamContents} {b : Backend} {patience : Patience}
    {out : Collected × Backend × Patience}
    (collecting : Relay.Collecting guard script contents b patience out) :
    out.1 = .cancelled ∨ out.1 = Collected.ofItems guard contents (Script.items script) ∧
      ∀ error, out.1 = .failed error → ∃ b' : Backend, out.2.1 = b'.dropKept guard := by
  have items : ∀ {script : Script Mark Reply} {b : Backend} {polled rest b'},
      Script.poll script b = (polled, rest, b') →
        Script.items script = polled.item?.toList ++ Script.items rest := by
    intro script b polled rest b' pulled
    have items := Script.items_poll script b
    rwa [pulled] at items
  induction collecting with
  | event polled later ih =>
    rw [items polled]
    exact ih
  | error polled failing contents =>
    rw [items polled]
    exact failing.fails.imp id fun ⟨failed, dropped⟩ => ⟨failed, fun _ _ => dropped⟩
  | ended polled contents patience =>
    rw [Script.items_of_ended polled]
    refine Or.inr ⟨rfl, ?_⟩
    intro error failed
    cases failed
  | givenUp polled contents => exact Or.inl rfl
  | resumed polled later ih =>
    rw [items polled]
    exact ih

theorem Relay.collect_ofItems (script : Script Mark Reply) (guard : Guard)
    (contents : StreamContents) (b : Backend) (patience : Patience) :
    let run := Relay.collect ⟨some script, some guard, false, false⟩ contents b patience
    run.1 = .cancelled ∨ run.1 = Collected.ofItems guard contents (Script.items script) ∧
      ∀ error, run.1 = .failed error → ∃ b' : Backend, run.2.1 = b'.dropKept guard :=
  (Relay.collecting script guard contents b patience).ofItems

/-- Where everything was taken in, the guard came back with it. -/
theorem Collected.ofItems_complete {guard : Guard} {contents contents' : StreamContents}
    {items : List Reply} {kept : Option Guard}
    (complete : Collected.ofItems guard contents items = .complete contents' kept) :
    kept = some guard := by
  induction items generalizing contents with
  | nil =>
    cases complete
    rfl
  | cons item items ih =>
    cases item with
    | ok event => exact ih complete
    | error error => cases complete

/-- The error that a call fails with is one of the stream's items. -/
theorem Collected.mem_of_ofItems {guard : Guard} {contents : StreamContents} {items : List Reply}
    {error : BackendError} (failed : Collected.ofItems guard contents items = .failed error) :
    .error error ∈ items := by
  induction items generalizing contents with
  | nil => cases failed
  | cons item items ih =>
    cases item with
    | ok event => exact List.mem_cons_of_mem _ (ih failed)
    | error other =>
      cases failed
      exact List.mem_cons_self

/-! ## The lease of a statement's own session -/

/-- The answer to a call that has taken in a stream. -/
def Collected.answer : Collected → Outcome StreamContents
  | .complete contents _ => .done contents
  | .failed error => .failed (.backend error)
  | .cancelled => .cancelled

/-- On a session that is held, the answer is what was collected. -/
theorem ResultStream.collect_eq (stream : ResultStream) (b : Backend) (patience : Patience) :
    let run := (Relay.wrap stream.script (.sign stream.number)).collect .empty b patience
    stream.collect b patience = (run.1.answer, run.2) := by
  rw [ResultStream.collect]
  generalize (Relay.wrap stream.script (.sign stream.number)).collect .empty b patience = run
  rcases run with ⟨collected, b', left⟩
  cases collected <;> rfl

/-- The session comes back with everything that is taken in, as the relay hands the guard back. -/
theorem ResultStream.collectWith_eq (stream : ResultStream) (session : Session) (b : Backend)
    (patience : Patience) :
    let run := (Relay.wrap stream.script (.lease session)).collect .empty b patience
    stream.collectWith session b patience = (run.1.answer.map (·, session), run.2) := by
  have comes := Relay.collect_ofItems stream.script (.lease session) .empty b patience
  rw [ResultStream.collectWith, Relay.wrap]
  generalize Relay.collect _ _ (_ : Backend) _ = run at comes ⊢
  rcases run with ⟨collected, b', left⟩
  cases collected with
  | complete contents kept =>
    rcases comes with cancelled | ⟨complete, -⟩
    · cases cancelled
    · rw [Collected.ofItems_complete complete.symm]
      rfl
  | failed error => rfl
  | cancelled => rfl

/-- A change to what a stream reports brings no error. -/
theorem Report.mem_of_apply {script : Script Mark Reply} {report : Option Report}
    {error : BackendError} (member : .error error ∈ Script.items (Report.apply script report)) :
    .error error ∈ Script.items script := by
  cases report with
  | none => exact member
  | some report =>
    cases report with
    | withheld =>
      rcases List.mem_filterMap.mp member with ⟨cue, kept, same⟩
      exact List.mem_filterMap.mpr ⟨cue, (List.mem_filter.mp kept).1, same⟩
    | replaced transaction =>
      rcases List.mem_filterMap.mp member with ⟨cue', changed, same⟩
      rcases List.mem_map.mp changed with ⟨cue, there, rfl⟩
      refine List.mem_filterMap.mpr ⟨cue, there, ?_⟩
      cases cue with
      | mark mark => cases same
      | yield item =>
        cases item with
        | error other => exact same
        | ok event => cases event <;> cases same
    | added transaction =>
      rw [Report.apply, Script.items_append] at member
      rcases List.mem_append.mp member with member | member
      · exact member
      · cases List.mem_singleton.mp member

/-- Neither a statement nor its stream is refused for a lost lease: what may be set for them are
other refusals. -/
theorem Session.runData_refusal (s : Session) (b : Backend) (text : String)
    (control : TransactionControl) (parameters : NamedValues) (deadline : Duration) :
    match (s.runData b text control parameters deadline).1 with
    | .error error => error.refusal ≠ .leaseLost
    | .ok stream => ∀ error, .error error ∈ Script.items stream.script →
      error.refusal ≠ .leaseLost := by
  have requested := b.requests .dataStatement (some s.number) deadline
  rw [Session.runData]
  generalize b.request .dataStatement (some s.number) deadline = result at requested
  cases requested with
  | refused status left consulted =>
    intro same
    cases same
  | granted left consulted =>
    simp only
    cases opens : s.opens _ control with
    | error error =>
      cases control with
      | start mode commit => cases commit <;> cases opens
      | resume transaction commit =>
        rw [Session.opens, Session.check] at opens
        split at opens
        · rename_i failed
          split at failed
          · cases failed
          · cases failed
            cases opens
            intro same
            cases same
        · cases opens
    | ok opened =>
      intro error member
      have stated := Report.mem_of_apply member
      rw [Mark.items_stream] at stated
      rcases List.mem_append.mp stated with event | failure
      · rcases List.mem_map.mp event with ⟨event, -, same⟩
        cases same
      · rcases Option.map_eq_some_iff.mp (Option.mem_toList.mp failure) with ⟨status, -, same⟩
        cases same
        intro lost
        cases lost

/-- A statement on a session of its own does not lose its lease, since the relay that is taken in to
its end hands its guard back. -/
theorem Config.runData_ne_leaseLost (config : Config) (b : Backend) (patience : Patience)
    (text : String) (control : TransactionControl) (parameters : NamedValues) :
    (config.runData b patience text control parameters).1 ≠
      .failed (.backend ⟨.internal, .leaseLost⟩) := by
  have acquires := b.acquires config.sessionTimeout
  rw [Config.runData]
  generalize b.acquire config.sessionTimeout = acquired at acquires
  cases acquires with
  | refused error requested =>
    cases requested with
    | refused status left consulted =>
      intro same
      cases same
  | @granted b' requested =>
    have refusals := b'.nextSession.runData_refusal b'.serve text control parameters
      config.queryTimeout
    simp only
    generalize b'.nextSession.runData b'.serve text control parameters _ = result at refusals ⊢
    rcases result with ⟨answer, session, b''⟩
    cases answer with
    | error error =>
      intro same
      cases same
      exact refusals rfl
    | ok stream =>
      have comes := Relay.collect_ofItems stream.script (.lease session) .empty b'' patience
      simp only
      rw [stream.collectWith_eq, Relay.wrap]
      generalize Relay.collect _ _ (_ : Backend) _ = run at comes
      rcases run with ⟨collected, b₁, left⟩
      cases collected with
      | complete contents kept =>
        intro same
        cases same
      | cancelled =>
        intro same
        cases same
      | failed error =>
        rcases comes with cancelled | ⟨failed, -⟩
        · cases cancelled
        · intro same
          cases same
          exact refusals _ (Collected.mem_of_ofItems failed.symm) rfl

/-! ## Everything or the first error -/

/-- A relay's stream that is taken in whole. -/
theorem Relay.collect_of_events {script : Script Mark Reply} {events : List ResultEvent}
    (all : Script.items script = events.map .ok) (guard : Guard) (b : Backend)
    (patience : Patience) :
    let run := (Relay.wrap script guard).collect .empty b patience
    run.1 = .cancelled ∨ run.1 = .complete (.ofEvents events) (some guard) := by
  have comes := Relay.collect_ofItems script guard .empty b patience
  rw [all, Collected.ofItems_events, StreamContents.foldl_empty] at comes
  exact comes.imp id And.left

/-- A relay's stream up to its first error. -/
theorem Relay.collect_of_error {script : Script Mark Reply} {events : List ResultEvent}
    {error : BackendError} {others : List Reply}
    (first : Script.items script = events.map .ok ++ .error error :: others) (guard : Guard)
    (b : Backend) (patience : Patience) :
    let run := (Relay.wrap script guard).collect .empty b patience
    run.1 = .cancelled ∨ run.1 = .failed error ∧ ∃ b' : Backend, run.2.1 = b'.dropKept guard := by
  have comes := Relay.collect_ofItems script guard .empty b patience
  rw [first, Collected.ofItems_error] at comes
  exact comes.imp id fun ⟨failed, dropped⟩ => ⟨failed, dropped error failed⟩

/-- Taking in a stream with a guard gets all of it or its first error. Watched or not, it comes to
the same; while the gate is open it is not given up. A stream without an error hands over all its
result sets in order and the transaction reported last, and the guard comes back. After an error the
call pulls whatever is left, events and errors alike, to the end; the stream is dropped, then the
guard, and then the first error is the answer. A statement on the session that is held answers with
just this, and so does one on a session of its own, which comes back with what was taken in: it is
never found to be lost. -/
theorem Relay.collect_all_or_first_error (script : Script Mark Reply) (b : Backend)
    (patience : Patience) :
    (∀ guard,
      let run := (Relay.wrap script guard).collect .empty b patience
      let watched := (Relay.wrap script guard).collect .empty (⟨b, []⟩ : Backend.Watched) patience
      (watched.1, watched.2.1.stage, watched.2.2) = run ∧
      (b.gateOpen = true → run.1 ≠ .cancelled) ∧
      (run.1 ≠ .cancelled → ∀ events : List ResultEvent, Script.items script = events.map .ok →
        run.1 = .complete (.ofEvents events) (some guard) ∧
        watched.2.1.notices =
          (Script.items script).map .pulled ++ [.ended, .streamDropped]) ∧
      (run.1 ≠ .cancelled → ∀ (events : List ResultEvent) (error : BackendError)
          (others : List Reply),
        Script.items script = events.map .ok ++ .error error :: others →
        run.1 = .failed error ∧ (∃ b' : Backend, run.2.1 = b'.dropKept guard) ∧
        watched.2.1.notices =
          (Script.items script).map .pulled ++ [.ended, .streamDropped, .guardDropped guard])) ∧
    (∀ number,
      let run := (Relay.wrap script (.sign number)).collect .empty b patience
      (ResultStream.mk number script).collect b patience = (run.1.answer, run.2)) ∧
    (∀ number session,
      let run := (Relay.wrap script (.lease session)).collect .empty b patience
      (ResultStream.mk number script).collectWith session b patience =
        (run.1.answer.map (·, session), run.2)) ∧
    ∀ (config : Config) (text : String) (control : TransactionControl)
      (parameters : NamedValues),
      (config.runData b patience text control parameters).1 ≠
        .failed (.backend ⟨.internal, .leaseLost⟩) := by
  refine ⟨?_, ?_, ?_, ?_⟩
  · intro guard run watched
    have same : (watched.1, watched.2.1.stage, watched.2.2) = run :=
      Relay.collect_watched script guard .empty ⟨b, []⟩ patience
    have collecting : Relay.Collecting guard script .empty (⟨b, []⟩ : Backend.Watched) patience
      watched := Relay.collecting script guard .empty _ patience
    obtain ⟨notices, added, noted⟩ := collecting.noted
    have outcome : watched.1 = run.1 := congrArg Prod.fst same
    rw [outcome] at noted
    refine ⟨same, ?_, ?_, ?_⟩
    · intro gate
      exact (Relay.collecting script guard .empty b patience).of_gateOpen gate
    · intro kept events all
      have complete : run.1 = .complete (.ofEvents events) (some guard) :=
        (Relay.collect_of_events all guard b patience).resolve_left kept
      rw [complete] at noted
      cases noted
      exact ⟨complete, added⟩
    · intro kept events error others first
      have fails := (Relay.collect_of_error first guard b patience).resolve_left kept
      have failed : run.1 = .failed error := fails.1
      rw [failed] at noted
      cases noted
      exact ⟨failed, fails.2, added⟩
  · intro number
    exact ResultStream.collect_eq ⟨number, script⟩ b patience
  · intro number session
    exact ResultStream.collectWith_eq ⟨number, script⟩ session b patience
  · intro config text control parameters
    exact config.runData_ne_leaseLost b patience text control parameters

/-- A transaction, an error, and a result and another error behind the gate. -/
theorem Relay.collect_first_of_two_errors :
    let script : Script Mark Reply := [.yield (.ok (.transaction (.issued 0))),
      .yield (.error ⟨.aborted, .injectedStream⟩), .mark .gate,
      .yield (.ok (.resultSet .empty)), .yield (.error ⟨.timeout, .injectedStream⟩)]
    let lease : Guard := .lease ⟨1, none⟩
    ((Relay.wrap script lease).collect .empty Backend.fresh []).1 =
        .failed ⟨.aborted, .injectedStream⟩ ∧
      ((Relay.wrap script lease).collect .empty (⟨.fresh, []⟩ : Backend.Watched) []).2.1.notices =
        (Script.items script).map .pulled ++ [.ended, .streamDropped, .guardDropped lease] ∧
      ((Relay.wrap (script.take 1) lease).collect .empty Backend.fresh []).1 =
        .complete ⟨[], some (.issued 0)⟩ (some lease) := by
  intro script lease
  have failing := (Relay.collect_all_or_first_error script .fresh []).1 lease
  have whole := (Relay.collect_all_or_first_error (script.take 1) .fresh []).1 lease
  rcases failing with ⟨-, kept, -, fails⟩
  rcases whole with ⟨-, kept', completes, -⟩
  rcases fails (kept rfl) [.transaction (.issued 0)] _ _ rfl with ⟨failed, -, notices⟩
  rcases completes (kept' rfl) [.transaction (.issued 0)] rfl with ⟨complete, -⟩
  exact ⟨failed, notices, complete⟩

end SqlDriver
