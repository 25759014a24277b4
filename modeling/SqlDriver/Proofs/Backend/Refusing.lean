import SqlDriver.Proofs.Backend.Account
import SqlDriver.Proofs.Backend.Rosters
import SqlDriver.Proofs.Backend.Schedules

/-!
Which calls are refused because they were set to be. Each kind of request has refusals of its own,
and in every run they come about as they are due, whatever is asked and set for the other kinds and
on whichever session. A call is recorded with its deadline whether it is refused or not, and one that
is not carried out changes nothing else.
-/

namespace SqlDriver

/-! ## How calls meet the refusals -/

/-- The status of an error that was set beforehand. -/
def BackendError.injected? : BackendError → Option Status
  | ⟨status, .injected _⟩ => some status
  | _ => none

/-- The status that a request was refused with because that was set. -/
def refusalOf {α : Type} : Except BackendError α → Option Status
  | .error error => error.injected?
  | .ok _ => none

/-- The status of the error that a result stream will hand out. -/
def ResultStream.failure? (stream : ResultStream) : Option Status :=
  (Script.items stream.script).findSome? fun
    | .error error => some error.status
    | .ok _ => none

/-- How the stream of a statement that was accepted has met the refusals that are set for the ends
of streams. -/
def Roster.tails : Except BackendError Roster.Answer → List (Option Status)
  | .ok (.stream stream) => [stream.failure?]
  | _ => []

/-- How a call with an answer has met the refusals of a kind. -/
def Roster.Call.meets (call : Roster.Call) (answer : Except BackendError Roster.Answer)
    (kind : CallKind) : List (Option Status) :=
  (if kind = call.kind then [refusalOf answer] else []) ++
    if kind = .streamTail then Roster.tails answer else []

/-- What an event has to do with the refusals of a kind. -/
def Roster.turns (r : Roster) (kind : CallKind) : Roster.Event → List Injection.Turn
  | .call call deadline =>
    match r.call deadline call with
    | some (answer, _) => (call.meets answer kind).map .met
    | none => []
  | .inject call skip status => if kind = call then [.ordered skip status] else []
  | _ => []

/-- What events have to do with the refusals of a kind, in order. -/
def Roster.history (r : Roster) (kind : CallKind) : List Roster.Event → List Injection.Turn
  | [] => []
  | event :: events => r.turns kind event ++ Roster.history (r.step event) kind events

/-- One more event adds its turns to the history of a kind. -/
theorem Roster.history_concat (r : Roster) (kind : CallKind) (events : List Roster.Event)
    (event : Roster.Event) :
    r.history kind (events ++ [event]) =
      r.history kind events ++ (events.foldl Roster.step r).turns kind event := by
  induction events generalizing r with
  | nil =>
    rw [List.nil_append, Roster.history]
    exact List.append_nil _
  | cons first rest ih =>
    rw [List.cons_append, Roster.history, ih, Roster.history, List.append_assoc]
    rfl

/-! ## The queue of one kind -/

/-- The refusals that are set for a kind. -/
def Injection.ofKind (kind : CallKind) (injections : List Injection) : List Injection :=
  injections.filter fun injection => injection.call = kind

theorem Injection.ofKind_cons (kind : CallKind) (first : Injection) (rest : List Injection) :
    Injection.ofKind kind (first :: rest) =
      if first.call = kind then first :: Injection.ofKind kind rest
      else Injection.ofKind kind rest := by
  rw [Injection.ofKind, List.filter_cons]
  simp only [decide_eq_true_eq]
  rfl

/-- A request meets the refusals of its own kind alone, so its answer may be read off their queue.
-/
theorem Injection.consult_ofKind {kind : CallKind} {injections left : List Injection}
    {refusal : Option Status} (consulted : Injection.consult kind injections = (refusal, left)) :
    Injection.consult kind (Injection.ofKind kind injections) =
      (refusal, Injection.ofKind kind left) := by
  induction injections generalizing left with
  | nil =>
    cases consulted
    rfl
  | cons first rest ih =>
    rw [Injection.consult] at consulted
    by_cases mine : first.call = kind
    · rw [if_pos mine] at consulted
      rw [Injection.ofKind_cons, if_pos mine, Injection.consult, if_pos mine]
      cases skips : first.skip with
      | zero =>
        rw [skips] at consulted
        cases consulted
        rfl
      | succ fewer =>
        rw [skips] at consulted
        cases consulted
        rw [Injection.ofKind_cons, if_pos mine]
    · rw [if_neg mine] at consulted
      generalize result : Injection.consult kind rest = out at consulted
      obtain ⟨status, rest'⟩ := out
      cases consulted
      rw [Injection.ofKind_cons, if_neg mine, Injection.ofKind_cons, if_neg mine]
      exact ih result

/-- A request leaves the refusals of other kinds as they are. -/
theorem Injection.ofKind_of_consult {call kind : CallKind} (other : kind ≠ call)
    {injections left : List Injection} {refusal : Option Status}
    (consulted : Injection.consult call injections = (refusal, left)) :
    Injection.ofKind kind left = Injection.ofKind kind injections := by
  induction injections generalizing left with
  | nil =>
    cases consulted
    rfl
  | cons first rest ih =>
    rw [Injection.consult] at consulted
    by_cases mine : first.call = call
    · have skipped : first.call ≠ kind := fun same => other (same.symm.trans mine)
      rw [if_pos mine] at consulted
      split at consulted <;> cases consulted
      · rw [Injection.ofKind_cons, if_neg skipped]
      · rw [Injection.ofKind_cons, if_neg skipped, Injection.ofKind_cons, if_neg skipped]
    · rw [if_neg mine] at consulted
      generalize result : Injection.consult call rest = out at consulted
      obtain ⟨status, rest'⟩ := out
      cases consulted
      rw [Injection.ofKind_cons, Injection.ofKind_cons, ih result]

/-- What a request does to the queue of a kind: it is a turn of the queue of its own kind, with the
answer that the request got, and no turn of any other. -/
theorem Backend.Requests.plays {b b' : Backend} {call : CallKind} {session : Option Nat}
    {deadline : Duration} {answer : Except BackendError Unit}
    (requested : b.Requests call session deadline (answer, b')) (kind : CallKind) :
    Injection.Plays kind (Injection.ofKind kind b.injections)
      (if kind = call then [.met (refusalOf answer)] else [])
      (Injection.ofKind kind b'.injections) := by
  by_cases same : kind = call
  · subst same
    rw [if_pos rfl]
    cases requested with
    | refused status left consulted => exact .met (Injection.consult_ofKind consulted)
    | granted left consulted => exact .met (Injection.consult_ofKind consulted)
  · rw [if_neg same]
    have kept : Injection.ofKind kind b'.injections = Injection.ofKind kind b.injections := by
      cases requested with
      | refused status left consulted => exact Injection.ofKind_of_consult same consulted
      | granted left consulted => exact Injection.ofKind_of_consult same consulted
    rw [kept]
    exact .none

/-- The failure with which a new stream ends is the one that was met when it was started. -/
theorem Mark.failure?_stream (number stream : Nat) (events : List ResultEvent)
    (failure : Option Status) :
    ResultStream.failure? ⟨number, Mark.stream stream events failure⟩ = failure := by
  rw [ResultStream.failure?, Mark.items_stream, List.findSome?_append,
    List.findSome?_eq_none_iff.mpr]
  · cases failure <;> rfl
  · intro reply member
    obtain ⟨event, -, rfl⟩ := List.mem_map.mp member
    rfl

/-- What carrying out a call does to the queue of a kind. Only a data statement asks once more, for
the end of its stream, and that is a turn of that queue. -/
theorem Roster.CarriesOut.plays {r r' : Roster} {b : Backend} {call : Roster.Call}
    {answer : Roster.Answer} (carries : r.CarriesOut b call (answer, r')) (kind : CallKind) :
    Injection.Plays kind (Injection.ofKind kind b.injections)
      ((if kind = .streamTail then Roster.tails (.ok answer) else []).map .met)
      (Injection.ofKind kind r'.backend.injections) := by
  have untouched : Injection.Plays kind (Injection.ofKind kind b.injections)
      ((if kind = .streamTail then [] else []).map .met) (Injection.ofKind kind b.injections) := by
    rw [ite_self]
    exact .none
  cases carries with
  | started opened failure left held opens consulted =>
    by_cases tail : kind = .streamTail
    · subst tail
      rw [if_pos rfl, Roster.tails, Mark.failure?_stream]
      exact .met (Injection.consult_ofKind consulted)
    · rw [if_neg tail]
      dsimp only [Roster.put]
      rw [Injection.ofKind_of_consult tail consulted]
      exact .none
  | acquired => exact untouched
  | schemaChanged held => exact untouched
  | begun held => exact untouched
  | finished held same => exact untouched

/-- A call that is answered carries the history of every kind on by what it met of that kind. -/
theorem Injection.Follows.call {r r' : Roster} {deadline : Duration} {call : Roster.Call}
    {answer : Except BackendError Roster.Answer} {kind : CallKind}
    {history : List Injection.Turn}
    (h : Injection.Follows kind history (Injection.ofKind kind r.backend.injections))
    (calls : r.Calls deadline call (answer, r')) :
    Injection.Follows kind (history ++ (call.meets answer kind).map .met)
      (Injection.ofKind kind r'.backend.injections) := by
  have split : (call.meets answer kind).map Injection.Turn.met =
      (if kind = call.kind then [.met (refusalOf answer)] else []) ++
        (if kind = .streamTail then Roster.tails answer else []).map .met := by
    rw [Roster.Call.meets, List.map_append]
    congr 1
    split <;> rfl
  have unstarted : ∀ error, (if kind = .streamTail then Roster.tails (.error error) else []) = [] :=
    fun error => ite_self []
  rw [split, ← List.append_assoc]
  cases calls with
  | refused error made requested =>
    rw [unstarted]
    exact (h.plays (requested.plays kind)).plays .none
  | misplaced named held names requested other =>
    rw [unstarted]
    exact (h.plays (requested.plays kind)).plays .none
  | done made requested carries => exact (h.plays (requested.plays kind)).plays (carries.plays kind)

/-- In every run the refusals of a kind come about as they are due, by induction on the events.
Setting one puts it at the end of its queue; whatever else happens leaves the queue as it is. -/
theorem Roster.follows_run (kind : CallKind) (events : List Roster.Event) :
    Injection.Follows kind (Roster.history .empty kind events)
      (Injection.ofKind kind (Roster.run events).backend.injections) := by
  induction events using List.reverseRecOn with
  | nil => exact .empty kind
  | append_singleton events event ih =>
    rw [Roster.history_concat, Roster.run_concat]
    change Injection.Follows kind (_ ++ (Roster.run events).turns kind event) _
    have unreported := Roster.unreported_run events
    generalize Roster.run events = r at ih unreported
    have still : ∀ {r' : Roster}, r.backend.StreamWork r'.backend →
        Injection.Follows kind (Roster.history .empty kind events ++ [])
          (Injection.ofKind kind r'.backend.injections) := by
      intro r' work
      rw [work.injections]
      exact ih.plays .none
    cases event with
    | call call deadline =>
      rw [Roster.turns, Roster.step]
      cases called : r.call deadline call with
      | none => exact ih.plays .none
      | some result => exact ih.call (Roster.calls unreported called)
    | inject call skip status =>
      rw [Roster.turns, Roster.step, Backend.inject, Injection.ofKind, List.filter_append]
      by_cases same : kind = call
      · subst same
        rw [if_pos rfl, List.filter_singleton, decide_eq_true rfl]
        exact ih.plays (.ordered skip status)
      · have other : decide (call = kind) = false := decide_eq_false fun equal => same equal.symm
        rw [if_neg same, List.filter_singleton, other]
        refine ih.plays ?_
        rw [cond_false, List.append_nil]
        exact .none
    | release place => exact still (r.release_streamWork place)
    | pull stream => exact still (r.pull_streamWork stream)
    | stir stir => exact still (.stir r.backend stir)
    | setResultSets count => exact ih.plays .none

/-! ## What is recorded -/

/-- The counter of the requests of a kind that were carried out. -/
def Journal.successes (j : Journal) : CallKind → Nat
  | .acquire => Journal.acquired j
  | .dataStatement => Journal.dataStatements j
  | .streamTail => 0
  | .schemaStatement => Journal.schemaStatements j
  | .begin => Journal.begins j
  | .commit => (Journal.committed j).length
  | .rollback => (Journal.rolledBack j).length

/-- Two ways of counting what was carried out: by the entries of a kind, and by the calls that
entries carry out. -/
theorem Journal.successes_eq (j : Journal) (kind : CallKind) :
    Journal.successes j kind = Journal.carriedOut j kind := by
  have counts : ∀ {p q : Entry → Bool}, (∀ entry, p entry = q entry) → j.countP p = j.countP q :=
    fun same => congrArg (List.countP · j) (funext same)
  cases kind with
  | acquire => exact counts fun entry => by cases entry <;> rfl
  | dataStatement => exact counts fun entry => by cases entry <;> rfl
  | streamTail => exact (List.countP_eq_zero.mpr fun entry _ => by cases entry <;> simp
      [Entry.carriedOut?]).symm
  | schemaStatement => exact counts fun entry => by cases entry <;> rfl
  | begin => exact counts fun entry => by cases entry <;> rfl
  | commit =>
    rw [Journal.successes, Journal.committed, List.length_filterMap_eq_countP]
    exact counts fun entry => by cases entry <;> rfl
  | rollback =>
    rw [Journal.successes, Journal.rolledBack, List.length_filterMap_eq_countP]
    exact counts fun entry => by cases entry <;> rfl

theorem Journal.requests_append (j entries : Journal) :
    Journal.requests (j ++ entries) = Journal.requests j ++ Journal.requests entries :=
  List.filterMap_append

theorem Journal.carriedOut_entries (j entries : Journal) (kind : CallKind) :
    Journal.carriedOut (j ++ entries) kind =
      Journal.carriedOut j kind + Journal.carriedOut entries kind :=
  List.countP_append

/-- Streams make no request and carry none out. -/
theorem Backend.StreamWork.records {b b' : Backend} (work : b.StreamWork b') :
    Journal.requests b'.journal = Journal.requests b.journal ∧
      ∀ kind, Journal.carriedOut b'.journal kind = Journal.carriedOut b.journal kind := by
  obtain ⟨entries, added, own⟩ := work.journal
  have requests : Journal.requests entries = [] := by
    refine List.filterMap_eq_nil_iff.mpr fun entry member => ?_
    have stream := own entry member
    cases entry <;> first | rfl | cases stream
  have carried : ∀ kind, Journal.carriedOut entries kind = 0 := by
    intro kind
    refine List.countP_eq_zero.mpr fun entry member => ?_
    rw [(Entry.idle_of_isStreamWork (own entry member)).2]
    simp
  rw [added]
  refine ⟨?_, fun kind => ?_⟩
  · rw [Journal.requests_append, requests, List.append_nil]
  · rw [Journal.carriedOut_entries, carried, Nat.add_zero]

/-- Carrying out a call adds one entry, which is of the kind of the call. -/
theorem Roster.CarriesOut.journal {r r' : Roster} {b : Backend} {call : Roster.Call}
    {answer : Roster.Answer} (carries : r.CarriesOut b call (answer, r')) :
    ∃ entry, r'.backend.journal = b.journal ++ [entry] ∧
      entry.carriedOut? = some call.kind := by
  cases carries with
  | acquired => exact ⟨_, rfl, rfl⟩
  | started opened failure left held opens consulted => exact ⟨_, rfl, rfl⟩
  | schemaChanged held => exact ⟨_, rfl, rfl⟩
  | begun held => exact ⟨_, rfl, rfl⟩
  | @finished place s ending transaction held same =>
    refine ⟨_, rfl, ?_⟩
    cases ending <;> rfl

/-- What a call adds to the journal: its request, and what was carried out if it was. -/
theorem Roster.Calls.journal {r r' : Roster} {deadline : Duration} {call : Roster.Call}
    {answer : Except BackendError Roster.Answer} (calls : r.Calls deadline call (answer, r')) :
    ∃ session entries, r'.backend.journal =
        r.backend.journal ++ .requested call.kind session deadline :: entries ∧
      (answer.isOk = false → entries = []) ∧
      (answer.isOk = true → ∃ entry, entries = [entry] ∧ entry.carriedOut? = some call.kind) := by
  have requested_only : ∀ {session : Option Nat} {answer : Except BackendError Unit} {b : Backend},
      r.backend.Requests call.kind session deadline (answer, b) →
      b.journal = r.backend.journal ++ [.requested call.kind session deadline] := by
    intro session answer b requested
    cases requested <;> rfl
  cases calls with
  | refused error made requested =>
    exact ⟨_, [], requested_only requested, fun _ => rfl, fun ok => by cases ok⟩
  | misplaced named held names requested other =>
    exact ⟨_, [], requested_only requested, fun _ => rfl, fun ok => by cases ok⟩
  | done made requested carries =>
    obtain ⟨entry, added, carried⟩ := carries.journal
    rw [requested_only requested, List.append_assoc] at added
    exact ⟨_, [entry], added, fun failed => (by cases failed), fun _ => ⟨entry, rfl, carried⟩⟩

/-- A call, and what it records and changes. -/
structure Roster.Records (r : Roster) (call : Roster.Call) (deadline : Duration)
    (answer : Except BackendError Roster.Answer) (r' : Roster) : Prop where
  /-- It is recorded with its deadline, however it is answered. -/
  recorded : Journal.requests r'.backend.journal =
    Journal.requests r.backend.journal ++ [(call.kind, deadline)]
  counted : ∀ kind, Journal.successes r'.backend.journal kind =
    Journal.successes r.backend.journal kind + if answer.isOk ∧ kind = call.kind then 1 else 0
  /-- A call that fails leaves every session as it was. It was set to be refused, or it is out of
  place: it names a transaction that is not the one open on its session. -/
  fails : ∀ error, answer = .error error → r'.sessions = r.sessions ∧
    ((∃ status, error = ⟨status, .injected call.kind⟩) ∨
      ∃ place s transaction, call.place? = some place ∧ r.held place = some s ∧
        call.transaction? = some transaction ∧ s.openTransaction ≠ some transaction ∧
        error = ⟨.notFound, .noSuchTransaction transaction s.number⟩)
  /-- No call changes another session than its own. -/
  apart : ∀ place s, call.place? ≠ some place → r.held place = some s → r'.held place = some s

/-- Putting a session back touches no other place. -/
theorem Roster.held_put_ne {r : Roster} {place other : Nat} (apart : place ≠ other) (s : Session)
    (b : Backend) : (r.put place s b).held other = r.held other := by
  rw [Roster.held, Roster.put, List.getElem?_set_ne apart]
  rfl

/-- A call changes no session but the one that it is made on. -/
theorem Roster.CarriesOut.held {r r' : Roster} {b : Backend} {call : Roster.Call}
    {answer : Roster.Answer} (carries : r.CarriesOut b call (answer, r')) {place : Nat}
    {s : Session} (apart : call.place? ≠ some place) (held : r.held place = some s) :
    r'.held place = some s := by
  have elsewhere : ∀ {other : Nat}, call.place? = some other → other ≠ place := by
    rintro other named rfl
    exact apart named
  cases carries with
  | acquired =>
    obtain ⟨inside, -⟩ := List.getElem?_eq_some_iff.mp (Option.join_eq_some_iff.mp held)
    rw [Roster.held, List.getElem?_append_left inside]
    exact held
  | started opened failure left _ opens consulted =>
    exact (Roster.held_put_ne (elsewhere rfl) _ b).trans held
  | schemaChanged _ => exact held
  | begun _ => exact (Roster.held_put_ne (elsewhere rfl) _ _).trans held
  | finished _ same => exact (Roster.held_put_ne (elsewhere rfl) _ _).trans held

/-- Every call is recorded as it was made: with its deadline and its session, counted as carried out
only if it was, and without a change to any other session. -/
theorem Roster.Calls.records {r r' : Roster} {deadline : Duration} {call : Roster.Call}
    {answer : Except BackendError Roster.Answer} (calls : r.Calls deadline call (answer, r')) :
    r.Records call deadline answer r' := by
  obtain ⟨session, entries, whole, failing, carried⟩ := calls.journal
  constructor
  case recorded =>
    rw [whole, Journal.requests_append]
    cases ok : answer.isOk with
    | false => rw [failing ok]; rfl
    | true =>
      obtain ⟨entry, rfl, carries⟩ := carried ok
      cases entry <;> first | rfl | cases carries
  case counted =>
    intro kind
    rw [Journal.successes_eq, Journal.successes_eq, whole, Journal.carriedOut_entries]
    congr 1
    cases ok : answer.isOk with
    | false => rw [failing ok]; rfl
    | true =>
      obtain ⟨entry, rfl, carries⟩ := carried ok
      have asks : Entry.carriedOut? (.requested call.kind session deadline) ≠ some kind := nofun
      rw [Journal.carriedOut, List.countP_cons_of_neg (by simpa using asks), List.countP_singleton,
        carries]
      simp only [Option.some.injEq, decide_eq_true_eq, true_and, @eq_comm CallKind kind]
  case fails =>
    intro error failed
    cases calls with
    | refused error' made requested =>
      cases failed
      exact ⟨rfl, Or.inl (requested.injected)⟩
    | misplaced named held names requested other =>
      cases failed
      exact ⟨rfl, Or.inr ⟨_, _, _, named, held, names, other, rfl⟩⟩
    | done made requested carries => cases failed
  case apart =>
    intro place s elsewhere held
    cases calls with
    | refused error' made requested => exact held
    | misplaced named held' names requested other => exact held
    | done made requested carries => exact carries.held elsewhere held

/-- What is not a call makes no request and carries none out, and takes no session but to give it
back. -/
theorem Roster.records_step (r : Roster) {event : Roster.Event}
    (other : ∀ call deadline, event ≠ .call call deadline) :
    Journal.requests (r.step event).backend.journal = Journal.requests r.backend.journal ∧
      (∀ kind, Journal.successes (r.step event).backend.journal kind =
        Journal.successes r.backend.journal kind) ∧
      ∀ place s, (r.step event).held place = some s → r.held place = some s := by
  have still : ∀ {r' : Roster}, r.backend.StreamWork r'.backend →
      (∀ place s, r'.held place = some s → r.held place = some s) →
      Journal.requests r'.backend.journal = Journal.requests r.backend.journal ∧
        (∀ kind, Journal.successes r'.backend.journal kind =
          Journal.successes r.backend.journal kind) ∧
        ∀ place s, r'.held place = some s → r.held place = some s := by
    intro r' work kept
    obtain ⟨requests, carried⟩ := work.records
    refine ⟨requests, fun kind => ?_, kept⟩
    rw [Journal.successes_eq, Journal.successes_eq, carried kind]
  cases event with
  | call call deadline => exact (other call deadline rfl).elim
  | release place =>
    refine still (r.release_streamWork place) fun place' s held => ?_
    rw [Roster.step, Roster.release] at held
    split at held
    · exact held
    · by_cases here : place = place'
      · subst here
        rw [Roster.held, List.getElem?_set_self'] at held
        cases found : r.sessions[place]? with
        | none => rw [found] at held; cases held
        | some slot => rw [found] at held; cases held
      · rw [Roster.held, List.getElem?_set_ne here] at held
        exact held
  | pull stream =>
    refine still (r.pull_streamWork stream) fun place s held => ?_
    rw [Roster.step, Roster.held, Roster.sessions_pull] at held
    exact held
  | stir stir => exact still (.stir r.backend stir) fun place s held => held
  | inject call skip status => exact ⟨rfl, fun kind => rfl, fun place s held => held⟩
  | setResultSets count => exact ⟨rfl, fun kind => rfl, fun place s held => held⟩

/-- Calls are refused exactly when that was set. Those of one kind, on whichever sessions, are
refused as they are due: a refusal counts them from when it was set, and not before the one ahead of
it has come about, and so if all were set before the first call, each comes about after as many
calls as it and those ahead of it let through and refuse. Nothing else that is done has a part in it.
Each call is recorded with its deadline; the counter of its kind grows, and a session changes, only
if it succeeds, and it fails for nothing else but for naming a transaction that is not open there. -/
theorem Roster.refused_when_due (events : List Roster.Event) :
    (∀ kind,
      let history := Roster.history .empty kind events
      let orders := Injection.orders 0 history
      (∀ k refusal, (Injection.answers history)[k]? = some refusal → ∀ status,
        refusal = some status ↔ (k + 1, status) ∈ Injection.schedule 0 orders) ∧
      ((∀ order ∈ orders, order.made = 0) → ∀ k refusal,
        (Injection.answers history)[k]? = some refusal → ∀ status,
          refusal = some status ↔ ∃ i order, orders[i]? = some order ∧ order.status = status ∧
            k + 1 = ((orders.take (i + 1)).map fun order => order.skip + 1).sum) ∧
      ∀ events', (Roster.history .empty kind events').map Injection.Turn.erase =
        history.map Injection.Turn.erase → Roster.history .empty kind events' = history) ∧
    let r := Roster.run events
    (∀ call deadline answer r', r.call deadline call = some (answer, r') →
      r.Records call deadline answer r') ∧
    ∀ event, (∀ call deadline, event ≠ .call call deadline) →
      Journal.requests (r.step event).backend.journal = Journal.requests r.backend.journal ∧
      (∀ kind, Journal.successes (r.step event).backend.journal kind =
        Journal.successes r.backend.journal kind) ∧
      ∀ place s, (r.step event).held place = some s → r.held place = some s := by
  refine ⟨fun kind => ⟨?_, ?_, ?_⟩, ?_, ?_⟩
  · exact (Roster.follows_run kind events).met
  · intro early k refusal found status
    rw [(Roster.follows_run kind events).met k refusal found status, Injection.mem_schedule_iff
      fun order member => Nat.le_of_eq (early order member)]
    simp only [Nat.zero_add]
  · intro events' same
    exact (Roster.follows_run kind events').eq (Roster.follows_run kind events) same
  · intro call deadline answer r' called
    exact (Roster.calls (Roster.unreported_run events) called).records
  · intro event other
    exact (Roster.run events).records_step other

/-- Of four sessions asked for, the second is refused for one refusal and the third for the other,
and the fourth for one that is set only then; that a statement runs on the first session, the end of
whose stream is refused, makes no difference to them. -/
theorem Roster.refused_when_due_acquiring :
    let acquire : Roster.Event := .call .acquire (.ofSeconds 7)
    let statement : Roster.Event :=
      .call (.runData 0 "q" (.start .serializableReadWrite false) []) (.ofSeconds 5)
    let early : List Roster.Event :=
      [.inject .acquire 1 .timeout, .inject .acquire 0 .unavailable, acquire, acquire, acquire]
    let late : List Roster.Event := [.inject .acquire 0 .internal, acquire]
    let busy := early ++ [.inject .streamTail 0 .aborted, statement] ++ late
    Roster.history .empty .acquire (early ++ late) = Roster.history .empty .acquire busy ∧
      Injection.answers (Roster.history .empty .acquire busy) =
        [none, some .timeout, some .unavailable, some .internal] ∧
      (4, .internal) ∈
        Injection.schedule 0 (Injection.orders 0 (Roster.history .empty .acquire busy)) ∧
      (∃ i order, (Injection.orders 0 (Roster.history .empty .acquire early))[i]? = some order ∧
        order.status = .unavailable ∧ 2 + 1 = (((Injection.orders 0
          (Roster.history .empty .acquire early)).take (i + 1)).map fun order =>
            order.skip + 1).sum) ∧
      Injection.answers (Roster.history .empty .streamTail busy) = [some .aborted] ∧
      (1, .aborted) ∈
        Injection.schedule 0 (Injection.orders 0 (Roster.history .empty .streamTail busy)) ∧
      Journal.requests ((Roster.run early).step statement).backend.journal =
        Journal.requests (Roster.run early).backend.journal ++ [(.dataStatement, .ofSeconds 5)] ∧
      Journal.requests ((Roster.run busy).step (.release 0)).backend.journal =
        Journal.requests (Roster.run busy).backend.journal := by
  intro acquire statement early late busy
  have whole := Roster.refused_when_due busy
  refine ⟨?_, by decide +kernel, ?_, ?_, by decide +kernel, ?_, ?_, ?_⟩
  · exact (whole.1 .acquire).2.2 (early ++ late) (by decide +kernel)
  · exact ((whole.1 .acquire).1 3 (some .internal) (by decide +kernel) .internal).mp rfl
  · exact (((Roster.refused_when_due early).1 .acquire).2.1 (by decide +kernel) 2
      (some .unavailable) (by decide +kernel) .unavailable).mp rfl
  · exact ((whole.1 .streamTail).1 0 (some .aborted) (by decide +kernel) .aborted).mp rfl
  · exact ((Roster.refused_when_due early).2.1
      (.runData 0 "q" (.start .serializableReadWrite false) []) (.ofSeconds 5) _ _ rfl).recorded
  · exact (whole.2.2 (.release 0) fun call deadline same => by cases same).1

end SqlDriver
