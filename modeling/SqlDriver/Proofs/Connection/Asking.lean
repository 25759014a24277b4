import SqlDriver.Proofs.Backend.Refusing
import SqlDriver.Proofs.Connection.Texts

/-!
What is asked of a backend. A list of requests, with the refusal that each was met with if there was
one, says all that a call brings into the record of requests: they stand in the journal in their
order, refused or not, each with the deadline of its kind, and the refusals that were used up are
theirs. Whatever else happens meanwhile, in result streams and in the background, asks for nothing.
-/

namespace SqlDriver

/-- A request that was made, and the status that it was refused with. -/
structure Ask where
  call : CallKind
  refusal : Option Status
deriving DecidableEq, Repr

/-! ## What is asked of a backend -/

/-- How many refusals are set for a kind. -/
def Injection.count (kind : CallKind) (injections : List Injection) : Nat :=
  injections.countP fun injection => injection.call = kind

theorem Injection.count_cons (kind : CallKind) (first : Injection) (rest : List Injection) :
    Injection.count kind (first :: rest) =
      Injection.count kind rest + if first.call = kind then 1 else 0 := by
  rw [Injection.count, List.countP_cons]
  simp only [decide_eq_true_eq]
  rfl

/-- A request uses up one refusal of its kind if it is refused, and none otherwise. Counts that have
run down are no refusals that were used up. -/
theorem Injection.count_consult {call : CallKind} {injections left : List Injection}
    {refusal : Option Status} (consulted : Injection.consult call injections = (refusal, left))
    (kind : CallKind) :
    Injection.count kind injections =
      Injection.count kind left + if call = kind ∧ refusal.isSome then 1 else 0 := by
  induction injections generalizing left with
  | nil =>
    cases consulted
    simp [Injection.count]
  | cons first rest ih =>
    rw [Injection.consult] at consulted
    by_cases mine : first.call = call
    · rw [if_pos mine] at consulted
      cases skips : first.skip with
      | zero =>
        rw [skips] at consulted
        cases consulted
        simp [Injection.count_cons, mine]
      | succ fewer =>
        rw [skips] at consulted
        cases consulted
        simp [Injection.count_cons]
    · rw [if_neg mine] at consulted
      generalize result : Injection.consult call rest = out at consulted
      obtain ⟨status, rest'⟩ := out
      cases consulted
      rw [Injection.count_cons, Injection.count_cons, ih result]
      omega

/-- These requests were made of a backend, and no other: they were added to the journal, each with
the deadline of its kind, and the refusals that were used up are theirs. -/
structure Backend.Asks (deadline : CallKind → Duration) (b : Backend) (asked : List Ask)
    (b' : Backend) : Prop where
  recorded : Journal.requests b'.journal =
    Journal.requests b.journal ++ asked.map fun ask => (ask.call, deadline ask.call)
  refused : ∀ kind, kind ≠ .streamTail → Injection.count kind b.injections =
    Injection.count kind b'.injections +
      asked.countP fun ask => ask.call = kind && ask.refusal.isSome

namespace Backend.Asks

variable {deadline : CallKind → Duration} {b b' b'' : Backend} {asked asked' : List Ask}

theorem refl (deadline : CallKind → Duration) (b : Backend) : b.Asks deadline [] b where
  recorded := (List.append_nil _).symm
  refused _ _ := rfl

/-- Requests that are made one after the other are asked in this order. -/
theorem trans (first : b.Asks deadline asked b') (second : b'.Asks deadline asked' b'') :
    b.Asks deadline (asked ++ asked') b'' where
  recorded := by rw [second.recorded, first.recorded, List.map_append, List.append_assoc]
  refused kind request := by
    rw [first.refused kind request, second.refused kind request, List.countP_append]
    omega

/-- Something that asks for nothing, after requests. -/
theorem quiet (first : b.Asks deadline asked b') (second : b'.Asks deadline [] b'') :
    b.Asks deadline asked b'' := by
  have whole := first.trans second
  rwa [List.append_nil] at whole

/-- Streams ask for nothing, however they go on. -/
theorem of_streamWork (deadline : CallKind → Duration) (work : b.StreamWork b') :
    b.Asks deadline [] b' where
  recorded := work.records.1.trans (List.append_nil _).symm
  refused kind _ := by rw [work.injections]; rfl

/-- Recording what is no request. -/
theorem record (deadline : CallKind → Duration) (b : Backend) {entry : Entry}
    (other : entry.request? = none) : b.Asks deadline [] (b.record entry) where
  recorded := by
    rw [Backend.record, Journal.requests_append, Journal.requests, Journal.requests,
      List.filterMap_cons_none other]
    rfl
  refused _ _ := rfl

/-- Accepting a data statement: what is set for the end of its stream is no matter of requests,
though it is consulted in the same way. -/
theorem accept {session : Nat} {text : String} {control : TransactionControl}
    {opened : Option TransactionId} {failure : Option Status} {left : List Injection}
    (deadline : CallKind → Duration)
    (consulted : Injection.consult .streamTail b.injections = (failure, left)) :
    b.Asks deadline [] (b.accept text control session opened left) where
  recorded :=
    have made : (Entry.accepted session text control opened).request? = none := rfl
    (record deadline b made).recorded
  refused kind request := by
    have kept := Injection.count_consult consulted kind
    rwa [if_neg fun ends => request ends.1.symm] at kept

theorem streamWork (first : b.Asks deadline asked b') (work : b'.StreamWork b'') :
    b.Asks deadline asked b'' :=
  first.quiet (of_streamWork deadline work)

/-- Where nothing but streams has worked, nothing was asked, since a request would stand in the
journal. -/
theorem eq_nil (asks : b.Asks deadline asked b') (work : b.StreamWork b') : asked = [] := by
  have same := asks.recorded
  rw [work.records.1] at same
  exact List.map_eq_nil_iff.mp (List.self_eq_append_right.mp same)

end Backend.Asks

/-- One request was made: it was refused, for no other reason than that this was set for its kind,
or granted, whatever came of it then. -/
structure Backend.AsksOnce {α : Type} (deadline : CallKind → Duration) (b : Backend)
    (call : CallKind) (answer : Except BackendError α) (b' : Backend) : Prop where
  asks : b.Asks deadline [⟨call, refusalOf answer⟩] b'
  own : ∀ status other, answer = .error ⟨status, .injected other⟩ → other = call

section Requests

variable {deadline : CallKind → Duration} {s s' : Session} {b b' : Backend} {call : CallKind}

/-- A request is asked once, with its deadline, and its answer says whether it was refused. -/
theorem Backend.Requests.asksOnce {session : Option Nat} {answer : Except BackendError Unit}
    (requested : b.Requests call session (deadline call) (answer, b')) :
    b.AsksOnce deadline call answer b' where
  asks := {
    recorded := by rw [requested.journal, Journal.requests_append]; rfl
    refused := by
      intro kind _
      cases requested with
      | refused status left consulted =>
        rw [Injection.count_consult consulted kind]
        simp [refusalOf, BackendError.injected?]
      | granted left consulted =>
        rw [Injection.count_consult consulted kind]
        simp [refusalOf] }
  own := by
    rintro status other rfl
    obtain ⟨status', same⟩ := requested.injected
    cases same
    rfl

/-- A request on a session that is got for it. Both are asked, the session first, each with its own
deadline. -/
theorem Backend.AsksOnce.onNew {α : Type} {answer : Except BackendError α} {b'' : Backend}
    (once : b'.serve.AsksOnce deadline call answer b'')
    (requested : b.Requests .acquire none (deadline .acquire) (.ok (), b')) :
    b.Asks deadline ([⟨.acquire, none⟩] ++ [⟨call, refusalOf answer⟩]) b'' :=
  (requested.asksOnce.asks.quiet (.record deadline b' rfl)).trans once.asks

/-- A request that was granted and came to nothing, for a reason of its own. It does not count as
refused. -/
theorem Backend.AsksOnce.misplaced {α : Type}
    (granted : b.AsksOnce deadline call (.ok () : Except BackendError Unit) b')
    {error : BackendError} (apart : ∀ status other, error ≠ ⟨status, .injected other⟩) :
    b.AsksOnce deadline call (.error error : Except BackendError α) b' where
  asks := by
    have uninjected : error.injected? = none := by
      obtain ⟨status, refusal⟩ := error
      cases refusal with
      | injected other => exact (apart status other rfl).elim
      | _ => rfl
    rw [refusalOf, uninjected]
    exact granted.asks
  own := by
    rintro status other same
    cases same
    exact (apart status other rfl).elim

/-- A request that was granted and carried out. -/
theorem Backend.AsksOnce.carriedOut {α : Type} {b'' : Backend}
    (granted : b.AsksOnce deadline call (.ok () : Except BackendError Unit) b') (value : α)
    (after : b'.Asks deadline [] b'') :
    b.AsksOnce deadline call (.ok value : Except BackendError α) b'' where
  asks := granted.asks.quiet after
  own := by rintro status other same; cases same

/-- A request that was refused says the same whatever it was to bring. -/
theorem Backend.AsksOnce.refused {α β : Type} {error : BackendError}
    (refused : b.AsksOnce deadline call (.error error : Except BackendError α) b') :
    b.AsksOnce deadline call (.error error : Except BackendError β) b' where
  asks := refused.asks
  own := by rintro status other same; cases same; exact refused.own status other rfl

/-- Turning away the wrong transaction is not the refusal of a request. -/
theorem Session.check_ne_injected {transaction : TransactionId} {error : BackendError}
    (checked : s.check transaction = .error error) (status : Status) (other : CallKind) :
    error ≠ ⟨status, .injected other⟩ := by
  rw [Session.check] at checked
  split at checked
  · cases checked
  · rintro rfl
    cases checked

theorem Session.opens_ne_injected {control : TransactionControl} {error : BackendError}
    (opens : s.opens b control = .error error) (status : Status) (other : CallKind) :
    error ≠ ⟨status, .injected other⟩ := by
  unfold Session.opens at opens
  split at opens
  · cases opens
  · cases opens
  · split at opens
    · rename_i checked
      cases opens
      exact Session.check_ne_injected checked status other
    · cases opens

/-- A data statement makes one request, whatever becomes of its stream. -/
theorem Session.Executes.asksOnce {text : String} {control : TransactionControl}
    {parameters : NamedValues} {guard : Nat → Session → Guard}
    {answer : Except BackendError (Nat × Collected)}
    (executes : s.Executes b text control parameters (deadline .dataStatement) guard
      (answer, s', b')) : b.AsksOnce deadline .dataStatement answer b' := by
  cases executes with
  | refused error requested => exact requested.asksOnce.refused
  | misplaced error requested checked =>
    exact requested.asksOnce.misplaced (Session.opens_ne_injected checked)
  | complete opened left requested opens consulted idles =>
    have after := (Backend.Asks.accept deadline consulted).streamWork idles.streamWork
    exact requested.asksOnce.carriedOut _ (after.streamWork (.record _ rfl))
  | failed opened status left requested opens consulted idles =>
    have after := (Backend.Asks.accept deadline consulted).streamWork idles.streamWork
    exact requested.asksOnce.carriedOut _
      ((after.streamWork (.record _ rfl)).streamWork (.dropKept _ _))
  | cancelled opened failure left rest requested opens consulted idles finishing =>
    have after := (Backend.Asks.accept deadline consulted).streamWork idles.streamWork
    exact requested.asksOnce.carriedOut _ (after.streamWork (.setBackground _ _))

/-- An error in a result stream is not the refusal of a request. -/
theorem Session.Executes.ne_injected {text : String} {control : TransactionControl}
    {parameters : NamedValues} {timeout : Duration} {guard : Nat → Session → Guard} {stream : Nat}
    {error : BackendError}
    (executes : s.Executes b text control parameters timeout guard
      (.ok (stream, .failed error), s', b')) (status : Status) (other : CallKind) :
    error ≠ ⟨status, .injected other⟩ := by
  cases executes with
  | failed opened status' left requested opens consulted idles => exact fun same => by cases same

theorem Session.RunsSchema.asksOnce {text : String} {answer : Except BackendError Unit}
    (runs : s.RunsSchema b text (deadline .schemaStatement) (answer, b')) :
    b.AsksOnce deadline .schemaStatement answer b' := by
  cases runs with
  | refused error requested => exact requested.asksOnce
  | done requested => exact requested.asksOnce.carriedOut () (.record deadline _ rfl)

theorem Session.Begins.asksOnce {mode : TransactionMode}
    {answer : Except BackendError TransactionId}
    (begins : s.Begins b mode (deadline .begin) (answer, s', b')) :
    b.AsksOnce deadline .begin answer b' := by
  cases begins with
  | refused error requested => exact requested.asksOnce.refused
  | done requested => exact requested.asksOnce.carriedOut _ (.record deadline _ rfl)

/-- Ending a transaction makes one request, also if the transaction is not open on the session. -/
theorem Session.Finishes.asksOnce {ending : Ending} {transaction : TransactionId}
    {answer : Except BackendError Unit}
    (finishes : s.Finishes b ending transaction (deadline ending.call) (answer, s', b')) :
    b.AsksOnce deadline ending.call answer b' := by
  cases finishes with
  | refused error requested => exact requested.asksOnce
  | misplaced error requested checked =>
    exact requested.asksOnce.misplaced (Session.check_ne_injected checked)
  | done requested checked =>
    refine requested.asksOnce.carriedOut () (.record deadline _ ?_)
    cases ending <;> rfl

end Requests

end SqlDriver
