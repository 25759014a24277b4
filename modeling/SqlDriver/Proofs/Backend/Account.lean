import Mathlib.Data.List.Perm.Basic
import SqlDriver.Proofs.Backend.Requests
import SqlDriver.Proofs.Backend.StreamWork

/-!
The account of a backend's requests: each was carried out, or it met a refusal that was set for its
kind, and a refusal is met once. So where the account is balanced, no request was ever turned down
for any other reason.
-/

namespace SqlDriver

/-- The kind of request that is refused, and the status it is refused with. -/
def Injection.refusal (injection : Injection) : CallKind × Status :=
  (injection.call, injection.status)

/-- Whether a request of a kind was made. -/
def Entry.asks (call : CallKind) : Entry → Bool
  | .requested other _ _ => other = call
  | _ => false

/-- The kind of request that was carried out. -/
def Entry.carriedOut? : Entry → Option CallKind
  | .acquired _ => some .acquire
  | .accepted _ _ _ _ => some .dataStatement
  | .schemaChanged _ _ => some .schemaStatement
  | .begun _ _ _ => some .begin
  | .committed _ _ => some .commit
  | .rolledBack _ _ => some .rollback
  | _ => none

/-- The number of requests of a kind. -/
def Journal.asked (j : Journal) (call : CallKind) : Nat := j.countP (Entry.asks call)

/-- The number of requests of a kind that were carried out. -/
def Journal.carriedOut (j : Journal) (call : CallKind) : Nat :=
  j.countP fun entry => entry.carriedOut? = some call

theorem Journal.asked_append (j : Journal) (entry : Entry) (call : CallKind) :
    Journal.asked (j ++ [entry]) call =
      Journal.asked j call + if entry.asks call then 1 else 0 := by
  rw [Journal.asked, List.countP_append, List.countP_singleton]
  rfl

theorem Journal.carriedOut_append (j : Journal) (entry : Entry) (call : CallKind) :
    Journal.carriedOut (j ++ [entry]) call =
      Journal.carriedOut j call + if entry.carriedOut? = some call then 1 else 0 := by
  rw [Journal.carriedOut, List.countP_append, List.countP_singleton]
  simp only [decide_eq_true_eq]
  rfl

/-- Streams ask for nothing and carry nothing out, so what goes on in the background leaves the
account of requests as it is. -/
theorem Entry.idle_of_isStreamWork {entry : Entry} (work : entry.isStreamWork = true) :
    (∀ call, entry.asks call = false) ∧ entry.carriedOut? = none := by
  cases entry with
  | emitted stream => exact ⟨fun _ => rfl, rfl⟩
  | completed stream => exact ⟨fun _ => rfl, rfl⟩
  | released session => exact ⟨fun _ => rfl, rfl⟩
  | _ => cases work

/-- The requests of every kind are those carried out, those still `owed`, and those that met one of
the refusals; the other refusals are still to be met. What is set for the ends of streams is met
without a request. -/
structure Backend.Account (refusals : List (CallKind × Status)) (owed : List CallKind)
    (b : Backend) : Prop where
  unreported : b.reports = []
  balanced : ∃ met : List (CallKind × Status),
    refusals.Perm (met ++ b.injections.map Injection.refusal) ∧
    ∀ call, call ≠ .streamTail → Journal.asked b.journal call =
      Journal.carriedOut b.journal call + (met.countP fun refusal => refusal.1 = call) +
        owed.count call

/-- An error that was set beforehand. -/
inductive BackendError.Injected (refusals : List (CallKind × Status)) : BackendError → Prop
  | request (call : CallKind) (status : Status) (set : (call, status) ∈ refusals) :
      BackendError.Injected refusals ⟨status, .injected call⟩
  | stream (status : Status) (set : (.streamTail, status) ∈ refusals) :
      BackendError.Injected refusals ⟨status, .injectedStream⟩

/-! ## Consulting the refusals -/

/-- A call that meets no refusal may count one of them down, but leaves every one there to be met. -/
theorem Injection.consult_none {call : CallKind} {injections left : List Injection}
    (consulted : Injection.consult call injections = (none, left)) :
    left.map Injection.refusal = injections.map Injection.refusal := by
  induction injections generalizing left with
  | nil =>
    cases consulted
    rfl
  | cons first rest ih =>
    rw [Injection.consult] at consulted
    split at consulted
    · split at consulted
      · cases consulted
      · cases consulted
        rfl
    · generalize result : Injection.consult call rest = result' at consulted
      obtain ⟨status, rest'⟩ := result'
      cases consulted
      rw [List.map_cons, List.map_cons, ih result]

/-- A refusal that is met is taken off the list, and the others stay. -/
theorem Injection.consult_some {call : CallKind} {injections left : List Injection}
    {status : Status}
    (consulted : Injection.consult call injections = (some status, left)) :
    (injections.map Injection.refusal).Perm ((call, status) :: left.map Injection.refusal) := by
  induction injections generalizing left with
  | nil => cases consulted
  | cons first rest ih =>
    rw [Injection.consult] at consulted
    split at consulted
    · rename_i same
      split at consulted
      · cases consulted
        rw [List.map_cons, Injection.refusal, same]
      · cases consulted
    · generalize result : Injection.consult call rest = result' at consulted
      obtain ⟨status', rest'⟩ := result'
      cases consulted
      rw [List.map_cons, List.map_cons]
      exact ((ih result).cons _).trans (List.Perm.swap ..)

section

variable {refusals met : List (CallKind × Status)} {call : CallKind} {status : Status}
  {injections left : List Injection}

/-- The refusals that are not set for a call are still to be met after it. -/
theorem Injection.unmet_of_none
    (set : refusals.Perm (met ++ injections.map Injection.refusal))
    (consulted : Injection.consult call injections = (none, left)) :
    refusals.Perm (met ++ left.map Injection.refusal) := by
  rw [Injection.consult_none consulted]
  exact set

/-- A refusal that a call meets is met from then on: it moves from those that are still set to those
that were met. -/
theorem Injection.unmet_of_some
    (set : refusals.Perm (met ++ injections.map Injection.refusal))
    (consulted : Injection.consult call injections = (some status, left)) :
    refusals.Perm ((call, status) :: met ++ left.map Injection.refusal) :=
  set.trans (((Injection.consult_some consulted).append_left met).trans List.perm_middle)

end

namespace Backend.Account

variable {refusals : List (CallKind × Status)} {owed : List CallKind} {b b' : Backend}
  {call : CallKind} {session : Option Nat} {deadline : Duration}

theorem fresh : Backend.fresh.Account [] [] where
  unreported := rfl
  balanced := ⟨[], .refl _, by intro call request; rfl⟩

/-- The account is a matter of the journal, the refusals and the queue of reports; whatever touches
none of them keeps it. -/
theorem congr (h : b.Account refusals owed) (journal : b'.journal = b.journal)
    (injections : b'.injections = b.injections) (reports : b'.reports = b.reports) :
    b'.Account refusals owed where
  unreported := reports.trans h.unreported
  balanced := by
    rw [journal, injections]
    exact h.balanced

/-- Work of streams is no request. -/
theorem streamWork (h : b.Account refusals owed) (work : b.StreamWork b') :
    b'.Account refusals owed where
  unreported := work.reports.trans h.unreported
  balanced := by
    obtain ⟨entries, added, own⟩ := work.journal
    obtain ⟨met, set, balanced⟩ := h.balanced
    rw [work.injections, added]
    refine ⟨met, set, ?_⟩
    intro call request
    have asks : entries.countP (Entry.asks call) = 0 := by
      rw [List.countP_eq_zero]
      intro entry member
      rw [(Entry.idle_of_isStreamWork (own entry member)).1 call]
      exact Bool.false_ne_true
    have carries : (entries.countP fun entry => entry.carriedOut? = some call) = 0 := by
      rw [List.countP_eq_zero]
      intro entry member
      rw [(Entry.idle_of_isStreamWork (own entry member)).2]
      simp
    rw [Journal.asked, Journal.carriedOut, List.countP_append, List.countP_append, asks, carries]
    exact balanced call request

theorem completed (h : b.Account refusals owed) (stream : Nat) :
    (b.record (.completed stream)).Account refusals owed :=
  h.streamWork (.record b rfl)

theorem release (h : b.Account refusals owed) (session : Session) :
    (b.release session).Account refusals owed :=
  h.streamWork (.release b session)

/-- A request that is refused met a refusal that had been set for its kind, and owes nothing after
it. -/
theorem refused {error : BackendError} (h : b.Account refusals owed)
    (requested : b.Requests call session deadline (.error error, b')) :
    b'.Account refusals owed ∧ error.Injected refusals := by
  obtain ⟨met, set, balanced⟩ := h.balanced
  cases requested with
  | refused status left consulted =>
    have moved := Injection.unmet_of_some set consulted
    refine ⟨⟨h.unreported, (call, status) :: met, moved, ?_⟩, ?_⟩
    · intro other request
      have before := balanced other request
      simp only [Backend.record, Journal.asked_append, Journal.carriedOut_append, Entry.asks,
        Entry.carriedOut?, List.countP_cons, reduceCtorEq, if_false, decide_eq_true_eq] at before ⊢
      omega
    · exact .request call status (moved.mem_iff.mpr List.mem_cons_self)

/-- A request that is granted owes that it is carried out. It does so at once, before the next
request is made, so one call at most is owed. -/
theorem granted (h : b.Account refusals [])
    (requested : b.Requests call session deadline (.ok (), b')) : b'.Account refusals [call] := by
  obtain ⟨met, set, balanced⟩ := h.balanced
  cases requested with
  | granted left consulted =>
    refine ⟨h.unreported, met, Injection.unmet_of_none set consulted, ?_⟩
    intro other request
    have before := balanced other request
    simp only [Backend.record, Journal.asked_append, Journal.carriedOut_append, Entry.asks,
      Entry.carriedOut?, List.count_cons, List.count_nil, reduceCtorEq, if_false, decide_eq_true_eq,
      beq_iff_eq] at before ⊢
    omega

/-- What was asked for is carried out, and nothing is owed any more. -/
theorem carryOut (h : b.Account refusals [call]) {entry : Entry}
    (carries : entry.carriedOut? = some call) : (b.record entry).Account refusals [] where
  unreported := h.unreported
  balanced := by
    obtain ⟨met, set, balanced⟩ := h.balanced
    refine ⟨met, set, ?_⟩
    intro other request
    have before := balanced other request
    have asks : entry.asks other = false := by
      cases entry with
      | requested => cases carries
      | _ => rfl
    simp only [Backend.record, Journal.asked_append, Journal.carriedOut_append, asks, carries,
      List.count_cons, List.count_nil, Bool.false_eq_true, if_false, beq_iff_eq, Option.some.injEq]
      at before ⊢
    omega

/-- A session that was asked for is handed out. -/
theorem serve (h : b.Account refusals [])
    (requested : b.Requests .acquire session deadline (.ok (), b')) :
    b'.serve.Account refusals [] :=
  (h.granted requested).carryOut rfl

/-- A stream meets what is set for its end when it is started, though whoever pulls it hears of it
only at its end. -/
theorem meetsTail (h : b.Account refusals owed) {failure : Option Status} {left : List Injection}
    (consulted : Injection.consult .streamTail b.injections = (failure, left)) :
    Backend.Account refusals owed { b with injections := left } ∧
      ∀ status, failure = some status → (.streamTail, status) ∈ refusals := by
  obtain ⟨met, set, balanced⟩ := h.balanced
  cases failure with
  | none =>
    have kept := Injection.unmet_of_none set consulted
    exact ⟨⟨h.unreported, met, kept, balanced⟩, by intro status failed; cases failed⟩
  | some status =>
    have moved := Injection.unmet_of_some set consulted
    refine ⟨⟨h.unreported, (.streamTail, status) :: met, moved, ?_⟩, ?_⟩
    · intro other request
      rw [List.countP_cons_of_neg (by simpa using request.symm)]
      exact balanced other request
    · intro status' failed
      cases failed
      exact moved.mem_iff.mpr List.mem_cons_self

/-- A new refusal is still to be met. -/
theorem inject (h : b.Account refusals owed) (call : CallKind) (skip : Nat) (status : Status) :
    (b.inject call skip status).Account (refusals ++ [(call, status)]) owed where
  unreported := h.unreported
  balanced := by
    obtain ⟨met, set, balanced⟩ := h.balanced
    refine ⟨met, ?_, balanced⟩
    rw [Backend.inject, List.map_append, ← List.append_assoc]
    exact set.append_right _

end Backend.Account

end SqlDriver
