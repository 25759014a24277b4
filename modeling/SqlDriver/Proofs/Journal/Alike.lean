import Mathlib.Data.List.Basic
import SqlDriver.Proofs.Backend.StreamWork

/-!
Journals that differ only in the order of what streams added on their own. Streams that go on side
by side come to their events in any order, so two runs that have done the same may well have
journals that are not equal. All statistics of such journals are equal, and remain so when the same
is added to both.
-/

namespace SqlDriver

/-- All that can be read off a journal. -/
structure Journal.Statistics where
  acquired : Nat
  released : Nat
  dataStatements : Nat
  schemaStatements : Nat
  begins : Nat
  eventsEmitted : Nat
  streamsCompleted : Nat
  /-- All requests, with their deadlines. -/
  requests : List (CallKind × Duration)
  statements : List String
  controls : List TransactionControl
  committed : List TransactionId
  rolledBack : List TransactionId

def Journal.statistics (j : Journal) : Journal.Statistics where
  acquired := Journal.acquired j
  released := Journal.released j
  dataStatements := Journal.dataStatements j
  schemaStatements := Journal.schemaStatements j
  begins := Journal.begins j
  eventsEmitted := Journal.eventsEmitted j
  streamsCompleted := Journal.streamsCompleted j
  requests := Journal.requests j
  statements := Journal.statements j
  controls := Journal.controls j
  committed := Journal.committed j
  rolledBack := Journal.rolledBack j

/-- The entries that calls have added, in their order. -/
def Journal.asOfCalls (j : Journal) : Journal := j.filter fun entry => !entry.isStreamWork

/-- Journals with the same entries, those of calls in the same order. -/
structure Journal.Alike (j j' : Journal) : Prop where
  perm : j.Perm j'
  calls : Journal.asOfCalls j = Journal.asOfCalls j'

theorem Journal.asOfCalls_append (j entries : Journal) :
    Journal.asOfCalls (j ++ entries) = Journal.asOfCalls j ++ Journal.asOfCalls entries :=
  List.filter_append ..

/-- Nothing of what streams add is of calls, so two journals may differ in it and still say the same
of the calls. -/
theorem Journal.asOfCalls_of_streamWork {entries : Journal}
    (work : ∀ entry ∈ entries, entry.isStreamWork = true) : Journal.asOfCalls entries = [] := by
  rw [Journal.asOfCalls, List.filter_eq_nil_iff]
  intro entry among
  rw [work entry among]
  decide

/-- Work of streams leaves what the journal says of calls as it is. -/
theorem Backend.StreamWork.asOfCalls {b b' : Backend} (work : b.StreamWork b') :
    Journal.asOfCalls b'.journal = Journal.asOfCalls b.journal := by
  obtain ⟨entries, added, own⟩ := work.journal
  rw [added, Journal.asOfCalls_append, Journal.asOfCalls_of_streamWork own, List.append_nil]

theorem Backend.StreamWork.dataStatements {b b' : Backend} (work : b.StreamWork b') :
    Journal.dataStatements b'.journal = Journal.dataStatements b.journal := by
  obtain ⟨entries, added, own⟩ := work.journal
  rw [added, Journal.dataStatements, List.countP_append, Journal.dataStatements, Nat.add_eq_left,
    List.countP_eq_zero]
  intro entry among
  have work := own entry among
  cases entry <;> first | exact Bool.false_ne_true | cases work

namespace Journal.Alike

variable {j j' : Journal}

/-- What is added to both journals leaves them alike. -/
theorem append (h : Journal.Alike j j') (entries : Journal) :
    Journal.Alike (j ++ entries) (j' ++ entries) where
  perm := h.perm.append_right entries
  calls := by rw [asOfCalls_append, asOfCalls_append, h.calls]

/-- What only calls have added is read off in the same order from journals that are alike, since
they differ in the entries of streams alone. -/
theorem filterMap_eq {α : Type} (h : Journal.Alike j j') (read : Entry → Option α)
    (skips : ∀ entry, entry.isStreamWork = true → read entry = none) :
    j.filterMap read = j'.filterMap read := by
  have calls : ∀ j : Journal, j.filterMap read = (Journal.asOfCalls j).filterMap read := by
    intro j
    rw [Journal.asOfCalls, List.filterMap_filter]
    refine List.filterMap_congr fun entry _ => ?_
    cases work : entry.isStreamWork with
    | true => exact skips entry work
    | false => rfl
  rw [calls j, calls j', h.calls]

/-- All counts of a journal are the same for journals that are alike, as they have the same entries.
-/
theorem statistics (h : Journal.Alike j j') : Journal.statistics j = Journal.statistics j' := by
  have count := fun p : Entry → Bool => h.perm.countP_eq p
  have read : ∀ {α : Type} (f : Entry → Option α),
      (∀ entry, entry.isStreamWork = true → f entry = none) → j.filterMap f = j'.filterMap f :=
    fun f skips => h.filterMap_eq f skips
  simp only [Journal.statistics, Statistics.mk.injEq]
  refine ⟨count _, count _, count _, count _, count _, count _, count _, read _ ?_, read _ ?_,
    read _ ?_, read _ ?_, read _ ?_⟩ <;>
  · intro entry work
    cases entry <;> first | rfl | cases work

end Journal.Alike

end SqlDriver
