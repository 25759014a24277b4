import Mathlib.Data.List.Nodup
import Mathlib.Data.List.Range
import SqlDriver.Proofs.Journal.Endings

/-!
The modes in which transactions were begun. A transaction is begun by a request or by a statement
that leaves it open, and it is given the next identifier in either case. So the transactions stand
in the journal in the order of their identifiers, and each was begun once, in one mode.
-/

namespace SqlDriver

/-- The transaction that an entry says was begun, and its mode. -/
def Entry.opening? : Entry → Option (TransactionId × TransactionMode)
  | .begun _ transaction mode => some (transaction, mode)
  | .accepted _ _ (.start mode _) (some transaction) => some (transaction, mode)
  | _ => none

/-- The transactions that were begun, with their modes, in order. -/
def Journal.openings (j : Journal) : List (TransactionId × TransactionMode) :=
  j.filterMap Entry.opening?

theorem Journal.openings_append (j entries : Journal) :
    Journal.openings (j ++ entries) = Journal.openings j ++ Journal.openings entries :=
  List.filterMap_append

theorem Journal.controls_append (j entries : Journal) :
    Journal.controls (j ++ entries) = Journal.controls j ++ Journal.controls entries :=
  List.filterMap_append

/-- The transactions that were begun are those whose identifiers were issued, in their order. -/
def Journal.Numbered (j : Journal) : Prop :=
  (Journal.openings j).map Prod.fst = (List.range (Journal.issued j)).map TransactionId.issued

namespace Journal.Numbered

variable {j : Journal}

theorem empty : Journal.Numbered [] := rfl

/-- No transaction was begun twice, since each has the number of those that were issued before it.
-/
theorem nodup (numbered : Journal.Numbered j) : ((Journal.openings j).map Prod.fst).Nodup := by
  rw [numbered]
  exact List.nodup_range.map fun serial serial' same => TransactionId.issued.inj same

/-- Each transaction was begun in one mode, as it was begun once. -/
theorem unique (numbered : Journal.Numbered j) {transaction : TransactionId}
    {mode mode' : TransactionMode} (begun : (transaction, mode) ∈ Journal.openings j)
    (begun' : (transaction, mode') ∈ Journal.openings j) : mode' = mode :=
  congrArg Prod.snd (List.inj_on_of_nodup_map numbered.nodup begun' begun rfl)

/-- Entries by which no transaction is begun, and for which no number is issued, leave the numbering
as it is. -/
theorem append_plain (numbered : Journal.Numbered j) {entries : Journal}
    (begins : ∀ entry ∈ entries, entry.opening? = none)
    (issues : ∀ entry ∈ entries, entry.issues = false) : Journal.Numbered (j ++ entries) := by
  have openings : Journal.openings entries = [] := List.filterMap_eq_nil_iff.mpr begins
  have issued : Journal.issued entries = 0 := by
    rw [Journal.issued, List.countP_eq_zero]
    intro entry member
    rw [issues entry member]
    exact Bool.false_ne_true
  rw [Journal.Numbered, Journal.openings_append, Journal.issued_append, openings, issued,
    List.append_nil]
  exact numbered

/-- An entry by which the next transaction is begun carries the numbering on. -/
theorem append_opening (numbered : Journal.Numbered j) {entry : Entry} {mode : TransactionMode}
    (begins : entry.opening? = some (.issued (Journal.issued j), mode))
    (issues : entry.issues = true) : Journal.Numbered (j ++ [entry]) := by
  have openings : Journal.openings [entry] = [(.issued (Journal.issued j), mode)] :=
    List.filterMap_cons_some begins
  have issued : Journal.issued [entry] = 1 := by
    rw [Journal.issued, List.countP_singleton, issues]
    rfl
  rw [Journal.Numbered, Journal.openings_append, Journal.issued_append, openings, issued,
    List.map_append, numbered, List.range_succ, List.map_append]
  rfl

end Journal.Numbered

end SqlDriver
