import Mathlib.Data.List.Perm.Basic
import Mathlib.Data.List.Nodup
import SqlDriver.Connection.Transaction

/-!
The transactions that a journal says were ended, and those that are still open. An identifier is
issued once and ended at most once: the ended and the open transactions are all different, because a
new one has a serial number that none of them has, and one that is ended moves from the open ones to
the ended ones.
-/

namespace SqlDriver

/-- How an entry says that a transaction was ended, and which one. -/
def Entry.ending? : Entry → Option (Ending × TransactionId)
  | .committed _ transaction => some (.commit, transaction)
  | .rolledBack _ transaction => some (.rollback, transaction)
  | _ => none

/-- The transactions that were ended by request, in order. -/
def Journal.endings (j : Journal) : List (Ending × TransactionId) := j.filterMap Entry.ending?

/-- Of some ended transactions, those that were ended in one way. -/
def Ending.select (ending : Ending) (endings : List (Ending × TransactionId)) :
    List TransactionId :=
  (endings.filter fun ended => ended.1 = ending).map Prod.snd

theorem Ending.select_append (ending : Ending) (front back : List (Ending × TransactionId)) :
    ending.select (front ++ back) = ending.select front ++ ending.select back := by
  rw [Ending.select, List.filter_append, List.map_append]
  rfl

theorem Journal.endings_append (j entries : Journal) :
    Journal.endings (j ++ entries) = Journal.endings j ++ Journal.endings entries :=
  List.filterMap_append

theorem Journal.issued_append (j entries : Journal) :
    Journal.issued (j ++ entries) = Journal.issued j + Journal.issued entries :=
  List.countP_append

theorem Journal.committed_eq (j : Journal) :
    Journal.committed j = Ending.commit.select (Journal.endings j) := by
  induction j with
  | nil => rfl
  | cons entry rest ih =>
    rw [Journal.committed, List.filterMap_cons, Journal.endings, List.filterMap_cons]
    cases entry with
    | committed session transaction => exact congrArg (transaction :: ·) ih
    | _ => exact ih

theorem Journal.rolledBack_eq (j : Journal) :
    Journal.rolledBack j = Ending.rollback.select (Journal.endings j) := by
  induction j with
  | nil => rfl
  | cons entry rest ih =>
    rw [Journal.rolledBack, List.filterMap_cons, Journal.endings, List.filterMap_cons]
    cases entry with
    | rolledBack session transaction => exact congrArg (transaction :: ·) ih
    | _ => exact ih

/-- Every ended transaction was ended in one of the two ways, so the two lists together have them
all. -/
theorem Ending.perm_select (endings : List (Ending × TransactionId)) :
    (Ending.commit.select endings ++ Ending.rollback.select endings).Perm
      (endings.map Prod.snd) := by
  induction endings with
  | nil => exact .refl _
  | cons ended rest ih =>
    obtain ⟨ending, transaction⟩ := ended
    cases ending with
    | commit => exact ih.cons transaction
    | rollback => exact List.perm_middle.trans (ih.cons transaction)

/-! ## Ended and open transactions -/

/-- The transactions that were ended and those that are open were all issued, and all are
different. -/
structure Journal.Distinct (j : Journal) (opened : List TransactionId) : Prop where
  nodup : ((Journal.endings j).map Prod.snd ++ opened).Nodup
  issued : ∀ transaction ∈ (Journal.endings j).map Prod.snd ++ opened,
    ∃ serial, serial < Journal.issued j ∧ transaction = .issued serial

namespace Journal.Distinct

variable {j j' : Journal} {opened opened' : List TransactionId} {transaction : TransactionId}

theorem empty : Journal.Distinct [] [] where
  nodup := List.nodup_nil
  issued := by intro transaction member; cases member

theorem perm (h : Journal.Distinct j opened) (same : opened.Perm opened') :
    Journal.Distinct j opened' where
  nodup := (same.append_left _).nodup_iff.mp h.nodup
  issued := fun transaction member =>
    h.issued transaction ((same.append_left _).mem_iff.mpr member)

/-- Some transactions are not open any more, and need not be kept apart from anything. -/
theorem sublist (h : Journal.Distinct j opened) (fewer : opened'.Sublist opened) :
    Journal.Distinct j opened' := by
  have fewer' := fewer.append_left ((Journal.endings j).map Prod.snd)
  exact ⟨h.nodup.sublist fewer', fun other member => h.issued other (fewer'.subset member)⟩

/-- One place of several where a transaction may be open changes. The others are whatever they are,
which is why the change must allow for any others. -/
theorem replace {α : Type} {transaction? : α → Option TransactionId} {places : List α}
    (h : Journal.Distinct j (places.filterMap transaction?)) {place : Nat} {old new : α}
    (found : places[place]? = some old)
    (changes : ∀ others, Journal.Distinct j ((transaction? old).toList ++ others) →
      Journal.Distinct j' ((transaction? new).toList ++ others)) :
    Journal.Distinct j' ((places.set place new).filterMap transaction?) := by
  obtain ⟨inside, rfl⟩ := List.getElem?_eq_some_iff.mp found
  have split : ∀ {places : List α} (inside : place < places.length),
      (places.filterMap transaction?).Perm ((transaction? places[place]).toList ++
        (places.eraseIdx place).filterMap transaction?) := by
    intro places inside
    have moved := (List.getElem_cons_eraseIdx_perm inside).symm.filterMap transaction?
    rw [List.filterMap_cons] at moved
    cases here : transaction? places[place] <;> rwa [here] at moved
  have inside' : place < (places.set place new).length := by rwa [List.length_set]
  have moved := split inside'
  rw [List.getElem_set_self, List.eraseIdx_set_eq] at moved
  exact (changes _ (h.perm (split inside))).perm moved.symm

/-- Where nothing is ended, and no number is taken back, ended and open transactions stay apart. -/
theorem keep (h : Journal.Distinct j opened) (same : Journal.endings j' = Journal.endings j)
    (more : Journal.issued j ≤ Journal.issued j') : Journal.Distinct j' opened where
  nodup := by
    rw [same]
    exact h.nodup
  issued := by
    rw [same]
    intro transaction member
    obtain ⟨serial, old, rfl⟩ := h.issued transaction member
    exact ⟨serial, Nat.lt_of_lt_of_le old more, rfl⟩

/-- A transaction that was issued since is none of the others, because its number is. -/
theorem opens (h : Journal.Distinct j opened) (same : Journal.endings j' = Journal.endings j)
    {serial : Nat} (new : Journal.issued j ≤ serial) (issued : serial < Journal.issued j') :
    Journal.Distinct j' (.issued serial :: opened) := by
  have kept := h.keep same (by omega)
  constructor
  · rw [List.nodup_middle, List.nodup_cons]
    refine ⟨fun member => ?_, kept.nodup⟩
    rw [same] at member
    obtain ⟨other, old, equal⟩ := h.issued _ member
    cases equal
    omega
  · intro transaction member
    rcases List.mem_cons.mp (List.perm_middle.mem_iff.mp member) with rfl | member
    · exact ⟨serial, issued, rfl⟩
    · exact kept.issued transaction member

/-- A transaction that was open is ended: it goes over from those that are open to those that were
ended, and was not among these before. -/
theorem ends (h : Journal.Distinct j (transaction :: opened)) {ending : Ending}
    (ended : Journal.endings j' = Journal.endings j ++ [(ending, transaction)])
    (more : Journal.issued j ≤ Journal.issued j') : Journal.Distinct j' opened := by
  have moved : (Journal.endings j').map Prod.snd ++ opened =
      (Journal.endings j).map Prod.snd ++ transaction :: opened := by
    rw [ended, List.map_append, List.append_assoc]
    rfl
  constructor
  · rw [moved]
    exact h.nodup
  · rw [moved]
    intro other member
    obtain ⟨serial, old, rfl⟩ := h.issued other member
    exact ⟨serial, Nat.lt_of_lt_of_le old more, rfl⟩

/-- No transaction was ended twice, neither in one way nor in both. -/
theorem nodup_endings (h : Journal.Distinct j opened) :
    (Journal.committed j ++ Journal.rolledBack j).Nodup := by
  rw [Journal.committed_eq, Journal.rolledBack_eq, (Ending.perm_select _).nodup_iff]
  exact (List.nodup_append.mp h.nodup).1

end Journal.Distinct

end SqlDriver
