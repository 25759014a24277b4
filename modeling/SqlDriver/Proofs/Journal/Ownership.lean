import Mathlib.Data.List.Pairwise
import SqlDriver.Proofs.Journal.Openings

/-!
Where a journal says a transaction is open. A transaction is open on the session that it was begun
on, until something settles what is open there: it is ended by request or by a statement that runs
in it, or the session goes over to another one. A journal is in order if whatever was carried out in
a transaction was carried out while it was open, on its session.
-/

namespace SqlDriver

/-- The transaction that an entry says was begun on a session and left open there. -/
def Entry.opens? (session : Nat) : Entry → Option TransactionId
  | .begun on transaction _ => if on = session then some transaction else none
  | .accepted on _ (.start _ _) opened => if on = session then opened else none
  | _ => none

/-- Whether nothing that was open on a session before an entry is open after it. A statement that
starts a transaction takes the session over even if that is committed with it. -/
def Entry.settles (session : Nat) : Entry → Bool
  | .begun on _ _ => on = session
  | .accepted on _ (.start _ _) _ => on = session
  | .accepted on _ (.resume _ commit) _ => on = session && commit
  | .committed on _ => on = session
  | .rolledBack on _ => on = session
  | _ => false

/-- The session and the transaction of a request that was carried out in a transaction named by it:
to run a statement there, or to end it. -/
def Entry.resumes? : Entry → Option (Nat × TransactionId)
  | .accepted on _ (.resume transaction _) _ => some (on, transaction)
  | .committed on transaction => some (on, transaction)
  | .rolledBack on transaction => some (on, transaction)
  | _ => none

/-- Whether an entry has to do with transactions. -/
def Entry.isTransactional : Entry → Bool
  | .accepted _ _ _ _ => true
  | .begun _ _ _ => true
  | .committed _ _ => true
  | .rolledBack _ _ => true
  | _ => false

/-- The session that an entry with a transaction is about. -/
def Entry.on? : Entry → Option Nat
  | .accepted on _ _ _ => some on
  | .begun on _ _ => some on
  | .committed on _ => some on
  | .rolledBack on _ => some on
  | _ => none

/-- A transaction is open on a session: it was begun there, and nothing has settled it since. -/
def Journal.OpenOn (j : Journal) (session : Nat) (transaction : TransactionId) : Prop :=
  ∃ front opening later, j = front ++ opening :: later ∧
    opening.opens? session = some transaction ∧ ∀ entry ∈ later, entry.settles session = false

/-- Whatever was carried out in a transaction was carried out while it was open, on its session. -/
def Journal.Orderly (j : Journal) : Prop :=
  ∀ front entry later, j = front ++ entry :: later → ∀ session transaction,
    entry.resumes? = some (session, transaction) → Journal.OpenOn front session transaction

/-! ## Single entries -/

/-- An entry about one session leaves what is open on the others alone. -/
theorem Entry.opens?_of_ne {entry : Entry} {session other : Nat} (on : entry.on? = some session)
    (apart : session ≠ other) : entry.opens? other = none ∧ entry.settles other = false := by
  cases entry with
  | begun on' transaction mode =>
    cases on
    exact ⟨if_neg apart, decide_eq_false apart⟩
  | accepted on' text control opened =>
    cases on
    cases control with
    | start mode commit => exact ⟨if_neg apart, decide_eq_false apart⟩
    | resume transaction commit =>
      refine ⟨rfl, ?_⟩
      rw [Entry.settles, decide_eq_false apart]
      rfl
  | committed on' transaction =>
    cases on
    exact ⟨rfl, decide_eq_false apart⟩
  | rolledBack on' transaction =>
    cases on
    exact ⟨rfl, decide_eq_false apart⟩
  | _ => cases on

/-- An entry that has nothing to do with transactions opens, settles and names none, on whatever
session. -/
theorem Entry.plain {entry : Entry} (plain : entry.isTransactional = false) :
    entry.opening? = none ∧ entry.issues = false ∧ entry.ending? = none ∧
      entry.resumes? = none ∧ ∀ session, entry.opens? session = none ∧
        entry.settles session = false := by
  cases entry <;>
    first
    | exact ⟨rfl, rfl, rfl, rfl, fun session => ⟨rfl, rfl⟩⟩
    | cases plain

theorem Entry.opens?_mem_opening {entry : Entry} {session : Nat} {transaction : TransactionId}
    (opens : entry.opens? session = some transaction) :
    entry.on? = some session ∧ ∃ mode, entry.opening? = some (transaction, mode) := by
  cases entry with
  | begun on other mode =>
    obtain ⟨rfl, same⟩ := Option.ite_none_right_eq_some.mp opens
    cases same
    exact ⟨rfl, mode, rfl⟩
  | accepted on text control opened =>
    cases control with
    | start mode commit =>
      obtain ⟨rfl, rfl⟩ := Option.ite_none_right_eq_some.mp opens
      exact ⟨rfl, mode, rfl⟩
    | resume other commit => cases opens
  | _ => cases opens

/-! ## One more entry -/

section

variable {j : Journal} {entry : Entry} {session : Nat} {transaction : TransactionId}

/-- After one more entry a transaction is open on a session if the entry opens it there, or if it
was open and the entry does not settle it. All that is said of open transactions is shown by this.
-/
theorem Journal.openOn_concat : Journal.OpenOn (j ++ [entry]) session transaction ↔
    entry.opens? session = some transaction ∨
      Journal.OpenOn j session transaction ∧ entry.settles session = false := by
  constructor
  · rintro ⟨front, opening, later, whole, opens, unsettled⟩
    rcases List.eq_nil_or_concat later with rfl | ⟨later, last, rfl⟩
    · obtain ⟨-, same⟩ := List.append_inj' whole rfl
      cases same
      exact Or.inl opens
    · rw [List.concat_eq_append, ← List.cons_append, ← List.append_assoc] at whole
      obtain ⟨rfl, same⟩ := List.append_inj' whole rfl
      cases same
      rw [List.concat_eq_append] at unsettled
      exact Or.inr ⟨⟨front, opening, later, rfl, opens, fun other member =>
        unsettled other (List.mem_append_left _ member)⟩,
        unsettled entry (List.mem_append_right _ List.mem_cons_self)⟩
  · rintro (opens | ⟨⟨front, opening, later, rfl, opens, unsettled⟩, still⟩)
    · exact ⟨j, entry, [], rfl, opens, fun other member => by cases member⟩
    · refine ⟨front, opening, later ++ [entry], by rw [List.append_assoc]; rfl, opens, ?_⟩
      intro other member
      rcases List.mem_append.mp member with member | member
      · exact unsettled other member
      · rwa [List.mem_singleton.mp member]

theorem Journal.not_openOn_nil : ¬ Journal.OpenOn [] session transaction := by
  rintro ⟨front, opening, later, whole, -⟩
  cases front <;> cases whole

theorem Journal.Orderly.nil : Journal.Orderly [] := by
  intro front entry later whole
  cases front <;> cases whole

/-- An orderly journal stays so when an entry names a transaction that is open on its session. -/
theorem Journal.Orderly.concat (orderly : Journal.Orderly j)
    (opened : ∀ session transaction, entry.resumes? = some (session, transaction) →
      Journal.OpenOn j session transaction) : Journal.Orderly (j ++ [entry]) := by
  intro front other later whole session transaction resumes
  rcases List.eq_nil_or_concat later with rfl | ⟨later, last, rfl⟩
  · obtain ⟨rfl, same⟩ := List.append_inj' whole rfl
    cases same
    exact opened session transaction resumes
  · rw [List.concat_eq_append, ← List.cons_append, ← List.append_assoc] at whole
    obtain ⟨rfl, -⟩ := List.append_inj' whole rfl
    exact orderly front other later rfl session transaction resumes

end

section

variable {j entries : Journal}

/-- Entries that have nothing to do with transactions leave open what is open. -/
theorem Journal.openOn_append_plain (plain : ∀ entry ∈ entries, entry.isTransactional = false)
    (session : Nat) (transaction : TransactionId) :
    Journal.OpenOn (j ++ entries) session transaction ↔ Journal.OpenOn j session transaction := by
  induction entries using List.reverseRecOn with
  | nil => rw [List.append_nil]
  | append_singleton entries entry ih =>
    have before := ih fun other member => plain other (List.mem_append_left _ member)
    obtain ⟨-, -, -, -, silent⟩ :=
      Entry.plain (plain entry (List.mem_append_right _ List.mem_cons_self))
    obtain ⟨opens, settles⟩ := silent session
    rw [← List.append_assoc, Journal.openOn_concat, opens, settles, before]
    simp

theorem Journal.Orderly.append_plain (orderly : Journal.Orderly j)
    (plain : ∀ entry ∈ entries, entry.isTransactional = false) :
    Journal.Orderly (j ++ entries) := by
  induction entries using List.reverseRecOn with
  | nil => rwa [List.append_nil]
  | append_singleton entries entry ih =>
    obtain ⟨-, -, -, names, -⟩ :=
      Entry.plain (plain entry (List.mem_append_right _ List.mem_cons_self))
    rw [← List.append_assoc]
    refine (ih fun other member => plain other (List.mem_append_left _ member)).concat ?_
    intro session transaction resumes
    rw [names] at resumes
    cases resumes

/-! ## What was begun -/

variable {session session' : Nat} {transaction : TransactionId}

/-- What is open on a session was begun there, by an entry that is in the journal. -/
theorem Journal.OpenOn.begun (opened : Journal.OpenOn j session transaction) :
    ∃ entry ∈ j, entry.opens? session = some transaction := by
  obtain ⟨front, opening, later, rfl, opens, -⟩ := opened
  exact ⟨opening, List.mem_append_right _ List.mem_cons_self, opens⟩

theorem Journal.mem_openings_of_opens? {entry : Entry} (member : entry ∈ j)
    (opens : entry.opens? session = some transaction) :
    transaction ∈ (Journal.openings j).map Prod.fst := by
  obtain ⟨-, mode, opening⟩ := Entry.opens?_mem_opening opens
  exact List.mem_map.mpr ⟨(transaction, mode), List.mem_filterMap.mpr ⟨entry, member, opening⟩, rfl⟩

/-- No transaction is begun on two sessions, since no transaction is begun twice. -/
theorem Journal.Numbered.session_unique (numbered : Journal.Numbered j) {entry entry' : Entry}
    (member : entry ∈ j) (opens : entry.opens? session = some transaction) (member' : entry' ∈ j)
    (opens' : entry'.opens? session' = some transaction) : session' = session := by
  obtain ⟨on, mode, opening⟩ := Entry.opens?_mem_opening opens
  obtain ⟨on', mode', opening'⟩ := Entry.opens?_mem_opening opens'
  have nodup := numbered.nodup
  rw [Journal.openings, List.map_filterMap, List.Nodup, List.pairwise_filterMap] at nodup
  have symm : Std.Symm fun first second : Entry => ∀ begun,
      first.opening?.map Prod.fst = some begun → ∀ begun',
        second.opening?.map Prod.fst = some begun' → begun ≠ begun' :=
    ⟨fun first second apart begun found begun' found' same =>
      apart begun' found' begun found same.symm⟩
  have same : entry' = entry := by
    by_contra apart
    refine nodup.forall member' member apart transaction ?_ transaction ?_ rfl
    · rw [opening']
      rfl
    · rw [opening]
      rfl
  rw [same, on] at on'
  exact (Option.some.inj on').symm

/-- In an orderly journal what was ended was begun before, so nothing is committed or rolled back
that was never issued. -/
theorem Journal.Orderly.mem_openings (orderly : Journal.Orderly j)
    (ended : transaction ∈ Journal.committed j ++ Journal.rolledBack j) :
    transaction ∈ (Journal.openings j).map Prod.fst := by
  have resumed : ∃ entry ∈ j, ∃ session, entry.resumes? = some (session, transaction) := by
    rcases List.mem_append.mp ended with ended | ended
    all_goals
      obtain ⟨entry, member, same⟩ := List.mem_filterMap.mp ended
      refine ⟨entry, member, ?_⟩
      cases entry <;> cases same
      exact ⟨_, rfl⟩
  obtain ⟨entry, member, session, resumes⟩ := resumed
  obtain ⟨front, later, rfl⟩ := List.append_of_mem member
  have opened := orderly front entry later rfl session transaction resumes
  obtain ⟨opening, earlier, opens⟩ := opened.begun
  exact Journal.mem_openings_of_opens? (List.mem_append_left _ earlier) opens

end

end SqlDriver
