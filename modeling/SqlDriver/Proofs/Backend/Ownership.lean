import SqlDriver.Proofs.Backend.Rosters
import SqlDriver.Proofs.Journal.Ownership

/-!
Transactions at a backend belong to the session that they were begun on. In every run, whatever is
asked of whichever session, a call that names a transaction is carried out only while the journal
says that the transaction is open on the session of the call. So what was ended, replaced or begun
elsewhere is never taken up again, and no transaction is ended twice.
-/

namespace SqlDriver

/-- The transactions that are open on sessions, in order of their places. -/
def Roster.openTransactions (sessions : List (Option Session)) : List TransactionId :=
  sessions.filterMap fun slot => slot.bind Session.openTransaction

/-- Sessions are what a journal says of them: they are numbered by their places, and have open what
the journal says is open there. -/
structure Roster.InOrder (sessions : List (Option Session)) (j : Journal) : Prop where
  numbered : ∀ (place : Nat) (s : Session), sessions[place]? = some (some s) → s.number = place + 1
  length : sessions.length = Journal.acquired j
  openOn : ∀ (place : Nat) (s : Session), sessions[place]? = some (some s) → ∀ transaction,
    s.openTransaction = some transaction ↔ Journal.OpenOn j s.number transaction
  /-- Nothing is open yet on a session to come. -/
  bounded : ∀ session transaction, Journal.OpenOn j session transaction →
    session ≤ Journal.acquired j
  distinct : Journal.Distinct j (Roster.openTransactions sessions)
  openings : Journal.Numbered j
  orderly : Journal.Orderly j

theorem Journal.acquired_entries (j entries : Journal) :
    Journal.acquired (j ++ entries) = Journal.acquired j + Journal.acquired entries :=
  List.countP_append

theorem Journal.Distinct.append_plain {j entries : Journal} {opened : List TransactionId}
    (h : Journal.Distinct j opened) (unended : ∀ entry ∈ entries, entry.ending? = none) :
    Journal.Distinct (j ++ entries) opened := by
  refine h.keep ?_ ?_
  · rw [Journal.endings_append, Journal.endings, Journal.endings,
      List.filterMap_eq_nil_iff.mpr unended, List.append_nil]
  · rw [Journal.issued_append]
    exact Nat.le_add_right _ _

namespace Roster.InOrder

variable {sessions : List (Option Session)} {j : Journal}

theorem empty : Roster.InOrder [] [] where
  numbered := by intro place s found; cases found
  length := rfl
  openOn := by intro place s found; cases found
  bounded := fun session transaction opened => (Journal.not_openOn_nil opened).elim
  distinct := .empty
  openings := .empty
  orderly := .nil

/-- Entries that are about no transaction, and by which no session is handed out, change nothing
about which session a transaction is open on. -/
theorem append_plain (h : Roster.InOrder sessions j) {entries : Journal}
    (plain : ∀ entry ∈ entries, entry.isTransactional = false)
    (unacquired : ∀ entry ∈ entries, entry.isAcquired = false) :
    Roster.InOrder sessions (j ++ entries) := by
  have none : Journal.acquired entries = 0 := by
    refine List.countP_eq_zero.mpr fun entry member => ?_
    rw [unacquired entry member]
    exact Bool.false_ne_true
  have same : Journal.acquired (j ++ entries) = Journal.acquired j := by
    rw [Journal.acquired_entries, none, Nat.add_zero]
  constructor
  case numbered => exact h.numbered
  case length => exact h.length.trans same.symm
  case openOn =>
    intro place s found transaction
    rw [Journal.openOn_append_plain plain]
    exact h.openOn place s found transaction
  case bounded =>
    intro session transaction opened
    rw [same]
    exact h.bounded session transaction ((Journal.openOn_append_plain plain _ _).mp opened)
  case distinct =>
    exact h.distinct.append_plain fun entry member => (Entry.plain (plain entry member)).2.2.1
  case openings =>
    exact h.openings.append_plain (fun entry member => (Entry.plain (plain entry member)).1)
      fun entry member => (Entry.plain (plain entry member)).2.1
  case orderly => exact h.orderly.append_plain plain

theorem streamWork (h : Roster.InOrder sessions j) {b b' : Backend} (journal : b.journal = j)
    (work : b.StreamWork b') : Roster.InOrder sessions b'.journal := by
  obtain ⟨entries, added, own⟩ := work.journal
  rw [added, journal]
  refine h.append_plain (fun entry member => ?_) fun entry member => ?_
  all_goals
    have stream := own entry member
    cases entry <;> first | rfl | cases stream

/-- A request is noted before it is answered, and says nothing about transactions. -/
theorem requests (h : Roster.InOrder sessions j) {b b' : Backend} {call : CallKind}
    {session : Option Nat} {deadline : Duration} {answer : Except BackendError Unit}
    (journal : b.journal = j) (requested : b.Requests call session deadline (answer, b')) :
    Roster.InOrder sessions b'.journal := by
  have added : b'.journal = j ++ [.requested call session deadline] := by
    rw [← journal]
    cases requested <;> rfl
  rw [added]
  exact h.append_plain (List.forall_mem_singleton.mpr rfl) (List.forall_mem_singleton.mpr rfl)

/-- A session is given back. The transaction that is open on it is not ended by that, but can not be
named by a call any more, since no call reaches the session. -/
theorem release (h : Roster.InOrder sessions j) (place : Nat) :
    Roster.InOrder (sessions.set place none) j := by
  have kept : ∀ {other : Nat} {s : Session}, (sessions.set place none)[other]? = some (some s) →
      sessions[other]? = some (some s) := by
    intro other s found
    by_cases here : place = other
    · subst here
      rw [List.getElem?_set_self'] at found
      cases slot : sessions[place]? with
      | none => rw [slot] at found; cases found
      | some old => rw [slot] at found; cases found
    · rwa [List.getElem?_set_ne here] at found
  constructor
  case numbered => exact fun other s found => h.numbered other s (kept found)
  case length => exact (List.length_set ..).trans h.length
  case openOn => exact fun other s found => h.openOn other s (kept found)
  case bounded => exact h.bounded
  case distinct =>
    cases found : sessions[place]? with
    | none =>
      rw [List.set_eq_of_length_le (List.getElem?_eq_none_iff.mp found)]
      exact h.distinct
    | some slot =>
      exact Journal.Distinct.replace h.distinct found fun others before =>
        before.sublist (List.sublist_append_right _ _)
  case openings => exact h.openings
  case orderly => exact h.orderly

/-- A session is handed out, with the number that follows those before it and nothing open on it. -/
theorem acquire (h : Roster.InOrder sessions j) :
    Roster.InOrder (sessions ++ [some ⟨Journal.acquired j + 1, none⟩])
      (j ++ [.acquired (Journal.acquired j + 1)]) := by
  have plain : ∀ entry ∈ [Entry.acquired (Journal.acquired j + 1)],
      entry.isTransactional = false := List.forall_mem_singleton.mpr rfl
  have one_more : Journal.acquired (j ++ [.acquired (Journal.acquired j + 1)]) =
      Journal.acquired j + 1 := by
    rw [Journal.acquired_entries]
    rfl
  have known : ∀ {place : Nat} {s : Session},
      (sessions ++ [some ⟨Journal.acquired j + 1, none⟩])[place]? = some (some s) →
      sessions[place]? = some (some s) ∨
        place = sessions.length ∧ s = ⟨Journal.acquired j + 1, none⟩ := by
    intro place s found
    rcases Nat.lt_or_ge place sessions.length with inside | beyond
    · rw [List.getElem?_append_left inside] at found
      exact Or.inl found
    · rw [List.getElem?_append_right beyond, List.getElem?_singleton] at found
      split at found
      · cases found
        exact Or.inr ⟨by omega, rfl⟩
      · cases found
  constructor
  case numbered =>
    intro place s found
    rcases known found with old | ⟨rfl, rfl⟩
    · exact h.numbered place s old
    · rw [h.length]
  case length =>
    rw [List.length_append, h.length, one_more]
    rfl
  case openOn =>
    intro place s found transaction
    rw [Journal.openOn_append_plain plain]
    rcases known found with old | ⟨rfl, rfl⟩
    · exact h.openOn place s old transaction
    · exact ⟨nofun, fun opened => absurd (h.bounded _ _ opened) (Nat.not_succ_le_self _)⟩
  case bounded =>
    intro session transaction opened
    rw [one_more]
    exact Nat.le_succ_of_le
      (h.bounded session transaction ((Journal.openOn_append_plain plain _ _).mp opened))
  case distinct =>
    rw [Roster.openTransactions, List.filterMap_append]
    change Journal.Distinct _ (Roster.openTransactions sessions ++ [])
    rw [List.append_nil]
    exact h.distinct.append_plain (List.forall_mem_singleton.mpr rfl)
  case openings =>
    exact h.openings.append_plain (List.forall_mem_singleton.mpr rfl)
      (List.forall_mem_singleton.mpr rfl)
  case orderly => exact h.orderly.append_plain plain

/-- What is open on a session changes, by an entry about that session. -/
theorem change (h : Roster.InOrder sessions j) {place : Nat} {s : Session}
    {opened : Option TransactionId} {entry : Entry} (found : sessions[place]? = some (some s))
    (on : entry.on? = some s.number)
    (opens : ∀ transaction, opened = some transaction ↔
      entry.opens? s.number = some transaction ∨
        s.openTransaction = some transaction ∧ entry.settles s.number = false)
    (resumes : ∀ session transaction, entry.resumes? = some (session, transaction) →
      session = s.number ∧ s.openTransaction = some transaction)
    (distinct : ∀ others, Journal.Distinct j (s.openTransaction.toList ++ others) →
      Journal.Distinct (j ++ [entry]) (opened.toList ++ others))
    (openings : Journal.Numbered (j ++ [entry])) :
    Roster.InOrder (sessions.set place (some { s with openTransaction := opened }))
      (j ++ [entry]) := by
  have inside := (List.getElem?_eq_some_iff.mp found).1
  have same : Journal.acquired (j ++ [entry]) = Journal.acquired j := by
    rw [Journal.acquired_entries]
    cases entry <;> first | rfl | cases on
  have known : ∀ {other : Nat} {s' : Session},
      (sessions.set place (some { s with openTransaction := opened }))[other]? = some (some s') →
      other = place ∧ s' = { s with openTransaction := opened } ∨
        other ≠ place ∧ sessions[other]? = some (some s') := by
    intro other s' found'
    by_cases here : place = other
    · subst here
      rw [List.getElem?_set_self inside] at found'
      cases found'
      exact Or.inl ⟨rfl, rfl⟩
    · rw [List.getElem?_set_ne here] at found'
      exact Or.inr ⟨fun there => here there.symm, found'⟩
  constructor
  case numbered =>
    intro other s' found'
    rcases known found' with ⟨rfl, rfl⟩ | ⟨-, old⟩
    · exact h.numbered other s found
    · exact h.numbered other s' old
  case length => exact (List.length_set ..).trans (h.length.trans same.symm)
  case openOn =>
    intro other s' found' transaction
    rw [Journal.openOn_concat]
    rcases known found' with ⟨rfl, rfl⟩ | ⟨elsewhere, old⟩
    · dsimp only
      rw [opens, h.openOn other s found]
    · have apart : s.number ≠ s'.number := by
        rw [h.numbered place s found, h.numbered other s' old]
        omega
      obtain ⟨unopened, unsettled⟩ := Entry.opens?_of_ne on apart
      rw [unopened, unsettled, h.openOn other s' old]
      simp
  case bounded =>
    intro session transaction opened'
    rw [same]
    rcases Journal.openOn_concat.mp opened' with opens' | ⟨before, -⟩
    · obtain ⟨on', -⟩ := Entry.opens?_mem_opening opens'
      rw [on] at on'
      cases on'
      rw [h.numbered place s found, ← h.length]
      exact inside
    · exact h.bounded session transaction before
  case distinct => exact Journal.Distinct.replace h.distinct found distinct
  case openings => exact openings
  case orderly =>
    refine h.orderly.concat fun session transaction names => ?_
    obtain ⟨rfl, here⟩ := resumes session transaction names
    exact (h.openOn place s found transaction).mp here

/-- A transaction is begun on a session, in place of one that is open. -/
theorem begins (h : Roster.InOrder sessions j) {place : Nat} {s : Session} {entry : Entry}
    {mode : TransactionMode} (found : sessions[place]? = some (some s))
    (on : entry.on? = some s.number)
    (opens : entry.opens? s.number = some (.issued (Journal.issued j)))
    (settles : entry.settles s.number = true)
    (begun : entry.opening? = some (.issued (Journal.issued j), mode))
    (issues : entry.issues = true) (resumes : entry.resumes? = none)
    (unended : entry.ending? = none) :
    Roster.InOrder
      (sessions.set place (some { s with openTransaction := some (.issued (Journal.issued j)) }))
      (j ++ [entry]) := by
  refine h.change found on ?_ ?_ ?_ (h.openings.append_opening begun issues)
  · intro transaction
    rw [opens, settles]
    simp
  · intro session transaction names
    rw [resumes] at names
    cases names
  · intro others before
    have endings : Journal.endings (j ++ [entry]) = Journal.endings j := by
      rw [Journal.endings_append, Journal.endings, Journal.endings,
        List.filterMap_eq_nil_iff.mpr (List.forall_mem_singleton.mpr unended), List.append_nil]
    have issued : Journal.issued (j ++ [entry]) = Journal.issued j + 1 := by
      rw [Journal.issued_append]
      exact congrArg (Journal.issued j + ·) (List.countP_eq_length.mpr
        (List.forall_mem_singleton.mpr issues))
    exact (before.sublist (List.sublist_append_right _ _)).opens endings (Nat.le_refl _)
      (by omega)

/-- A statement is accepted on a session. -/
theorem accepts (h : Roster.InOrder sessions j) {b : Backend} {place : Nat} {s : Session}
    {text : String} {control : TransactionControl} {opened : Option TransactionId}
    (journal : b.journal = j) (found : sessions[place]? = some (some s))
    (opens : s.opens b control = .ok opened) :
    Roster.InOrder (sessions.set place (some { s with openTransaction := opened }))
      (j ++ [.accepted s.number text control opened]) := by
  have unbegun : ∀ {control : TransactionControl} {opened : Option TransactionId},
      Entry.opening? (.accepted s.number text control opened) = none →
      Entry.issues (.accepted s.number text control opened) = false →
      Journal.Numbered (j ++ [.accepted s.number text control opened]) := fun begins issues =>
    h.openings.append_plain (List.forall_mem_singleton.mpr begins)
      (List.forall_mem_singleton.mpr issues)
  cases control with
  | start mode commit =>
    cases commit with
    | true =>
      cases opens
      refine h.change found rfl ?_ (fun session transaction names => by cases names) ?_
        (unbegun rfl rfl)
      · intro transaction
        simp [Entry.opens?, Entry.settles]
      · exact fun others before => (before.sublist (List.sublist_append_right _ _)).append_plain
          (List.forall_mem_singleton.mpr rfl)
    | false =>
      subst journal
      cases opens
      exact h.begins found rfl (if_pos rfl) (decide_eq_true rfl) rfl rfl rfl rfl
  | resume transaction commit =>
    obtain ⟨here, rfl⟩ := Session.opens_resume_eq_ok opens
    refine h.change found rfl ?_ ?_ ?_ (unbegun rfl rfl)
    · intro other
      rw [here]
      cases commit <;> simp [Entry.opens?, Entry.settles]
    · intro session other names
      cases names
      exact ⟨rfl, here⟩
    · intro others before
      rw [here] at before
      refine Journal.Distinct.append_plain ?_ (List.forall_mem_singleton.mpr rfl)
      cases commit with
      | true => exact before.sublist (List.sublist_append_right _ _)
      | false => exact before

/-- The transaction that is open on a session is ended. -/
theorem finishes (h : Roster.InOrder sessions j) {place : Nat} {s : Session} {ending : Ending}
    {transaction : TransactionId} (found : sessions[place]? = some (some s))
    (same : s.openTransaction = some transaction) :
    Roster.InOrder (sessions.set place (some { s with openTransaction := none }))
      (j ++ [ending.entry s.number transaction]) := by
  have on : (ending.entry s.number transaction).on? = some s.number := by cases ending <;> rfl
  have unbegun : ∀ other, (ending.entry s.number transaction).opens? other = none := by
    intro other
    cases ending <;> rfl
  have settles : (ending.entry s.number transaction).settles s.number = true := by
    cases ending <;> exact decide_eq_true rfl
  have ended : (ending.entry s.number transaction).ending? = some (ending, transaction) := by
    cases ending <;> rfl
  refine h.change found on ?_ ?_ ?_ (h.openings.append_plain ?_ ?_)
  · intro other
    rw [unbegun, settles]
    simp
  · intro session other names
    cases ending <;> cases names <;> exact ⟨rfl, same⟩
  · intro others before
    rw [same] at before
    have endings : Journal.endings (j ++ [ending.entry s.number transaction]) =
        Journal.endings j ++ [(ending, transaction)] := by
      rw [Journal.endings_append]
      exact congrArg (Journal.endings j ++ ·) (List.filterMap_cons_some ended)
    refine before.ends endings ?_
    rw [Journal.issued_append]
    exact Nat.le_add_right _ _
  · cases ending <;> exact List.forall_mem_singleton.mpr rfl
  · cases ending <;> exact List.forall_mem_singleton.mpr rfl

/-- Calls keep the sessions in order: what a call does to its session is what its entry says in the
journal. -/
theorem calls {r r' : Roster} {deadline : Duration} {call : Roster.Call}
    {answer : Except BackendError Roster.Answer} (h : Roster.InOrder r.sessions r.backend.journal)
    (calls : r.Calls deadline call (answer, r')) :
    Roster.InOrder r'.sessions r'.backend.journal := by
  cases calls with
  | refused error made requested => exact h.requests rfl requested
  | misplaced named held names requested other => exact h.requests rfl requested
  | done made requested carries =>
    have granted := h.requests rfl requested
    cases carries with
    | acquired => exact granted.acquire
    | started opened failure left held opens consulted =>
      exact granted.accepts rfl (Option.join_eq_some_iff.mp held) opens
    | schemaChanged held =>
      exact granted.append_plain (List.forall_mem_singleton.mpr rfl)
        (List.forall_mem_singleton.mpr rfl)
    | begun held =>
      exact granted.begins (Option.join_eq_some_iff.mp held) rfl (if_pos rfl) (decide_eq_true rfl)
        rfl rfl rfl rfl
    | finished held same => exact granted.finishes (Option.join_eq_some_iff.mp held) same

/-- A call that names a transaction is refused beforehand, or it is carried out and the transaction
is open on its session, or it is turned away and the transaction is not open there. -/
theorem resolves {r r' : Roster} {deadline : Duration} {call : Roster.Call}
    {answer : Except BackendError Roster.Answer} (h : Roster.InOrder r.sessions r.backend.journal)
    (calls : r.Calls deadline call (answer, r')) {place : Nat} {s : Session}
    {transaction : TransactionId} (named : call.place? = some place)
    (held : r.held place = some s) (names : call.transaction? = some transaction) :
    (∃ status, answer = .error ⟨status, .injected call.kind⟩) ∨
      (answer.isOk = true ∧ Journal.OpenOn r.backend.journal s.number transaction) ∨
        answer = .error ⟨.notFound, .noSuchTransaction transaction s.number⟩ ∧
          ¬ Journal.OpenOn r.backend.journal s.number transaction := by
  have openOn := h.openOn place s (Option.join_eq_some_iff.mp held) transaction
  rw [← openOn]
  cases calls with
  | refused error made requested =>
    obtain ⟨status, rfl⟩ := requested.injected
    exact Or.inl ⟨status, rfl⟩
  | misplaced named' held' names' requested other =>
    cases named.symm.trans named'
    cases held.symm.trans held'
    cases names.symm.trans names'
    exact Or.inr (Or.inr ⟨rfl, other⟩)
  | done made requested carries =>
    refine Or.inr (Or.inl ⟨rfl, ?_⟩)
    cases carries with
    | @started _ _ text control parameters opened failure left held' opens consulted =>
      cases named
      cases held.symm.trans held'
      cases control with
      | start mode commit => cases names
      | resume other commit =>
        cases names
        exact (Session.opens_resume_eq_ok opens).1
    | finished held' same =>
      cases named
      cases held.symm.trans held'
      cases names
      exact same
    | acquired => cases names
    | schemaChanged held' => cases names
    | begun held' => cases names

end Roster.InOrder

/-- After every run the sessions are what the journal says of them, by induction on the events. -/
theorem Roster.inOrder_run (events : List Roster.Event) :
    Roster.InOrder (Roster.run events).sessions (Roster.run events).backend.journal := by
  induction events using List.reverseRecOn with
  | nil => exact .empty
  | append_singleton events event ih =>
    have unreported := Roster.unreported_run events
    rw [Roster.run_concat]
    generalize Roster.run events = r at ih unreported
    cases event with
    | call call deadline =>
      rw [Roster.step]
      cases called : r.call deadline call with
      | none => exact ih
      | some result => exact ih.calls (Roster.calls unreported called)
    | release place =>
      have worked := ih.streamWork rfl (r.release_streamWork place)
      rw [Roster.step]
      rw [Roster.release] at worked ⊢
      cases held : r.held place with
      | none => exact ih
      | some session =>
        rw [held] at worked
        exact worked.release place
    | pull stream =>
      rw [Roster.step, Roster.sessions_pull]
      exact ih.streamWork rfl (r.pull_streamWork stream)
    | stir stir => exact ih.streamWork rfl (.stir r.backend stir)
    | inject call skip status => exact ih
    | setResultSets count => exact ih

/-- A transaction is resolved at most once, and on the session that it was begun on. A call that
names one is carried out exactly if it is the one that was begun last on the session of the call and
was not ended, committed by a statement or replaced there since, unless the call was set to be
refused; and this holds for all that the journal says was carried out. No identifier is issued
twice, none is begun on two sessions, and none occurs twice among those that were committed or rolled
back, nor one that was never issued. -/
theorem Roster.resolved_once_where_begun (events : List Roster.Event) :
    let r := Roster.run events
    let j := r.backend.journal
    (∀ place s, r.held place = some s → s.number = place + 1) ∧
    (∀ call deadline answer r' place s transaction, r.call deadline call = some (answer, r') →
      call.place? = some place → r.held place = some s → call.transaction? = some transaction →
      (∃ status, answer = .error ⟨status, .injected call.kind⟩) ∨
        (answer.isOk = true ∧ Journal.OpenOn j s.number transaction) ∨
          answer = .error ⟨.notFound, .noSuchTransaction transaction s.number⟩ ∧
            ¬ Journal.OpenOn j s.number transaction) ∧
    (∀ front entry later session transaction, j = front ++ entry :: later →
      entry.resumes? = some (session, transaction) → Journal.OpenOn front session transaction) ∧
    ((Journal.openings j).map Prod.fst).Nodup ∧
    (∀ entry ∈ j, ∀ entry' ∈ j, ∀ session session' transaction,
      entry.opens? session = some transaction → entry'.opens? session' = some transaction →
      session' = session) ∧
    (Journal.committed j ++ Journal.rolledBack j).Nodup ∧
    ∀ transaction ∈ Journal.committed j ++ Journal.rolledBack j,
      transaction ∈ (Journal.openings j).map Prod.fst := by
  have inOrder := Roster.inOrder_run events
  refine ⟨?_, ?_, ?_, inOrder.openings.nodup, ?_, inOrder.distinct.nodup_endings, ?_⟩
  · exact fun place s held => inOrder.numbered place s (Option.join_eq_some_iff.mp held)
  · intro call deadline answer r' place s transaction called named held names
    exact inOrder.resolves (Roster.calls (Roster.unreported_run events) called) named held names
  · intro front entry later session transaction whole resumes
    exact inOrder.orderly front entry later whole session transaction resumes
  · intro entry member entry' member' session session' transaction opens opens'
    exact inOrder.openings.session_unique member opens member' opens'
  · exact fun transaction ended => inOrder.orderly.mem_openings ended

/-- Of a transaction that was begun by request on one session and one that was left open by a
statement on another, each is open on its own session alone: the second session can not commit the
first transaction, and once that was committed it is not open on its own session either. -/
theorem Roster.resolved_once_where_begun_two :
    let events : List Roster.Event :=
      [.call .acquire (.ofSeconds 1), .call .acquire (.ofSeconds 1),
        .call (.begin 0 .snapshotReadOnly) (.ofSeconds 1),
        .call (.runData 1 "q" (.start .serializableReadWrite false) []) (.ofSeconds 1)]
    let commit (place : Nat) : Roster.Call := .finish place .commit (.issued 0)
    let committed := events ++ [.call (commit 0) (.ofSeconds 1)]
    let before := (Roster.run events).backend.journal
    let after := (Roster.run committed).backend.journal
    Journal.OpenOn before 1 (.issued 0) ∧ Journal.OpenOn before 2 (.issued 1) ∧
      ¬ Journal.OpenOn before 2 (.issued 0) ∧ ¬ Journal.OpenOn after 1 (.issued 0) ∧
      Journal.committed after = [.issued 0] ∧
      TransactionId.issued 0 ∈ (Journal.openings after).map Prod.fst := by
  intro events commit committed before after
  have first := Roster.resolved_once_where_begun events
  have second := Roster.resolved_once_where_begun committed
  -- What the three calls answer decides which of the three ways it went.
  have own := first.2.1 (commit 0) (.ofSeconds 1) (.ok .acknowledged) _ 0 ⟨1, some (.issued 0)⟩
    (.issued 0) rfl rfl rfl rfl
  have resumed := first.2.1 (.runData 1 "r" (.resume (.issued 1) false) []) (.ofSeconds 1)
    (.ok (.stream _)) _ 1 ⟨2, some (.issued 1)⟩ (.issued 1) rfl rfl rfl rfl
  have foreign := first.2.1 (commit 1) (.ofSeconds 1)
    (.error ⟨.notFound, .noSuchTransaction (.issued 0) 2⟩) _ 1 ⟨2, some (.issued 1)⟩ (.issued 0)
    rfl rfl rfl rfl
  have again := second.2.1 (commit 0) (.ofSeconds 1)
    (.error ⟨.notFound, .noSuchTransaction (.issued 0) 1⟩) _ 0 ⟨1, none⟩ (.issued 0) rfl rfl rfl rfl
  have ended : Journal.committed after = [.issued 0] := by decide +kernel
  refine ⟨?_, ?_, ?_, ?_, ended, second.2.2.2.2.2.2 (.issued 0) ?_⟩
  · rcases own with ⟨status, refused⟩ | ⟨-, opened⟩ | ⟨turned, -⟩
    · cases refused
    · exact opened
    · cases turned
  · rcases resumed with ⟨status, refused⟩ | ⟨-, opened⟩ | ⟨turned, -⟩
    · cases refused
    · exact opened
    · cases turned
  · rcases foreign with ⟨status, refused⟩ | ⟨done, -⟩ | ⟨-, closed⟩
    · cases refused
    · cases done
    · exact closed
  · rcases again with ⟨status, refused⟩ | ⟨done, -⟩ | ⟨-, closed⟩
    · cases refused
    · cases done
    · exact closed
  · exact List.mem_append_left _ (ended ▸ List.mem_cons_self)

end SqlDriver
