import SqlDriver.Backend.Session
import SqlDriver.Proofs.Journal.Custody
import SqlDriver.Proofs.Stream.Finish

/-!
Custody of a backend's sessions and streams.

A backend itself holds the sessions that its background streams keep: a lease that a stream took
along, and the sessions of dropped connections that wait for a stream. `Backend.Custody` adds to
these what is held outside of the backend, by connections or by the call that is running, and the
streams that are running there. A background stream that is pulled is treated as taken out of the
backend for that moment, so that one lemma covers every way of letting it go on.
-/

namespace SqlDriver

/-- What a guard holds while the stream runs. -/
def Guard.holds (stream : Option Nat) : Guard → List Hold
  | .lease session => [⟨session.number, stream⟩]
  | .sign _ => []
  | .nothing => []

/-- The stream that goes on in the background. -/
def Background.stream? (task : Background) : Option Nat := Script.finish? task.drain.script

/-- The sessions that wait for a stream. -/
def Hold.waiting (stream : Option Nat) (sessions : List Session) : List Hold :=
  sessions.map fun session => ⟨session.number, stream⟩

/-- The sessions that a background stream keeps. -/
def Background.holds (task : Background) : List Hold :=
  task.drain.guard.toList.flatMap (Guard.holds task.stream?) ++
    Hold.waiting task.stream? task.waiting

def Backend.holds (b : Backend) : List Hold := b.background.flatMap Background.holds

def Backend.streams (b : Backend) : List Nat := b.background.filterMap Background.stream?

/-- A guard belongs to a stream: it is the lease of the stream's own session, or the stream's
sign. -/
def Guard.Fits (j : Journal) (stream : Nat) : Guard → Prop
  | .lease session => (Journal.hosts j)[stream]? = some session.number
  | .sign number => number = stream
  | .nothing => False

/-- A background stream is one of the journal's streams, on the way to its end, with a guard of its
own. -/
def Background.Sound (j : Journal) (task : Background) : Prop :=
  ∃ stream guard, task.stream? = some stream ∧ task.drain.guard = some guard ∧
    Guard.Fits j stream guard

/-- The sessions held and the streams running, outside of the backend and in its background, account
for everything in its journal; and its streams report their transactions as they are. -/
structure Backend.Custody (b : Backend) (outside : List Hold) (running : List Nat) : Prop where
  ledger : Journal.Custody b.journal (outside ++ b.holds) (running ++ b.streams)
  sound : ∀ task ∈ b.background, Background.Sound b.journal task
  reports : b.reports = []

/-- What a stream keeps stays fit for it as the journal grows. -/
theorem Guard.Fits.extend {j j' : Journal} {stream : Nat} {guard : Guard}
    (fits : Guard.Fits j stream guard) (longer : j <+: j') : Guard.Fits j' stream guard := by
  cases guard with
  | lease session => exact Journal.hosts_of_prefix longer fits
  | sign number => exact fits
  | nothing => exact fits

/-- A background stream stays sound as the journal grows: what it says about the journal is that
something is there. -/
theorem Background.Sound.extend {j j' : Journal} {task : Background}
    (sound : Background.Sound j task) (longer : j <+: j') : Background.Sound j' task := by
  obtain ⟨stream, guard, runs, kept, fits⟩ := sound
  exact ⟨stream, guard, runs, kept, fits.extend longer⟩

namespace Backend.Custody

variable {b b' : Backend} {outside outside' : List Hold} {running running' : List Nat}
  {hold : Hold} {session : Session} {number stream : Nat} {named : Option Nat} {task : Background}

/-- A fresh backend has nothing in its custody. -/
theorem fresh : Backend.fresh.Custody [] [] where
  ledger := .empty
  sound := by intro task member; cases member
  reports := rfl

/-- Custody is a matter of the journal, the background and the queue of reports. -/
theorem congr (h : b.Custody outside running) (journal : b'.journal = b.journal)
    (background : b'.background = b.background) (reports : b'.reports = b.reports) :
    b'.Custody outside running where
  ledger := by
    have ledger := h.ledger
    rw [Backend.holds, Backend.streams, ← background, ← journal] at ledger
    exact ledger
  sound := by rw [background, journal]; exact h.sound
  reports := reports.trans h.reports

/-- The order in which sessions are held outside says nothing. -/
theorem perm (h : b.Custody outside running) (same : outside.Perm outside') :
    b.Custody outside' running where
  ledger := h.ledger.perm (same.append_right _) (.refl _)
  sound := h.sound
  reports := h.reports

/-! ## Entries -/

/-- An entry is recorded when the journal with it accounts for what is held from then on. The lemmas
after this one say for each kind of entry what that is. -/
theorem record (h : b.Custody outside running) {entry : Entry}
    (ledger : Journal.Custody (b.journal ++ [entry]) (outside' ++ b.holds)
      (running' ++ b.streams)) :
    (b.record entry).Custody outside' running' where
  ledger := ledger
  sound := fun task member => (h.sound task member).extend (List.prefix_append _ _)
  reports := h.reports

theorem emitted (h : b.Custody outside running) (stream : Nat) :
    (b.record (.emitted stream)).Custody outside running :=
  h.record (h.ledger.append_idle rfl rfl rfl rfl (by intro session uses; cases uses))

theorem emit (h : b.Custody outside running) (streams : List Nat) :
    (b.emit streams).Custody outside running := by
  induction streams generalizing b with
  | nil => rwa [Backend.emit_nil]
  | cons stream rest ih =>
    rw [← Backend.emit_record]
    exact ih (h.emitted stream)

/-- The end of a stream that runs outside: from now on its session is free of it. -/
theorem completed (h : b.Custody outside (stream :: running)) :
    (b.record (.completed stream)).Custody outside running :=
  h.record h.ledger.append_completed

/-- A session that is held outside is given back. It must be quiet, with no stream running on it. -/
theorem release (h : b.Custody (⟨session.number, named⟩ :: outside) running)
    (quiet : Journal.Quiet b.journal session.number) :
    (b.release session).Custody outside running :=
  h.record (h.ledger.append_released quiet)

theorem release_idle (h : b.Custody (⟨session.number, none⟩ :: outside) running) :
    (b.release session).Custody outside running :=
  h.release h.ledger.quiet_of_none

/-- A session that is held without a stream is quiet. -/
theorem quiet_of_none (h : b.Custody (⟨number, none⟩ :: outside) running) :
    Journal.Quiet b.journal number :=
  h.ledger.quiet_of_none

/-- Once the stream beside it has ended, a session is free for anything. -/
theorem settled (h : b.Custody (⟨number, some stream⟩ :: outside) running)
    (ended : Entry.completed stream ∈ b.journal) :
    b.Custody (⟨number, none⟩ :: outside) running where
  ledger := h.ledger.rename (h.ledger.quiet_of_completed ended) none
  sound := h.sound
  reports := h.reports

/-- Gives back sessions that waited for a stream. -/
theorem releaseWaiting {sessions : List Session}
    (h : b.Custody (Hold.waiting (some stream) sessions ++ outside) running)
    (ended : Entry.completed stream ∈ b.journal) :
    (sessions.foldl Backend.release b).Custody outside running := by
  induction sessions generalizing b with
  | nil => exact h
  | cons session rest ih =>
    have released :
        (b.release session).Custody (Hold.waiting (some stream) rest ++ outside) running :=
      h.release (h.ledger.quiet_of_completed ended)
    exact ih released (List.mem_append_left _ ended)

/-- Drops what was kept for a stream that has ended. -/
theorem dropKept {guard : Guard} (h : b.Custody (guard.holds (some stream) ++ outside) running)
    (ended : Entry.completed stream ∈ b.journal) : (b.dropKept guard).Custody outside running := by
  cases guard with
  | lease session => exact h.release (h.ledger.quiet_of_completed ended)
  | sign number => exact h
  | nothing => exact h

/-! ## Background streams -/

/-- Moves the first background stream out of the backend, with all that it keeps and with what made
it sound there. -/
theorem takeFirst {rest : List Background}
    (h : b.Custody outside running) (first : b.background = task :: rest) :
    Background.Sound b.journal task ∧
      { b with background := rest }.Custody (task.holds ++ outside)
        (task.stream?.toList ++ running) := by
  refine ⟨h.sound task (by rw [first]; exact List.mem_cons_self), ?_, ?_, h.reports⟩
  · have ledger := h.ledger
    rw [Backend.holds, Backend.streams, first, List.flatMap_cons, List.filterMap_cons] at ledger
    refine ledger.perm ?_ ?_
    · rw [List.append_assoc]
      exact (List.perm_append_comm_assoc ..)
    · cases task.stream? with
      | none => exact .refl _
      | some stream => exact List.perm_middle
  · intro other member
    exact h.sound other (by rw [first]; exact List.mem_cons_of_mem _ member)

/-- Puts a stream behind the others in the background. -/
theorem putLast (h : b.Custody (task.holds ++ outside) (task.stream?.toList ++ running))
    (sound : Background.Sound b.journal task) :
    { b with background := b.background ++ [task] }.Custody outside running where
  ledger := by
    refine h.ledger.perm ?_ ?_
    · simp only [Backend.holds, List.flatMap_append, List.flatMap_singleton]
      rw [List.append_assoc, ← List.append_assoc outside]
      exact List.perm_append_comm
    · simp only [Backend.streams, List.filterMap_append]
      rw [List.append_assoc, ← List.append_assoc running]
      refine List.perm_append_comm.trans (.of_eq ?_)
      cases runs : task.stream? <;> simp [runs]
  sound := by
    intro other member
    rcases List.mem_append.mp member with member | member
    · exact h.sound other member
    · rw [List.mem_singleton.mp member]; exact sound
  reports := h.reports

end Backend.Custody

end SqlDriver
