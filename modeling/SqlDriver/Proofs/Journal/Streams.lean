import Mathlib.Data.List.Induction
import Mathlib.Tactic.ByContra
import SqlDriver.Backend.Journal

/-!
Result streams in the journal: on which session each of them was started, whether it has come to its
end, and what it means that a session is used or given back only when no stream goes on it.

Main statement: when every use of a session finds it quiet, no session ever carries two live
streams.
-/

namespace SqlDriver

/-! ## Streams and their sessions -/

/-- The session that the stream of an accepted statement goes on. -/
def Entry.host? : Entry → Option Nat
  | .accepted session _ _ _ => some session
  | _ => none

def Entry.released? : Entry → Option Nat
  | .released session => some session
  | _ => none

def Entry.completed? : Entry → Option Nat
  | .completed stream => some stream
  | _ => none

/-- The session that an entry uses: what was asked or done there, or its being given back. -/
def Entry.session? : Entry → Option Nat
  | .requested _ session _ => session
  | .released session => some session
  | .accepted session _ _ _ => some session
  | .schemaChanged session _ => some session
  | .begun session _ _ => some session
  | .committed session _ => some session
  | .rolledBack session _ => some session
  | _ => none

/-- The sessions of all streams, in the order of the streams' numbers. -/
def Journal.hosts (j : Journal) : List Nat := j.filterMap Entry.host?

/-- The sessions given back, in order. -/
def Journal.releases (j : Journal) : List Nat := j.filterMap Entry.released?

/-- The streams that came to their end, in order. -/
def Journal.completions (j : Journal) : List Nat := j.filterMap Entry.completed?

/-- A stream was started on a session and has not come to its end. -/
def Journal.Live (j : Journal) (stream session : Nat) : Prop :=
  (Journal.hosts j)[stream]? = some session ∧ Entry.completed stream ∉ j

/-- Every stream that was started on a session has come to its end. -/
def Journal.Quiet (j : Journal) (session : Nat) : Prop :=
  ∀ stream, (Journal.hosts j)[stream]? = some session → Entry.completed stream ∈ j

/-- No session was ever used or given back while a stream still went on it. -/
def Journal.DrainsBeforeUse (j : Journal) : Prop :=
  ∀ earlier entry later, j = earlier ++ entry :: later →
    ∀ session, entry.session? = some session → Journal.Quiet earlier session

/-- At no time had more sessions been given back than handed out. -/
def Journal.Covered (j : Journal) : Prop :=
  ∀ earlier later, j = earlier ++ later → Journal.released earlier ≤ Journal.acquired earlier

/-- A session is quiet when no stream lives on it. -/
theorem Journal.quiet_iff {j : Journal} {session : Nat} :
    Journal.Quiet j session ↔ ∀ stream, ¬ Journal.Live j stream session := by
  constructor
  · intro quiet stream live
    exact live.2 (quiet stream live.1)
  · intro none stream hosted
    by_cases ended : Entry.completed stream ∈ j
    · exact ended
    · exact (none stream ⟨hosted, ended⟩).elim

theorem Journal.mem_completions {j : Journal} {stream : Nat} :
    stream ∈ Journal.completions j ↔ Entry.completed stream ∈ j := by
  rw [Journal.completions, List.mem_filterMap]
  constructor
  · rintro ⟨entry, member, ended⟩
    cases entry with
    | completed other => cases ended; exact member
    | _ => cases ended
  · intro member
    exact ⟨_, member, rfl⟩

/-- There is one stream for each data statement, numbered in the order in which the statements were
accepted. -/
theorem Journal.length_hosts (j : Journal) :
    (Journal.hosts j).length = Journal.dataStatements j := by
  rw [Journal.hosts, List.length_filterMap_eq_countP]
  exact List.countP_congr fun entry _ => by cases entry <;> simp [Entry.host?, Entry.isAccepted]

theorem Journal.length_releases (j : Journal) :
    (Journal.releases j).length = Journal.released j := by
  rw [Journal.releases, List.length_filterMap_eq_countP]
  exact List.countP_congr fun entry _ => by cases entry <;> simp [Entry.released?, Entry.isReleased]

theorem Journal.length_completions (j : Journal) :
    (Journal.completions j).length = Journal.streamsCompleted j := by
  rw [Journal.completions, List.length_filterMap_eq_countP]
  exact List.countP_congr fun entry _ => by
    cases entry <;> simp [Entry.completed?, Entry.isCompleted]

/-! ## Adding an entry -/

section Append

variable {j : Journal} {entry : Entry} {stream session : Nat}

@[simp] theorem Journal.hosts_append (j : Journal) (entry : Entry) :
    Journal.hosts (j ++ [entry]) = Journal.hosts j ++ entry.host?.toList := by
  cases entry <;> simp [Journal.hosts, Entry.host?]

@[simp] theorem Journal.releases_append (j : Journal) (entry : Entry) :
    Journal.releases (j ++ [entry]) = Journal.releases j ++ entry.released?.toList := by
  cases entry <;> simp [Journal.releases, Entry.released?]

@[simp] theorem Journal.completions_append (j : Journal) (entry : Entry) :
    Journal.completions (j ++ [entry]) = Journal.completions j ++ entry.completed?.toList := by
  cases entry <;> simp [Journal.completions, Entry.completed?]

@[simp] theorem Journal.acquired_append (j : Journal) (entry : Entry) :
    Journal.acquired (j ++ [entry]) = Journal.acquired j + if entry.isAcquired then 1 else 0 := by
  simp [Journal.acquired, List.countP_append, List.countP_cons]

@[simp] theorem Journal.released_append (j : Journal) (entry : Entry) :
    Journal.released (j ++ [entry]) = Journal.released j + entry.released?.toList.length := by
  rw [← Journal.length_releases, Journal.releases_append, List.length_append,
    Journal.length_releases]

/-- A stream keeps its session as the journal grows. -/
theorem Journal.hosts_of_prefix {j j' : Journal} (longer : j <+: j')
    (hosted : (Journal.hosts j)[stream]? = some session) :
    (Journal.hosts j')[stream]? = some session := by
  obtain ⟨later, rfl⟩ := longer
  rw [Journal.hosts, List.filterMap_append]
  exact (List.getElem?_append_left (List.getElem?_eq_some_iff.mp hosted).1).trans hosted

/-- Only an accepted statement starts a stream, so any other entry leaves at most the streams that
lived before it. -/
theorem Journal.Live.of_append (live : Journal.Live (j ++ [entry]) stream session)
    (starts : entry.host? = none) : Journal.Live j stream session := by
  obtain ⟨hosted, running⟩ := live
  rw [Journal.hosts_append, starts, Option.toList_none, List.append_nil] at hosted
  exact ⟨hosted, fun ended => running (List.mem_append_left _ ended)⟩

/-- An accepted statement starts the stream of the next number on its session, and no other; the
streams that live besides lived before. -/
theorem Journal.Live.of_append_host {host : Nat} (live : Journal.Live (j ++ [entry]) stream session)
    (starts : entry.host? = some host) :
    Journal.Live j stream session ∨ stream = (Journal.hosts j).length ∧ session = host := by
  obtain ⟨hosted, running⟩ := live
  rw [Journal.hosts_append, starts, Option.toList_some] at hosted
  by_cases old : stream < (Journal.hosts j).length
  · rw [List.getElem?_append_left old] at hosted
    exact Or.inl ⟨hosted, fun ended => running (List.mem_append_left _ ended)⟩
  · rw [List.getElem?_append_right (by omega), List.getElem?_singleton] at hosted
    split at hosted
    · exact Or.inr ⟨by omega, (Option.some.inj hosted).symm⟩
    · cases hosted

/-- Sessions are drained before use as long as every entry finds the session that it names quiet. -/
theorem Journal.drainsBeforeUse_append (drained : Journal.DrainsBeforeUse j)
    (quiet : ∀ session, entry.session? = some session → Journal.Quiet j session) :
    Journal.DrainsBeforeUse (j ++ [entry]) := by
  intro earlier used later split session uses
  rcases List.eq_nil_or_concat later with rfl | ⟨later, final, rfl⟩
  · obtain ⟨rfl, same⟩ := List.append_inj' split rfl
    cases same
    exact quiet session uses
  · have whole : j ++ [entry] = (earlier ++ used :: later) ++ [final] := by
      simpa using split
    obtain ⟨rfl, -⟩ := List.append_inj' whole rfl
    exact drained earlier used later rfl session uses

theorem Journal.covered_append (covered : Journal.Covered j)
    (whole : Journal.released (j ++ [entry]) ≤ Journal.acquired (j ++ [entry])) :
    Journal.Covered (j ++ [entry]) := by
  intro earlier later split
  rcases List.eq_nil_or_concat later with rfl | ⟨later, final, rfl⟩
  · rw [List.append_nil] at split
    exact split ▸ whole
  · have whole : j ++ [entry] = (earlier ++ later) ++ [final] := by
      simpa using split
    obtain ⟨rfl, -⟩ := List.append_inj' whole rfl
    exact covered earlier later rfl

/-- Only giving a session back can leave too few handed out. -/
theorem Journal.covered_append_of_kept (covered : Journal.Covered j)
    (kept : entry.released? = none) : Journal.Covered (j ++ [entry]) := by
  apply Journal.covered_append covered
  have before := covered j [] (by simp)
  rw [Journal.released_append, kept, Journal.acquired_append]
  exact Nat.le_add_right_of_le before

end Append

/-- A session that is used only when it is quiet never carries two live streams: the later one was
started by an entry that found the session quiet. -/
theorem Journal.DrainsBeforeUse.unique_live {j : Journal} {session stream stream' : Nat}
    (drained : Journal.DrainsBeforeUse j) (live : Journal.Live j stream session)
    (live' : Journal.Live j stream' session) : stream = stream' := by
  induction j using List.reverseRecOn with
  | nil => simp [Journal.Live, Journal.hosts] at live
  | append_singleton j entry ih =>
    have before : Journal.DrainsBeforeUse j := by
      intro earlier used later split
      exact drained earlier used (later ++ [entry]) (by simp [split])
    cases starts : entry.host? with
    | none => exact ih before (live.of_append starts) (live'.of_append starts)
    | some host =>
      have uses : entry.session? = some host := by
        cases entry with
        | accepted => exact starts
        | _ => cases starts
      have quiet := Journal.quiet_iff.mp (drained j entry [] rfl host uses)
      -- Every earlier stream of that session is at its end, so only the new one is left.
      rcases live.of_append_host starts with old | ⟨new, here⟩
      · rcases live'.of_append_host starts with old' | ⟨_, rfl⟩
        · exact ih before old old'
        · exact (quiet stream old).elim
      · rcases live'.of_append_host starts with old' | ⟨new', _⟩
        · rw [here] at old'
          exact (quiet stream' old').elim
        · exact new.trans new'.symm

end SqlDriver
