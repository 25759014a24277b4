import SqlDriver.Proofs.Journal.Streams

/-!
Who holds a session, and which stream may still go on it.

`Journal.Custody` relates a journal to everything that holds a session at that moment, whoever that
is: every session handed out is either given back or held exactly once, every stream is either at
its end or running exactly once, and the stream named beside a session that is held is the only one
that can still go on it. Each kind of entry moves sessions and streams in one way; what the move
needs is that the session is quiet when it is used or given back.
-/

namespace SqlDriver

/-- A session that is held, and the stream that may still go on it. -/
structure Hold where
  session : Nat
  stream : Option Nat

/-- The sessions held and the streams running account for everything in a journal. -/
structure Journal.Custody (j : Journal) (holds : List Hold) (running : List Nat) : Prop where
  drained : Journal.DrainsBeforeUse j
  covered : Journal.Covered j
  /-- Streams are started only on sessions that were handed out. -/
  hosts_le : ∀ session ∈ Journal.hosts j, session ≤ Journal.acquired j
  sessions : (Journal.releases j ++ holds.map Hold.session).Perm
    (List.range' 1 (Journal.acquired j))
  streams : (Journal.completions j ++ running).Perm (List.range (Journal.hosts j).length)
  guarded : ∀ hold ∈ holds, ∀ stream, Journal.Live j stream hold.session →
    hold.stream = some stream

namespace Journal.Custody

variable {j : Journal} {holds holds' : List Hold} {running running' : List Nat} {hold : Hold}
  {session stream : Nat}

theorem empty : Journal.Custody [] [] [] where
  drained := by intro earlier entry later split; simp at split
  covered := by
    intro earlier later split
    obtain ⟨rfl, -⟩ := List.append_eq_nil_iff.mp split.symm
    exact Nat.le_refl _
  hosts_le := by intro session member; cases member
  sessions := .refl _
  streams := .refl _
  guarded := by intro hold member; cases member

/-- The order in which holders and streams are listed says nothing. -/
theorem perm (h : Journal.Custody j holds running) (sameHolds : holds.Perm holds')
    (sameRunning : running.Perm running') : Journal.Custody j holds' running' where
  drained := h.drained
  covered := h.covered
  hosts_le := h.hosts_le
  sessions := ((sameHolds.map Hold.session).symm.append_left _).trans h.sessions
  streams := (sameRunning.symm.append_left _).trans h.streams
  guarded := fun hold member => h.guarded hold (sameHolds.mem_iff.mpr member)

/-! ## What custody says -/

/-- No session is held twice, and none that is held has been given back: the numbers of both
together are all different. -/
theorem nodup_sessions (h : Journal.Custody j holds running) :
    (Journal.releases j ++ holds.map Hold.session).Nodup :=
  h.sessions.nodup_iff.mpr List.nodup_range'

/-- A session that is held was handed out. -/
theorem session_le (h : Journal.Custody j holds running) (held : hold ∈ holds) :
    hold.session ≤ Journal.acquired j := by
  have member : hold.session ∈ Journal.releases j ++ holds.map Hold.session :=
    List.mem_append_right _ (List.mem_map_of_mem held)
  have issued := h.sessions.mem_iff.mp member
  rw [List.mem_range'_1] at issued
  omega

/-- A stream at its end is not running. Whoever finds the end in the journal may use the session of
the stream. -/
theorem not_mem_running (h : Journal.Custody j holds running)
    (ended : Entry.completed stream ∈ j) : stream ∉ running := by
  have nodup := h.streams.nodup_iff.mpr List.nodup_range
  intro member
  have completed := Journal.mem_completions.mpr ended
  exact (List.nodup_append.mp nodup).2.2 stream completed stream member rfl

/-- A stream that goes on a session is running, in a call or in the background. -/
theorem mem_running (h : Journal.Custody j holds running) (live : Journal.Live j stream session) :
    stream ∈ running := by
  have started : stream ∈ List.range (Journal.hosts j).length :=
    List.mem_range.mpr (List.getElem?_eq_some_iff.mp live.1).1
  rcases List.mem_append.mp (h.streams.mem_iff.mpr started) with ended | member
  · exact (live.2 (Journal.mem_completions.mp ended)).elim
  · exact member

/-- A session is quiet unless the stream named beside it runs. So a holder only has to look at one
stream to know whether it may use its session. -/
theorem quiet (h : Journal.Custody j holds running) (held : hold ∈ holds)
    (stopped : ∀ stream, hold.stream = some stream → stream ∉ running) :
    Journal.Quiet j hold.session := by
  rw [Journal.quiet_iff]
  intro stream live
  exact stopped stream (h.guarded hold held stream live) (h.mem_running live)

theorem quiet_of_none (h : Journal.Custody j (⟨session, none⟩ :: holds) running) :
    Journal.Quiet j session :=
  h.quiet List.mem_cons_self (by intro stream named; cases named)

theorem quiet_of_completed (h : Journal.Custody j (⟨session, some stream⟩ :: holds) running)
    (ended : Entry.completed stream ∈ j) : Journal.Quiet j session :=
  h.quiet List.mem_cons_self
    (by intro other named; cases named; exact h.not_mem_running ended)

/-- Nothing needs to be said of the streams on a quiet session, and whatever is said does no harm.
-/
theorem rename (h : Journal.Custody j (hold :: holds) running)
    (quiet : Journal.Quiet j hold.session) (named : Option Nat) :
    Journal.Custody j (⟨hold.session, named⟩ :: holds) running where
  drained := h.drained
  covered := h.covered
  hosts_le := h.hosts_le
  sessions := h.sessions
  streams := h.streams
  guarded := by
    intro other member stream live
    rcases List.mem_cons.mp member with rfl | member
    · exact (Journal.quiet_iff.mp quiet stream live).elim
    · exact h.guarded other (List.mem_cons_of_mem _ member) stream live

/-! ## What each entry does to it -/

/-- An entry that moves neither sessions nor streams leaves custody as it is, if the session that it
is about was quiet. -/
theorem append_idle (h : Journal.Custody j holds running) {entry : Entry}
    (hosts : entry.host? = none) (releases : entry.released? = none)
    (completes : entry.completed? = none) (acquires : entry.isAcquired = false)
    (quiet : ∀ session, entry.session? = some session → Journal.Quiet j session) :
    Journal.Custody (j ++ [entry]) holds running where
  drained := Journal.drainsBeforeUse_append h.drained quiet
  covered := Journal.covered_append_of_kept h.covered releases
  hosts_le := by simpa [hosts, acquires] using h.hosts_le
  sessions := by simpa [releases, acquires] using h.sessions
  streams := by simpa [hosts, completes] using h.streams
  guarded := fun hold member stream live =>
    h.guarded hold member stream (live.of_append hosts)

/-- A session that is handed out is a new one, and is held without a stream. -/
theorem append_acquired (h : Journal.Custody j holds running) :
    Journal.Custody (j ++ [.acquired (Journal.acquired j + 1)])
      (⟨Journal.acquired j + 1, none⟩ :: holds) running where
  drained := Journal.drainsBeforeUse_append h.drained (by intro session uses; cases uses)
  covered := Journal.covered_append_of_kept h.covered rfl
  hosts_le := by
    intro session member
    have old : session ∈ Journal.hosts j := by simpa [Entry.host?] using member
    have := h.hosts_le session old
    simp only [Journal.acquired_append, Entry.isAcquired, if_true]
    omega
  sessions := by
    simp only [Journal.releases_append, Entry.released?, Option.toList_none, List.append_nil,
      Journal.acquired_append, Entry.isAcquired, if_true, List.map_cons, List.range'_1_concat]
    exact (List.perm_middle.trans (h.sessions.cons _)).trans
      (by rw [Nat.add_comm]; exact (List.perm_append_singleton _ _).symm)
  streams := by simpa [Entry.host?, Entry.completed?] using h.streams
  guarded := by
    intro hold member stream live
    have before := live.of_append rfl
    rcases List.mem_cons.mp member with rfl | member
    · -- A session that is new has no streams.
      have := h.hosts_le _ (List.mem_of_getElem? before.1)
      simp only at this
      omega
    · exact h.guarded hold member stream before

/-- A session that is given back was held and quiet, and is not held any more. -/
theorem append_released (h : Journal.Custody j (hold :: holds) running)
    (quiet : Journal.Quiet j hold.session) :
    Journal.Custody (j ++ [.released hold.session]) holds running where
  drained := by
    apply Journal.drainsBeforeUse_append h.drained
    intro session uses
    cases uses
    exact quiet
  covered := by
    apply Journal.covered_append h.covered
    have count := h.sessions.length_eq
    rw [List.length_append, List.length_map, List.length_cons, List.length_range',
      Journal.length_releases] at count
    simp only [Journal.released_append, Entry.released?, Option.toList_some, List.length_singleton,
      Journal.acquired_append]
    omega
  hosts_le := by simpa [Entry.host?, Entry.isAcquired] using h.hosts_le
  sessions := by
    simpa [Entry.released?, Entry.isAcquired, List.append_assoc] using h.sessions
  streams := by simpa [Entry.host?, Entry.completed?] using h.streams
  guarded := fun other member stream live =>
    h.guarded other (List.mem_cons_of_mem _ member) stream (live.of_append rfl)

/-- A stream that comes to its end was running, and does not run any more. -/
theorem append_completed (h : Journal.Custody j holds (stream :: running)) :
    Journal.Custody (j ++ [.completed stream]) holds running where
  drained := Journal.drainsBeforeUse_append h.drained (by intro session uses; cases uses)
  covered := Journal.covered_append_of_kept h.covered rfl
  hosts_le := by simpa [Entry.host?, Entry.isAcquired] using h.hosts_le
  sessions := by simpa [Entry.released?, Entry.isAcquired] using h.sessions
  streams := by simpa [Entry.host?, Entry.completed?, List.append_assoc] using h.streams
  guarded := fun hold member stream live => h.guarded hold member stream (live.of_append rfl)

/-- A statement starts the stream of the next number on a session that was quiet; from then on the
stream is named beside the session. -/
theorem append_accepted (h : Journal.Custody j (hold :: holds) running)
    (quiet : Journal.Quiet j hold.session) (text : String) (control : TransactionControl)
    (opened : Option TransactionId) :
    Journal.Custody (j ++ [.accepted hold.session text control opened])
      (⟨hold.session, some (Journal.hosts j).length⟩ :: holds)
      ((Journal.hosts j).length :: running) where
  drained := by
    apply Journal.drainsBeforeUse_append h.drained
    intro session uses
    cases uses
    exact quiet
  covered := Journal.covered_append_of_kept h.covered rfl
  hosts_le := by
    intro session member
    simp only [Journal.hosts_append, Entry.host?, Option.toList_some, List.mem_append,
      List.mem_singleton] at member
    simp only [Journal.acquired_append, Entry.isAcquired]
    rcases member with member | rfl
    · exact h.hosts_le session member
    · exact h.session_le List.mem_cons_self
  sessions := by simpa [Entry.released?, Entry.isAcquired] using h.sessions
  streams := by
    simp only [Journal.completions_append, Entry.completed?, Option.toList_none, List.append_nil,
      Journal.hosts_append, Entry.host?, Option.toList_some, List.length_append,
      List.length_singleton, List.range_succ]
    exact (List.perm_middle.trans (h.streams.cons _)).trans (List.perm_append_singleton _ _).symm
  guarded := by
    intro other member stream live
    rcases live.of_append_host rfl with before | ⟨newest, same⟩
    · rcases List.mem_cons.mp member with rfl | member
      · exact (Journal.quiet_iff.mp quiet stream before).elim
      · exact h.guarded other (List.mem_cons_of_mem _ member) stream before
    · rcases List.mem_cons.mp member with rfl | member
      · rw [newest]
      · -- Nobody else holds the session on which the stream was started.
        have apart := (List.nodup_append.mp h.nodup_sessions).2.1
        rw [List.map_cons, List.nodup_cons, ← same] at apart
        exact (apart.1 (List.mem_map_of_mem member)).elim

end Journal.Custody

end SqlDriver
