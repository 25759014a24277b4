import Mathlib.Data.List.Basic
import SqlDriver.Proofs.Backend.Background
import SqlDriver.Proofs.Connection.Laws

/-!
Custody of the session that a connection holds. Every path of every call hands a session on, or
gives it back when no stream goes on it: a lease goes from the call to the stream that runs on it,
to the connection, or to the background, and the session of a dropped connection waits for its
stream.
-/

namespace SqlDriver

/-- The session that a connection holds, with the stream that may still go on it. -/
def Connection.holds (c : Connection) : List Hold :=
  match c.state with
  | .inside _ session _ => [⟨session.number, c.pending⟩]
  | _ => []

/-- Inside a transaction a connection holds its session, with the stream that it must wait for
beside it. -/
theorem Connection.holds_inside {c : Connection} {transaction : TransactionId} {session : Session}
    {settings : TransactionSettings} (state : c.state = .inside transaction session settings) :
    c.holds = [⟨session.number, c.pending⟩] := by
  rw [Connection.holds, state]

theorem Connection.holds_not_inside {c : Connection} (state : c.state.isInside = false) :
    c.holds = [] := by
  rw [Connection.holds]
  cases inside : c.state with
  | inside transaction session settings => rw [inside] at state; cases state
  | _ => rfl

/-- Lets a session wait for a stream, if the background stream has its sign. -/
def Background.expect (stream : Nat) (session : Session) (task : Background) : Background :=
  if task.drain.guard = some (.sign stream) then
    { task with waiting := task.waiting ++ [session] }
  else task

theorem Background.drain_expect (task : Background) (stream : Nat) (session : Session) :
    (task.expect stream session).drain = task.drain := by
  rw [Background.expect]
  split <;> rfl

theorem Background.stream?_expect (task : Background) (stream : Nat) (session : Session) :
    (task.expect stream session).stream? = task.stream? := by
  rw [Background.stream?, Background.drain_expect, Background.stream?]

/-- A session that waits for a background stream is held along with it, and what the stream held
before is held as it was. -/
theorem Background.holds_expect {task : Background} {stream : Nat} (session : Session)
    (own : task.stream? = some stream) (signed : task.drain.guard = some (.sign stream)) :
    (task.expect stream session).holds = task.holds ++ [⟨session.number, some stream⟩] := by
  rw [Background.holds, Background.holds, Background.stream?_expect, own, Background.drain_expect,
    Background.expect, if_pos signed]
  simp [Hold.waiting]

theorem Background.map_expect_of_unsigned {tasks : List Background} {stream : Nat}
    (session : Session) (unsigned : ∀ task ∈ tasks, task.drain.guard ≠ some (.sign stream)) :
    tasks.map (Background.expect stream session) = tasks := by
  have kept : ∀ task ∈ tasks, task.expect stream session = id task :=
    fun task member => if_neg (unsigned task member)
  rw [List.map_congr_left kept, List.map_id]

/-- A stream that has its sign in the background goes on there, so a session that waits for the sign
waits for that stream. -/
theorem Background.Sound.stream?_of_sign {j : Journal} {task : Background} {stream : Nat}
    (sound : Background.Sound j task) (signed : task.drain.guard = some (.sign stream)) :
    task.stream? = some stream := by
  obtain ⟨other, guard, runs, kept, fits⟩ := sound
  obtain rfl : guard = .sign stream := Option.some.inj (kept.symm.trans signed)
  obtain rfl : stream = other := fits
  exact runs

namespace Backend.Custody

variable {b b' b'' : Backend} {outside : List Hold} {running : List Nat} {session : Session}
  {number stream : Nat} {named : Option Nat} {call : CallKind} {deadline : Duration}

/-! ## Requests -/

/-- A request disturbs nothing if it is made on no session, or on one that is quiet. -/
theorem requested {answer : Except BackendError Unit} {on : Option Nat}
    (h : b.Custody outside running) (requested : b.Requests call on deadline (answer, b'))
    (quiet : ∀ number, on = some number → Journal.Quiet b.journal number) :
    b'.Custody outside running := by
  have recorded : (b.record (.requested call on deadline)).Custody outside running :=
    h.record (h.ledger.append_idle rfl rfl rfl rfl quiet)
  cases requested with
  | refused status left consulted => exact recorded.congr rfl rfl rfl
  | granted left consulted => exact recorded.congr rfl rfl rfl

theorem requestedNew {answer : Except BackendError Unit} (h : b.Custody outside running)
    (requested : b.Requests call none deadline (answer, b')) : b'.Custody outside running :=
  h.requested requested (by intro number uses; cases uses)

theorem requestedOn {answer : Except BackendError Unit}
    (h : b.Custody (⟨number, none⟩ :: outside) running)
    (requested : b.Requests call number deadline (answer, b')) :
    b'.Custody (⟨number, none⟩ :: outside) running := by
  apply h.requested requested
  intro other uses
  rw [← Option.some.inj uses]
  exact h.quiet_of_none

/-- A session that is handed out is held from then on, without a stream. -/
theorem serve (h : b.Custody outside running) :
    b.serve.Custody (⟨b.nextSession.number, none⟩ :: outside) running :=
  h.record h.ledger.append_acquired

/-- An entry on a session that is held and quiet, which starts no stream, leaves custody as it is.
-/
theorem recordOn (h : b.Custody (⟨number, none⟩ :: outside) running) {entry : Entry}
    (hosts : entry.host? = none) (releases : entry.released? = none)
    (completes : entry.completed? = none) (acquires : entry.isAcquired = false)
    (uses : entry.session? = some number) :
    (b.record entry).Custody (⟨number, none⟩ :: outside) running := by
  apply h.record (h.ledger.append_idle hosts releases completes acquires _)
  intro other uses'
  rw [← Option.some.inj (uses.symm.trans uses')]
  exact h.quiet_of_none

/-- A statement that is accepted starts a stream on its session, which is held with the stream
beside it. -/
theorem accept (h : b.Custody (⟨number, none⟩ :: outside) running) (text : String)
    (control : TransactionControl) (opened : Option TransactionId) (left : List Injection) :
    (b.accept text control number opened left).Custody
      (⟨number, some (Journal.dataStatements b.journal)⟩ :: outside)
      (Journal.dataStatements b.journal :: running) := by
  have accepted : (b.record (.accepted number text control opened)).Custody
      (⟨number, some (Journal.hosts b.journal).length⟩ :: outside)
      ((Journal.hosts b.journal).length :: running) :=
    h.record (h.ledger.append_accepted h.quiet_of_none text control opened)
  rw [Journal.length_hosts] at accepted
  exact accepted.congr rfl rfl rfl

/-- While the stream of a statement runs, the session is held and the stream is named beside it.
Whatever happens in the meantime leaves that as it is. -/
theorem started {text : String} {control : TransactionControl} {opened : Option TransactionId}
    {left : List Injection} (h : b.Custody (⟨number, none⟩ :: outside) [])
    (requested : b.Requests .dataStatement number deadline (.ok (), b'))
    (idles : (b'.accept text control number opened left).Idles b'') :
    b''.Custody (⟨number, some (Journal.dataStatements b'.journal)⟩ :: outside)
        [Journal.dataStatements b'.journal] ∧
      (Journal.hosts b''.journal)[Journal.dataStatements b'.journal]? = some number := by
  refine ⟨((h.requestedOn requested).accept text control opened left).idle idles, ?_⟩
  have hosted : (Journal.hosts (b'.accept text control number opened left).journal)[
      Journal.dataStatements b'.journal]? = some number := by
    simp only [Backend.accept, Backend.record, Journal.hosts_append, Entry.host?,
      Option.toList_some]
    rw [← Journal.length_hosts, List.getElem?_concat_length]
  exact Journal.hosts_of_prefix idles.streamWork.isPrefix hosted

/-- Once the stream of a statement has ended, the session is free again, and may be used or given
back. -/
theorem ended {text : String} {control : TransactionControl} {opened : Option TransactionId}
    {left : List Injection} (h : b.Custody (⟨number, none⟩ :: outside) [])
    (requested : b.Requests .dataStatement number deadline (.ok (), b'))
    (idles : (b'.accept text control number opened left).Idles b'') :
    (b''.record (.completed (Journal.dataStatements b'.journal))).Custody
      (⟨number, none⟩ :: outside) [] :=
  (h.started requested idles).1.completed.settled (Backend.completed_mem_record _ _)

/-- A stream goes on in the background and takes along what its guard holds. What it holds is then
no more outside. -/
theorem leftBehind {guard : Guard} {rest : Script Mark Reply}
    (h : b.Custody (guard.holds (some stream) ++ outside) [stream])
    (finishing : Script.finish? rest = some stream) (fits : Guard.Fits b.journal stream guard) :
    Backend.Custody { b with background := b.background ++ [⟨⟨rest, some guard⟩, []⟩] }
      outside [] := by
  have runs : (⟨⟨rest, some guard⟩, []⟩ : Background).stream? = some stream := finishing
  apply putLast
  · rw [Background.holds, runs]
    simpa [Hold.waiting] using h
  · exact ⟨stream, guard, runs, rfl, fits⟩

/-! ## Waiting for a stream -/

/-- No stream goes on a session that is held, unless the one beside it has its sign in the
background. -/
theorem quiet_of_drained (h : b.Custody (⟨number, named⟩ :: outside) [])
    (drained : named.any b.hasSign = false) : Journal.Quiet b.journal number := by
  rw [Journal.quiet_iff]
  intro stream live
  have beside : named = some stream := h.ledger.guarded _ List.mem_cons_self stream live
  have running : stream ∈ b.streams := h.ledger.mem_running live
  obtain ⟨task, member, runs⟩ := List.mem_filterMap.mp running
  obtain ⟨stream', guard, runs', kept, fits⟩ := h.sound task member
  obtain rfl : stream = stream' := Option.some.inj (runs.symm.trans runs')
  cases guard with
  | lease session =>
    -- The stream would hold the session a second time.
    have same : session.number = number := Option.some.inj (fits.symm.trans live.1)
    have holds : ⟨session.number, some stream⟩ ∈ task.holds := by
      simp [Background.holds, kept, runs, Guard.holds]
    have apart := (List.nodup_append.mp h.ledger.nodup_sessions).2.1
    rw [List.cons_append, List.map_cons, List.nodup_cons] at apart
    apply apart.1
    rw [List.map_append, ← same]
    apply List.mem_append_right
    exact List.mem_map.mpr ⟨_, List.mem_flatMap.mpr ⟨task, member, holds⟩, rfl⟩
  | sign other =>
    obtain rfl : other = stream := fits
    have signed : b.hasSign other = true :=
      List.any_eq_true.mpr ⟨task, member, by simp [kept]⟩
    rw [beside, Option.any_some, signed] at drained
    cases drained
  | nothing => exact fits.elim

/-- A stream that has no sign in the background any more has ended, so the session that was held
beside it is free. -/
theorem drained (h : b.Custody (⟨number, named⟩ :: outside) [])
    (drained : named.any b.hasSign = false) : b.Custody (⟨number, none⟩ :: outside) [] where
  ledger := h.ledger.rename (h.quiet_of_drained drained) none
  sound := h.sound
  reports := h.reports

theorem rename (h : b.Custody (⟨number, none⟩ :: outside) []) (named : Option Nat) :
    b.Custody (⟨number, named⟩ :: outside) [] where
  ledger := h.ledger.rename h.quiet_of_none named
  sound := h.sound
  reports := h.reports

/-- A session that waits for one of the background streams is held once more, by that stream alone:
no two of them are the same. -/
theorem holds_wait {j : Journal} {tasks : List Background}
    (sound : ∀ task ∈ tasks, Background.Sound j task)
    (apart : (tasks.filterMap Background.stream?).Nodup)
    (signed : ∃ task ∈ tasks, task.drain.guard = some (.sign stream)) :
    ((tasks.map (Background.expect stream session)).flatMap Background.holds).Perm
      (⟨session.number, some stream⟩ :: tasks.flatMap Background.holds) := by
  induction tasks with
  | nil =>
    obtain ⟨task, member, -⟩ := signed
    cases member
  | cons task rest ih =>
    rw [List.map_cons, List.flatMap_cons, List.flatMap_cons]
    by_cases here : task.drain.guard = some (.sign stream)
    · have own := (sound task List.mem_cons_self).stream?_of_sign here
      rw [List.filterMap_cons, own, List.nodup_cons] at apart
      have others : ∀ other ∈ rest, other.drain.guard ≠ some (.sign stream) := by
        intro other member guarded
        have runs := (sound other (List.mem_cons_of_mem _ member)).stream?_of_sign guarded
        exact apart.1 (List.mem_filterMap.mpr ⟨other, member, runs⟩)
      rw [Background.map_expect_of_unsigned session others,
        Background.holds_expect session own here, List.append_assoc]
      exact List.perm_middle
    · have signed' : ∃ task ∈ rest, task.drain.guard = some (.sign stream) := by
        obtain ⟨other, member, guarded⟩ := signed
        rcases List.mem_cons.mp member with rfl | member
        · exact (here guarded).elim
        · exact ⟨other, member, guarded⟩
      have apart' : (rest.filterMap Background.stream?).Nodup := by
        rw [List.filterMap_cons] at apart
        cases own : task.stream? with
        | none => rwa [own] at apart
        | some other => rw [own] at apart; exact (List.nodup_cons.mp apart).2
      have unchanged : task.expect stream session = task := if_neg here
      have inner := ih (fun other member => sound other (List.mem_cons_of_mem _ member)) apart'
        signed'
      rw [unchanged]
      exact (inner.append_left task.holds).trans List.perm_middle

/-- A session is given back once the stream beside it has ended: at once if there is no sign of it
any more, and by the stream itself otherwise. -/
theorem releaseAfter (h : b.Custody (⟨session.number, some stream⟩ :: outside) []) :
    (b.releaseAfter stream session).Custody outside [] := by
  rw [Backend.releaseAfter]
  split
  · rename_i signs
    have signed : ∃ task ∈ b.background, task.drain.guard = some (.sign stream) := by
      simpa [Backend.hasSign] using signs
    have apart : b.streams.Nodup :=
      (List.nodup_append.mp (h.ledger.streams.nodup_iff.mpr List.nodup_range)).2.1
    exact {
      ledger := by
        refine h.ledger.perm ?_ ?_
        · exact (List.perm_middle.symm.trans ((holds_wait h.sound apart signed).symm.append_left _))
        · rw [Backend.streams, Backend.streams, List.filterMap_map]
          refine .of_eq (List.filterMap_congr fun task _ => ?_).symm
          exact task.stream?_expect stream session
      sound := by
        intro task waited
        obtain ⟨before, member, same⟩ := List.mem_map.mp waited
        obtain rfl : before.expect stream session = task := same
        obtain ⟨number, guard, runs, kept, fits⟩ := h.sound before member
        exact ⟨number, guard, (before.stream?_expect stream session).trans runs,
          (congrArg Drain.guard (before.drain_expect stream session)).trans kept, fits⟩
      reports := h.reports }
  · rename_i unsigned
    exact h.release (h.quiet_of_drained (by simpa using unsigned))

/-! ## Data statements -/

variable {c c' : Connection} {others : List Hold} {transaction : TransactionId}
  {settings : TransactionSettings} {text : String} {control : TransactionControl}
  {parameters : NamedValues}

/-- Waiting leaves custody as it is, whether the wait is over or given up. -/
theorem awaitsDrain {drained : Bool} (h : b.Custody (c.holds ++ others) [])
    (waits : c.AwaitsDrain b (drained, c', b')) : b'.Custody (c'.holds ++ others) [] := by
  cases waits with
  | givenUp idles => exact h.idle idles
  | drained idles drained =>
    have idle := h.idle idles
    cases state : c.state with
    | inside transaction session settings =>
      rw [Connection.holds_inside state] at idle
      exact idle.drained drained
    | outside settings =>
      rw [Connection.holds, state] at idle
      exact idle
    | closed =>
      rw [Connection.holds, state] at idle
      exact idle

/-- When the wait for a stream was not given up, the session that is held is quiet, so the next
request may be made on it. -/
theorem awaited (h : b.Custody (c.holds ++ others) []) (waits : c.AwaitsDrain b (true, c', b'))
    (state : c'.state = .inside transaction session settings) :
    b'.Custody (⟨session.number, none⟩ :: others) [] ∧ c'.pending = none := by
  have settled := h.awaitsDrain waits
  rw [Connection.holds_inside state, waits.pending] at settled
  exact ⟨settled, waits.pending⟩

/-- A statement on the session that is held, which is quiet. If it is given up, its stream is the
one that the connection has to wait for. -/
theorem afterInside {result : Except BackendError (Nat × Collected) × Session × Backend}
    (h : b.Custody (⟨session.number, none⟩ :: others) []) (pending : c.pending = none)
    (executes : session.Executes b text control parameters deadline (fun stream _ => .sign stream)
      result) :
    (c.afterInside transaction settings result).2.2.Custody
      ((c.afterInside transaction settings result).2.1.holds ++ others) [] := by
  cases executes with
  | refused error requested =>
    rw [Connection.afterInside, Connection.holds, pending]
    exact h.requestedOn requested
  | misplaced error requested checked =>
    rw [Connection.afterInside, Connection.holds, pending]
    exact h.requestedOn requested
  | complete opened left requested opens consulted idles =>
    have completed := (h.started requested idles).1.completed
    rw [Connection.afterInside]
    cases opened with
    | some transaction => exact completed
    | none =>
      exact completed.release
        (completed.ledger.quiet_of_completed (Backend.completed_mem_record _ _))
  | failed opened status left requested opens consulted idles =>
    exact (h.started requested idles).1.completed
  | cancelled opened failure left rest requested opens consulted idles finishing =>
    exact leftBehind (h.started requested idles).1 finishing rfl

/-- A statement on a session of its own. The session is held by the connection after it, given back,
or kept by the stream that goes on in the background. -/
theorem afterOutside {result : Except BackendError (Nat × Collected) × Session × Backend}
    (h : b.Custody (⟨session.number, none⟩ :: others) [])
    (outside : c.state.isInside = false) (pending : c.pending = none)
    (executes : session.Executes b text control parameters deadline
      (fun _ session => .lease session) result) :
    (c.afterOutside settings result).2.2.Custody
      ((c.afterOutside settings result).2.1.holds ++ others) [] := by
  have idle : c.holds = [] := Connection.holds_not_inside outside
  cases executes with
  | refused error requested =>
    rw [Connection.afterOutside, idle]
    exact (h.requestedOn requested).release_idle
  | misplaced error requested checked =>
    rw [Connection.afterOutside, idle]
    exact (h.requestedOn requested).release_idle
  | complete opened left requested opens consulted idles =>
    rw [Connection.afterOutside]
    cases opened with
    | some transaction =>
      simp only [Connection.holds, pending]
      exact h.ended requested idles
    | none =>
      simp only [idle]
      exact (h.ended requested idles).release_idle
  | failed opened status left requested opens consulted idles =>
    rw [Connection.afterOutside, idle]
    exact (h.ended requested idles).release_idle
  | cancelled opened failure left rest requested opens consulted idles finishing =>
    rw [Connection.afterOutside, idle]
    obtain ⟨running, hosted⟩ := h.started requested idles
    exact leftBehind running finishing hosted

/-- A data statement keeps custody, whatever becomes of it. -/
theorem executesOne {out : Outcome QueryResult × Connection × Backend}
    (h : b.Custody (c.holds ++ others) []) (executes : c.ExecutesOne b text parameters out) :
    out.2.2.Custody (out.2.1.holds ++ others) [] := by
  cases executes with
  | givenUp waits => exact h.awaitsDrain waits
  | closed waits state => exact h.awaitsDrain waits
  | inside waits state executes =>
    obtain ⟨idle, pending⟩ := h.awaited waits state
    exact idle.afterInside pending executes
  | @outside c' b' settings out waits state executes =>
    have settled := h.awaitsDrain waits
    have outside : c'.state.isInside = false := by rw [state]; rfl
    rw [Connection.holds_not_inside outside, List.nil_append] at settled
    cases executes with
    | unserved error requested =>
      rw [Connection.holds_not_inside outside]
      exact settled.requestedNew requested
    | served requested executes =>
      exact (settled.requestedNew requested).serve.afterOutside outside waits.pending executes

/-! ## Other calls -/

theorem runsSchema {config : Config} {out : Outcome Unit × Backend} (h : b.Custody others [])
    (runs : config.RunsSchema b text out) : out.2.Custody others [] := by
  cases runs with
  | unserved error requested => exact h.requestedNew requested
  | refused error requested runs =>
    have served := (h.requestedNew requested).serve
    cases runs with
    | refused error requested => exact (served.requestedOn requested).release_idle
  | done requested runs =>
    have served := (h.requestedNew requested).serve
    cases runs with
    | done requested =>
      exact ((served.requestedOn requested).recordOn rfl rfl rfl rfl rfl).release_idle

theorem begins {out : Outcome Unit × Connection × Backend} (h : b.Custody (c.holds ++ others) [])
    (begins : c.Begins b settings out) : out.2.2.Custody (out.2.1.holds ++ others) [] := by
  cases begins with
  | closed state => exact h
  | already isInside => exact h
  | unserved error requested => exact h.requestedNew requested
  | refused error state requested begins =>
    have served := (h.requestedNew requested).serve
    cases begins with
    | refused error requested => exact (served.requestedOn requested).release_idle
  | done transaction state requested begins =>
    have outside : c.state.isInside = false := by rw [state]; rfl
    rw [Connection.holds_not_inside outside] at h
    have served := (h.requestedNew requested).serve
    cases begins with
    | done requested =>
      exact ((served.requestedOn requested).recordOn rfl rfl rfl rfl rfl).rename c.pending

/-- Whatever a session answers when its transaction is to be ended, it may be given back. -/
theorem sessionFinishes {session' : Session} {ending : Ending} {answer : Except BackendError Unit}
    (h : b.Custody (⟨session.number, none⟩ :: others) [])
    (finishes : session.Finishes b ending transaction deadline (answer, session', b')) :
    b'.Custody (⟨session'.number, none⟩ :: others) [] := by
  cases finishes with
  | refused error requested => exact h.requestedOn requested
  | misplaced error requested checked => exact h.requestedOn requested
  | done requested checked =>
    have granted := h.requestedOn requested
    cases ending with
    | commit => exact granted.recordOn rfl rfl rfl rfl rfl
    | rollback => exact granted.recordOn rfl rfl rfl rfl rfl

/-- Ending the transaction gives the session back, or leaves it with the connection. -/
theorem finishes {ending : Ending} {out : Outcome Unit × Connection × Backend}
    (h : b.Custody (c.holds ++ others) []) (finishes : c.Finishes b ending out) :
    out.2.2.Custody (out.2.1.holds ++ others) [] := by
  cases finishes with
  | givenUp waits => exact h.awaitsDrain waits
  | nothingOpen waits state => exact h.awaitsDrain waits
  | refused error waits state finishes =>
    obtain ⟨idle, pending⟩ := h.awaited waits state
    simp only [Connection.holds, pending]
    exact idle.sessionFinishes finishes
  | done waits state finishes =>
    obtain ⟨idle, pending⟩ := h.awaited waits state
    exact (idle.sessionFinishes finishes).release_idle

theorem forceCloses {out : Outcome Unit × Connection × Backend}
    (h : b.Custody (c.holds ++ others) []) (closes : c.ForceCloses b out) :
    out.2.2.Custody (out.2.1.holds ++ others) [] := by
  cases closes with
  | givenUp waits => exact h.awaitsDrain waits
  | nothingOpen waits state =>
    have settled := h.awaitsDrain waits
    rw [Connection.holds_not_inside state] at settled
    exact settled
  | rolledBack answer waits state finishes =>
    obtain ⟨idle, pending⟩ := h.awaited waits state
    exact (idle.sessionFinishes finishes).release_idle

/-- The session of a connection that is dropped is given back, or waits for its stream. -/
theorem dropConnection (h : b.Custody (c.holds ++ others) []) : (c.drop b).Custody others [] := by
  rw [Connection.drop]
  cases state : c.state with
  | inside transaction session settings =>
    rw [Connection.holds_inside state] at h
    cases pending : c.pending with
    | none => rw [pending] at h; exact h.release_idle
    | some stream => rw [pending] at h; exact h.releaseAfter
  | outside settings => rw [Connection.holds, state] at h; exact h
  | closed => rw [Connection.holds, state] at h; exact h

end Backend.Custody

/-- Every call keeps custody, whoever else holds sessions. The other holders are not touched by it,
so one connection can be looked at alone. -/
theorem Connection.law_custody (others : List Hold) :
    Connection.Law (fun c b => b.Custody (c.holds ++ others) []) fun _ => True where
  unreported h := h.reports
  executesOne h executes := ⟨h.executesOne executes, fun _ _ => trivial⟩
  runsSchema h runs := ⟨h.runsSchema runs, fun _ _ => trivial⟩
  begins h begins := ⟨h.begins begins, fun _ _ => trivial⟩
  finishes h finishes := ⟨h.finishes finishes, fun _ _ => trivial⟩
  forceCloses h closes := ⟨h.forceCloses closes, fun _ _ => trivial⟩
  idle h outside outside' := by
    rw [Connection.holds_not_inside outside] at h
    rw [Connection.holds_not_inside outside']
    exact h
  setQueryTimeout _ h := h

end SqlDriver
