import SqlDriver.Proofs.Backend.Custody
import SqlDriver.Proofs.Backend.StreamWork

/-!
Custody while streams go on in the background. However a background stream is let go on, it is
either still there afterwards with all it keeps, or it has come to its end, and what it kept was
given back after that. So nothing that may happen while a call is held up disturbs custody.
-/

namespace SqlDriver

theorem Backend.completed_mem_record (b : Backend) (stream : Nat) :
    Entry.completed stream ∈ (b.record (.completed stream)).journal :=
  List.mem_append_right _ List.mem_cons_self

theorem Backend.isPrefix_emit (b : Backend) (streams : List Nat) :
    b.journal <+: (b.emit streams).journal :=
  List.prefix_append _ _

namespace Backend.Custody

variable {b : Backend} {outside : List Hold} {running : List Nat} {task : Background}
  {stream : Nat} {guard : Guard}

/-- A background stream that does not end stays, with all it keeps. It goes behind the others, which
custody does not tell apart. -/
theorem resume_held (h : b.Custody (task.holds ++ outside) (task.stream?.toList ++ running))
    (runs : task.stream? = some stream) (kept : task.drain.guard = some guard)
    (fits : Guard.Fits b.journal stream guard) (events : List Nat) {rest : Script Mark Reply}
    (finishing : Script.finish? rest = some stream) :
    ((b.emit events).resume task.waiting (some { task.drain with script := rest })).Custody
      outside running := by
  have same : Background.holds ⟨{ task.drain with script := rest }, task.waiting⟩ = task.holds := by
    rw [Background.holds, Background.holds, runs, Background.stream?, finishing]
  have emitted := h.emit events
  apply Backend.Custody.putLast
  · rw [same, Background.stream?, finishing]
    rw [runs] at emitted
    exact emitted
  · exact ⟨stream, guard, finishing, kept, fits.extend (b.isPrefix_emit events)⟩

/-- A background stream that ends gives back all it keeps, after its end. The entry of the end comes
first in the journal, so each session is free of the stream when it is given back. -/
theorem resume_ended (h : b.Custody (task.holds ++ outside) (task.stream?.toList ++ running))
    (runs : task.stream? = some stream) (kept : task.drain.guard = some guard)
    (events : List Nat) :
    ((((b.emit events).record (.completed stream)).dropKept guard).resume task.waiting
      none).Custody outside running := by
  have holds : task.holds =
      guard.holds (some stream) ++ Hold.waiting (some stream) task.waiting := by
    simp [Background.holds, runs, kept]
  rw [runs, holds, List.append_assoc] at h
  have completed := (h.emit events).completed
  have ended := (b.emit events).completed_mem_record stream
  have longer := (StreamWork.dropKept ((b.emit events).record (.completed stream)) guard).isPrefix
  exact (completed.dropKept ended).releaseWaiting (longer.subset ended)

/-- A stream that was taken out of the background runs as far as it can, and custody is again what
it was before the stream was taken out. -/
theorem runTask (h : b.Custody (task.holds ++ outside) (task.stream?.toList ++ running))
    (sound : Background.Sound b.journal task) : (b.runTask task).Custody outside running := by
  obtain ⟨stream, guard, runs, kept, fits⟩ := sound
  have drains := Script.drains runs b
  rw [Backend.runTask, Drain.run]
  generalize Script.drain task.drain.script b = left at drains
  cases drains with
  | held events rest closed finishing => exact h.resume_held runs kept fits events finishing
  | ended events =>
    simp only [Drain.finish_eq, kept]
    exact h.resume_ended runs kept events

/-- A stream that was taken out of the background is pulled once. -/
theorem pullTask (h : b.Custody (task.holds ++ outside) (task.stream?.toList ++ running))
    (sound : Background.Sound b.journal task) : (b.pullTask task).Custody outside running := by
  obtain ⟨stream, guard, runs, kept, fits⟩ := sound
  have polls := Script.polls runs b
  rw [Backend.pullTask, Drain.pull]
  generalize Script.poll task.drain.script b = pulled at polls
  cases polls with
  | item events item rest finishing items => exact h.resume_held runs kept fits events finishing
  | stalled events rest closed finishing items =>
    exact h.resume_held runs kept fits events finishing
  | ended events items =>
    simp only [Drain.finish_eq, kept]
    exact h.resume_ended runs kept events

/-- Streams that were taken out of the background run one after the other. -/
theorem runTasks {tasks : List Background}
    (h : b.Custody (tasks.flatMap Background.holds ++ outside)
      (tasks.filterMap Background.stream? ++ running))
    (sound : ∀ task ∈ tasks, Background.Sound b.journal task) :
    (tasks.foldl Backend.runTask b).Custody outside running := by
  induction tasks generalizing b with
  | nil => exact h
  | cons task rest ih =>
    have taken : b.Custody (task.holds ++ (rest.flatMap Background.holds ++ outside))
        (task.stream?.toList ++ (rest.filterMap Background.stream? ++ running)) := by
      rw [List.flatMap_cons, List.append_assoc, List.filterMap_cons] at h
      cases runs : task.stream? <;> simpa [runs] using h
    have longer := (StreamWork.runTask b task).isPrefix
    apply ih (taken.runTask (sound task List.mem_cons_self))
    intro other member
    exact (sound other (List.mem_cons_of_mem _ member)).extend longer

/-- Takes every stream out of the background. -/
theorem takeAll (h : b.Custody outside running) :
    { b with background := [] }.Custody (b.background.flatMap Background.holds ++ outside)
      (b.background.filterMap Background.stream? ++ running) where
  ledger := by
    refine h.ledger.perm ?_ ?_
    · rw [Backend.holds, Backend.holds, List.flatMap_nil, List.append_nil]
      exact List.perm_append_comm
    · rw [Backend.streams, Backend.streams, List.filterMap_nil, List.append_nil]
      exact List.perm_append_comm
  sound := by intro task member; cases member
  reports := h.reports

/-- Nothing that may happen while a call is held up disturbs custody: what changes is only where the
sessions of background streams are on their way. -/
theorem stir (h : b.Custody outside running) (stir : Stir) :
    (b.stir stir).Custody outside running := by
  cases stir with
  | openGate => exact h.congr rfl rfl rfl
  | closeGate => exact h.congr rfl rfl rfl
  | settle => exact h.takeAll.runTasks h.sound
  | pullFirst =>
    rw [Backend.stir, Backend.pullFirst]
    split
    · exact h
    · rename_i task rest first
      obtain ⟨sound, taken⟩ := h.takeFirst first
      exact taken.pullTask sound
  | rotate =>
    rw [Backend.stir, Backend.rotate]
    split
    · exact h
    · rename_i task rest first
      obtain ⟨sound, taken⟩ := h.takeFirst first
      exact taken.putLast sound

/-- Custody outlasts any number of events and of things that happen while a call is held up. -/
theorem idle {b' : Backend} (h : b.Custody outside running) (idles : b.Idles b') :
    b'.Custody outside running := by
  induction idles with
  | refl => exact h
  | emitted idles stream ih => exact ih.emitted stream
  | stirred idles stir ih => exact ih.stir stir

end Backend.Custody

/-! ## With the gate open -/

theorem Backend.releaseAll_gateOpen (b : Backend) (sessions : List Session) :
    (sessions.foldl Backend.release b).gateOpen = b.gateOpen ∧
      (sessions.foldl Backend.release b).background = b.background := by
  induction sessions generalizing b with
  | nil => exact ⟨rfl, rfl⟩
  | cons session rest ih => exact ih (b.release session)

theorem Backend.dropGuard_gateOpen (b : Backend) (guard : Option Guard) :
    (dropGuard guard b).gateOpen = b.gateOpen ∧ (dropGuard guard b).background = b.background := by
  cases guard with
  | none => exact ⟨rfl, rfl⟩
  | some guard => cases guard <;> exact ⟨rfl, rfl⟩

/-- While the gate is open, a stream that was taken out of the background comes to its end. -/
theorem Backend.runTask_of_gateOpen {b : Backend} (gate : b.gateOpen = true) (task : Background) :
    (b.runTask task).gateOpen = true ∧ (b.runTask task).background = b.background := by
  obtain ⟨none, still, same⟩ := Script.drain_of_gateOpen task.drain.script gate
  rw [Backend.runTask, Drain.run]
  generalize Script.drain task.drain.script b = left at none still same
  obtain ⟨left, b'⟩ := left
  obtain rfl : left = .none := none
  obtain ⟨gate', background'⟩ := b'.dropGuard_gateOpen task.drain.guard
  obtain ⟨gate'', background''⟩ :=
    Backend.releaseAll_gateOpen (dropGuard task.drain.guard b') task.waiting
  exact ⟨(gate''.trans gate').trans still, (background''.trans background').trans same⟩

/-- While the gate is open, background streams that run one after the other leave nothing behind. -/
theorem Backend.runTasks_of_gateOpen {b : Backend} (gate : b.gateOpen = true)
    (tasks : List Background) : (tasks.foldl Backend.runTask b).background = b.background := by
  induction tasks generalizing b with
  | nil => rfl
  | cons task rest ih =>
    obtain ⟨still, same⟩ := Backend.runTask_of_gateOpen gate task
    exact (ih still).trans same

theorem Backend.runTasks_gateOpen {b : Backend} (gate : b.gateOpen = true)
    (tasks : List Background) : (tasks.foldl Backend.runTask b).gateOpen = true := by
  induction tasks generalizing b with
  | nil => exact gate
  | cons task rest ih => exact ih (Backend.runTask_of_gateOpen gate task).1

/-- While the gate is open, letting the background run leaves nothing of it. -/
theorem Backend.settle_of_gateOpen {b : Backend} (gate : b.gateOpen = true) :
    b.settle.background = [] := by
  have emptied : { b with background := [] }.gateOpen = true := gate
  exact Backend.runTasks_of_gateOpen emptied b.background

end SqlDriver
