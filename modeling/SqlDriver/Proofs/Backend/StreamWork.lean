import SqlDriver.Proofs.Stream.Finish

/-!
What streams do to a backend on their own. Pulling a stream, in a call or in the background, and
dropping what was kept for it adds to the journal that streams came to events or to their end and
that sessions were given back, and changes nothing of what the backend was told to do. The relation
is transitive, so it covers everything that may happen while a call is held up.
-/

namespace SqlDriver

/-- An entry that streams add on their own. -/
def Entry.isStreamWork : Entry → Bool
  | .emitted _ => true
  | .completed _ => true
  | .released _ => true
  | _ => false

/-- All that playing a script adds to the journal is work of its stream. -/
theorem Script.isStreamWork_entries (script : Script Mark Reply) :
    ∀ entry ∈ Script.entries script, entry.isStreamWork = true := by
  intro entry member
  obtain ⟨cue, -, added⟩ := List.mem_flatMap.mp member
  cases cue with
  | yield item => cases added
  | mark mark =>
    cases mark with
    | gate => cases added
    | emit stream =>
      rw [List.mem_singleton.mp added]
      rfl
    | complete stream =>
      rw [List.mem_singleton.mp added]
      rfl

/-- Nothing but streams has worked on a backend. -/
structure Backend.StreamWork (b b' : Backend) : Prop where
  journal : ∃ entries, b'.journal = b.journal ++ entries ∧
    ∀ entry ∈ entries, entry.isStreamWork = true
  injections : b'.injections = b.injections
  resultSets : b'.resultSets = b.resultSets
  reports : b'.reports = b.reports

/-- What may happen at a backend while a call takes in a stream: the stream comes to events, and the
surroundings do as they like while it is held up. -/
inductive Backend.Idles (b : Backend) : Backend → Prop
  | refl : Backend.Idles b b
  | emitted {b' : Backend} (idles : Backend.Idles b b') (stream : Nat) :
      Backend.Idles b (b'.record (.emitted stream))
  | stirred {b' : Backend} (idles : Backend.Idles b b') (stir : Stir) :
      Backend.Idles b (b'.stir stir)

/-- Any number of events may be recorded while a call takes a stream in. -/
theorem Backend.Idles.emit {b b' : Backend} (idles : b.Idles b') (streams : List Nat) :
    b.Idles (b'.emit streams) := by
  induction streams generalizing b' with
  | nil => rwa [Backend.emit_nil]
  | cons stream rest ih =>
    rw [← Backend.emit_record]
    exact ih (idles.emitted stream)

/-- Whatever happens while a call is held up once is part of its idling. -/
theorem Backend.Idles.stirAll {b b' : Backend} (idles : b.Idles b') (stirs : List Stir) :
    b.Idles (b'.stirAll stirs) := by
  induction stirs generalizing b' with
  | nil => exact idles
  | cons stir rest ih => exact ih (idles.stirred stir)

namespace Backend.StreamWork

variable {b b' b'' : Backend}

theorem refl (b : Backend) : b.StreamWork b where
  journal := ⟨[], by simp, by intro entry member; cases member⟩
  injections := rfl
  resultSets := rfl
  reports := rfl

/-- Work of streams that is followed by work of streams is again that, so only single steps have to
be looked at. -/
theorem trans (first : b.StreamWork b') (second : b'.StreamWork b'') : b.StreamWork b'' where
  journal := by
    obtain ⟨entries, added, work⟩ := first.journal
    obtain ⟨entries', added', work'⟩ := second.journal
    refine ⟨entries ++ entries', by rw [added', added, List.append_assoc], ?_⟩
    intro entry member
    rcases List.mem_append.mp member with member | member
    · exact work entry member
    · exact work' entry member
  injections := second.injections.trans first.injections
  resultSets := second.resultSets.trans first.resultSets
  reports := second.reports.trans first.reports

/-- The journal is only added to, so whatever was found in it once stays there. -/
theorem isPrefix (work : b.StreamWork b') : b.journal <+: b'.journal := by
  obtain ⟨entries, added, -⟩ := work.journal
  exact ⟨entries, added.symm⟩

theorem record (b : Backend) {entry : Entry} (work : entry.isStreamWork = true) :
    b.StreamWork (b.record entry) where
  journal := ⟨[entry], rfl, by intro other member; rwa [List.mem_singleton.mp member]⟩
  injections := rfl
  resultSets := rfl
  reports := rfl

theorem release (b : Backend) (session : Session) : b.StreamWork (b.release session) :=
  record b rfl

/-- What is kept for a stream is given back when it is dropped, which is work of the stream; a sign
is only forgotten. -/
theorem dropKept (b : Backend) (guard : Guard) : b.StreamWork (b.dropKept guard) := by
  cases guard with
  | lease session => exact release b session
  | sign number => exact refl b
  | nothing => exact refl b

theorem dropGuard (b : Backend) (guard : Option Guard) :
    b.StreamWork (SqlDriver.dropGuard guard b) := by
  cases guard with
  | none => exact refl b
  | some guard => exact dropKept b guard

/-- A change of the background alone. -/
theorem setBackground (b : Backend) (background : List Background) :
    b.StreamWork { b with background := background } :=
  ⟨(refl b).journal, rfl, rfl, rfl⟩

/-- Playing a part of a script is work of its stream. -/
theorem played {script left : Script Mark Reply} {taken : List Reply}
    (played : Script.Played script b taken left b') : b.StreamWork b' := by
  obtain ⟨entries, rfl, split⟩ := played.extends
  refine ⟨⟨entries, rfl, fun entry member => ?_⟩, rfl, rfl, rfl⟩
  refine Script.isStreamWork_entries script entry ?_
  rw [split]
  exact List.mem_append_left _ member

/-- A pull is work of its stream, whatever script the stream has. -/
theorem poll (script : Script Mark Reply) (b : Backend) :
    b.StreamWork (Script.poll script b).2.2 := by
  have pulls := Script.pulls script b
  generalize Script.poll script b = pulled at pulls
  cases pulls with
  | item front => exact played front
  | stalled front held => exact played front
  | ended front => exact played front

/-- Bringing a stream to its end is work of it, however far it gets. -/
theorem drain (script : Script Mark Reply) (b : Backend) :
    b.StreamWork (Script.drain script b).2 := by
  have pulls := Script.pullsOut script b
  generalize Script.drain script b = left at pulls
  cases pulls with
  | held front held => exact played front
  | ended front => exact played front

/-! ## The background -/

theorem releaseAll (b : Backend) (sessions : List Session) :
    b.StreamWork (sessions.foldl Backend.release b) := by
  induction sessions generalizing b with
  | nil => exact refl b
  | cons session rest ih => exact (release b session).trans (ih _)

theorem resume (b : Backend) (waiting : List Session) (left : Option (Drain Mark Reply Guard)) :
    b.StreamWork (b.resume waiting left) := by
  cases left with
  | none => exact releaseAll b waiting
  | some drain => exact setBackground b _

theorem run (drain : Drain Mark Reply Guard) (b : Backend) : b.StreamWork (drain.run b).2 := by
  have work := StreamWork.drain drain.script b
  rw [Drain.run]
  split
  · rename_i played
    rwa [played] at work
  · rename_i played
    rw [played] at work
    exact work.trans (dropGuard _ drain.guard)

theorem pull (drain : Drain Mark Reply Guard) (b : Backend) : b.StreamWork (drain.pull b).2 := by
  have work := poll drain.script b
  rw [Drain.pull]
  split
  · rename_i played
    rw [played] at work
    exact work.trans (dropGuard _ drain.guard)
  · rename_i played
    rwa [played] at work

theorem runTask (b : Backend) (task : Background) : b.StreamWork (b.runTask task) :=
  (run task.drain b).trans (resume _ task.waiting _)

theorem pullTask (b : Backend) (task : Background) : b.StreamWork (b.pullTask task) :=
  (pull task.drain b).trans (resume _ task.waiting _)

theorem runTasks (b : Backend) (tasks : List Background) :
    b.StreamWork (tasks.foldl Backend.runTask b) := by
  induction tasks generalizing b with
  | nil => exact refl b
  | cons task rest ih => exact (runTask b task).trans (ih _)

/-- All that may happen at a backend on its own is work of streams, except for the gate, of which
the relation says nothing. -/
theorem stir (b : Backend) (stir : Stir) : b.StreamWork (b.stir stir) := by
  cases stir with
  | openGate => exact ⟨(refl b).journal, rfl, rfl, rfl⟩
  | closeGate => exact ⟨(refl b).journal, rfl, rfl, rfl⟩
  | settle => exact (setBackground b []).trans (runTasks _ b.background)
  | pullFirst =>
    rw [Backend.stir, Backend.pullFirst]
    split
    · exact refl b
    · exact (setBackground b _).trans (pullTask _ _)
  | rotate =>
    rw [Backend.stir, Backend.rotate]
    split
    · exact refl b
    · exact setBackground b _

theorem releaseAfter (b : Backend) (stream : Nat) (session : Session) :
    b.StreamWork (b.releaseAfter stream session) := by
  rw [Backend.releaseAfter]
  split
  · exact setBackground b _
  · exact release b session

end Backend.StreamWork

/-- What happens while a call takes a stream in is work of streams. -/
theorem Backend.Idles.streamWork {b b' : Backend} (idles : b.Idles b') : b.StreamWork b' := by
  induction idles with
  | refl => exact .refl b
  | emitted idles stream work => exact work.trans (.record _ rfl)
  | stirred idles stir work => exact work.trans (.stir _ stir)

end SqlDriver
