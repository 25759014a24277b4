import SqlDriver.Backend.Basic
import SqlDriver.Proofs.Stream.Played

/-!
Result streams on their way to their end. The script of a running stream ends with the mark of the
stream's own end and holds no such mark before that. Pulling it therefore does one of few things to
the backend: events are recorded, and then the stream hands out an item, or is held by the gate, or
comes to its end, which is recorded last.
-/

namespace SqlDriver

/-- The stream that a script belongs to, when the script ends with the mark of that stream's end and
has no such mark before. -/
def Script.finish? : Script Mark Reply → Option Nat
  | [] => none
  | .mark (.complete stream) :: rest => if rest.isEmpty then some stream else none
  | _ :: rest => Script.finish? rest

/-- Records that streams came to events. -/
def Backend.emit (b : Backend) (streams : List Nat) : Backend :=
  { b with journal := b.journal ++ streams.map .emitted }

@[simp] theorem Backend.emit_nil (b : Backend) : b.emit [] = b := by
  simp [Backend.emit]

theorem Backend.emit_record (b : Backend) (stream : Nat) (streams : List Nat) :
    (b.record (.emitted stream)).emit streams = b.emit (stream :: streams) := by
  simp [Backend.emit, Backend.record]

section Equations

variable {rest : Script Mark Reply} {item : Reply} {mark : Mark} {stream stream' : Nat}

/-- The mark of a stream's end is the last of a script that belongs to the stream. -/
theorem Script.finish?_complete_eq_some
    (finishing : Script.finish? (.mark (.complete stream') :: rest) = some stream) :
    stream' = stream ∧ rest = [] := by
  rw [Script.finish?] at finishing
  split at finishing
  · rename_i last
    exact ⟨Option.some.inj finishing, List.isEmpty_iff.mp last⟩
  · cases finishing

end Equations

/-! ## What is played on a backend -/

/-- Adds entries to the journal, and changes nothing else. -/
def Backend.extend (b : Backend) (entries : Journal) : Backend :=
  { b with journal := b.journal ++ entries }

@[simp] theorem Backend.extend_nil (b : Backend) : b.extend [] = b := by
  rw [Backend.extend, List.append_nil]

theorem Backend.extend_extend (b : Backend) (first second : Journal) :
    (b.extend first).extend second = b.extend (first ++ second) := by
  simp only [Backend.extend, List.append_assoc]

/-- The entries that passing a cue adds. -/
def Cue.entries : Cue Mark Reply → Journal
  | .mark (.emit stream) => [.emitted stream]
  | .mark (.complete stream) => [.completed stream]
  | _ => []

/-- The entries that playing a script to its end adds. -/
def Script.entries (script : Script Mark Reply) : Journal := script.flatMap Cue.entries

/-- A mark that passes adds its entries to the journal and changes nothing else. -/
theorem Backend.eq_of_pass {mark : Mark} {b b' : Backend} (passes : Stage.pass mark b = some b') :
    b' = b.extend (Cue.entries (.mark mark)) := by
  cases mark with
  | gate =>
    have passes : (if b.gateOpen then some b else none) = some b' := passes
    split at passes
    · rw [← Option.some.inj passes]
      exact b.extend_nil.symm
    · cases passes
  | emit stream => exact (Option.some.inj passes).symm
  | complete stream => exact (Option.some.inj passes).symm

/-- Nothing but the gate holds a mark, and only while it is closed. Every stall of a backend's
stream is therefore one that opening the gate resolves. -/
theorem Backend.closed_of_held {mark : Mark} {b : Backend}
    (held : (Stage.pass mark b : Option Backend) = none) :
    mark = .gate ∧ b.gateOpen = false := by
  cases mark with
  | gate =>
    have held : (if b.gateOpen then some b else none) = none := held
    split at held
    · cases held
    · rename_i closed
      exact ⟨rfl, Bool.eq_false_iff.mpr closed⟩
  | emit stream => cases held
  | complete stream => cases held

/-- Playing a script adds to the journal the entries of the part that is played, and changes nothing
else at a backend. -/
theorem Script.Played.extends {script left : Script Mark Reply} {b b' : Backend}
    {taken : List Reply} (played : Script.Played script b taken left b') :
    ∃ entries, b' = b.extend entries ∧ Script.entries script = entries ++ Script.entries left := by
  induction played with
  | refl script b => exact ⟨[], b.extend_nil.symm, rfl⟩
  | @mark mark rest left b passed last taken passes played ih =>
    obtain ⟨entries, rfl, split⟩ := ih
    obtain rfl := Backend.eq_of_pass passes
    refine ⟨Cue.entries (.mark mark) ++ entries, Backend.extend_extend .., ?_⟩
    rw [Script.entries, List.flatMap_cons, List.append_assoc, ← split]
    rfl
  | item played ih => exact ih

/-- Playing a script touches neither the gate nor the background. -/
theorem Script.Played.gateOpen {script left : Script Mark Reply} {b b' : Backend}
    {taken : List Reply} (played : Script.Played script b taken left b') :
    b'.gateOpen = b.gateOpen ∧ b'.background = b.background := by
  obtain ⟨entries, rfl, -⟩ := played.extends
  exact ⟨rfl, rfl⟩

/-- Of a background stream that has ended a backend notices the guard alone. -/
theorem Drain.finish_eq (drain : Drain Mark Reply Guard) (b : Backend) :
    drain.finish b = dropGuard drain.guard b := rfl

/-- A pull leaves the gate as it is. -/
theorem Script.gateOpen_poll {script rest : Script Mark Reply} {answer : Polled Reply}
    {b b' : Backend} (polled : Script.poll script b = (answer, rest, b')) :
    b'.gateOpen = b.gateOpen := by
  cases Script.pulls_eq polled with
  | item played => exact played.gateOpen.1
  | stalled played held => exact played.gateOpen.1
  | ended played => exact played.gateOpen.1

/-- While the gate is open, no pull is held. -/
theorem Script.poll_ne_stalled {script rest : Script Mark Reply} {b b' : Backend}
    (gate : b.gateOpen = true) : Script.poll script b ≠ (.stalled, rest, b') := by
  intro polled
  cases Script.pulls_eq polled with
  | stalled played held =>
    have closed := played.gateOpen.1.symm.trans (Backend.closed_of_held held).2
    cases closed.symm.trans gate

/-- While the gate is open nothing holds a stream: bringing it to its end leaves nothing of its
script, and touches neither the gate nor the background. -/
theorem Script.drain_of_gateOpen (script : Script Mark Reply) {b : Backend}
    (gate : b.gateOpen = true) :
    (Script.drain script b).1 = none ∧ (Script.drain script b).2.gateOpen = true ∧
      (Script.drain script b).2.background = b.background := by
  have pulls := Script.pullsOut script b
  generalize Script.drain script b = left at pulls
  cases pulls with
  | held played held =>
    have closed := played.gateOpen.1.symm.trans (Backend.closed_of_held held).2
    cases closed.symm.trans gate
  | ended played => exact ⟨rfl, played.gateOpen.1.trans gate, played.gateOpen.2⟩

/-! ## Streams with an end -/

/-- As long as the mark of a stream's end is left of its script, playing it has done nothing but
record that the stream came to events. When that mark is played, nothing is left, and the stream's
end is recorded last. -/
theorem Script.Played.finish_cases {stream : Nat} {script left : Script Mark Reply} {b b' : Backend}
    {taken : List Reply} (played : Script.Played script b taken left b')
    (finishing : Script.finish? script = some stream) :
    (Script.finish? left = some stream ∧ ∃ events, b' = b.emit events) ∨
      left = [] ∧ ∃ events, b' = (b.emit events).record (.completed stream) := by
  induction played with
  | refl script b => exact Or.inl ⟨finishing, [], b.emit_nil.symm⟩
  | @mark mark rest left b passed last taken passes played ih =>
    obtain rfl := Backend.eq_of_pass passes
    cases mark with
    | gate =>
      have same : b.extend (Cue.entries (.mark .gate)) = b := b.extend_nil
      rw [same] at ih
      exact ih finishing
    | emit number =>
      rcases ih finishing with ⟨later, events, rfl⟩ | ⟨none, events, rfl⟩
      · exact Or.inl ⟨later, number :: events, b.emit_record number events⟩
      · refine Or.inr ⟨none, number :: events, ?_⟩
        rw [← b.emit_record number events]
        rfl
    | complete number =>
      obtain ⟨rfl, rfl⟩ := Script.finish?_complete_eq_some finishing
      cases played with
      | refl => exact Or.inr ⟨rfl, [], by rw [Backend.emit_nil]; rfl⟩
  | item played ih => exact ih finishing

/-- What one pull of a stream may do. -/
inductive Script.Polls (stream : Nat) (script : Script Mark Reply) (b : Backend) :
    Polled Reply × Script Mark Reply × Backend → Prop
  | item (events : List Nat) (item : Reply) (rest : Script Mark Reply)
      (finishing : Script.finish? rest = some stream)
      (items : Script.items script = item :: Script.items rest) :
      Script.Polls stream script b (.item item, rest, b.emit events)
  | stalled (events : List Nat) (rest : Script Mark Reply) (closed : b.gateOpen = false)
      (finishing : Script.finish? rest = some stream)
      (items : Script.items script = Script.items rest) :
      Script.Polls stream script b (.stalled, rest, b.emit events)
  | ended (events : List Nat) (items : Script.items script = []) :
      Script.Polls stream script b (.ended, [], (b.emit events).record (.completed stream))

/-- One pull of a stream that has not ended. The script that is left belongs to the same stream,
unless the pull met the end, which it then has recorded. -/
theorem Script.polls {stream : Nat} {script : Script Mark Reply}
    (finishing : Script.finish? script = some stream) (b : Backend) :
    Script.Polls stream script b (Script.poll script b) := by
  have pulls := Script.pulls script b
  generalize Script.poll script b = pulled at pulls
  cases pulls with
  | item played =>
    rcases played.finish_cases finishing with ⟨later, events, rfl⟩ | ⟨none, -⟩
    · exact .item events _ _ later played.items
    · cases none
  | stalled played held =>
    rcases played.finish_cases finishing with ⟨later, events, rfl⟩ | ⟨none, -⟩
    · exact .stalled events _ (Backend.closed_of_held held).2 later played.items
    · cases none
  | ended played =>
    rcases played.finish_cases finishing with ⟨later, -⟩ | ⟨-, events, rfl⟩
    · cases later
    · exact .ended events played.items

/-- The form of `Script.polls` for a pull whose outcome is known. -/
theorem Script.polls_eq {stream : Nat} {script : Script Mark Reply} {b : Backend}
    {pulled : Polled Reply × Script Mark Reply × Backend}
    (finishing : Script.finish? script = some stream) (polled : Script.poll script b = pulled) :
    Script.Polls stream script b pulled :=
  polled ▸ Script.polls finishing b

/-- What bringing a stream to its end may do. -/
inductive Script.Drains (stream : Nat) (b : Backend) : Option (Script Mark Reply) × Backend → Prop
  | held (events : List Nat) (rest : Script Mark Reply) (closed : b.gateOpen = false)
      (finishing : Script.finish? rest = some stream) :
      Script.Drains stream b (some rest, b.emit events)
  | ended (events : List Nat) :
      Script.Drains stream b (none, (b.emit events).record (.completed stream))

/-- Bringing a stream to its end on a backend either records the end or is held by the closed gate,
with a script of the same stream left. -/
theorem Script.drains {stream : Nat} {script : Script Mark Reply}
    (finishing : Script.finish? script = some stream) (b : Backend) :
    Script.Drains stream b (Script.drain script b) := by
  have pulls := Script.pullsOut script b
  generalize Script.drain script b = left at pulls
  cases pulls with
  | held played held =>
    rcases played.finish_cases finishing with ⟨later, events, rfl⟩ | ⟨none, -⟩
    · exact .held events _ (Backend.closed_of_held held).2 later
    · cases none
  | ended played =>
    rcases played.finish_cases finishing with ⟨later, -⟩ | ⟨-, events, rfl⟩
    · cases later
    · exact .ended events

/-- The form of `Script.drains` for bringing a stream to its end where the outcome is known. -/
theorem Script.drains_eq {stream : Nat} {script : Script Mark Reply} {b : Backend}
    {left : Option (Script Mark Reply) × Backend} (finishing : Script.finish? script = some stream)
    (drained : Script.drain script b = left) : Script.Drains stream b left :=
  drained ▸ Script.drains finishing b

end SqlDriver
