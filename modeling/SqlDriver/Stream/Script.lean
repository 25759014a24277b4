/-!
Streams as scripts. A script is the list of what a stream will still do when it is pulled: hand out
an item, or pass a mark. What a mark means lies with the `Stage` that the stream plays on: passing
it may change the stage, and the stage may refuse to let it pass, so that the pull stalls and the
mark has to be tried again later. When nothing is left the stream signals its end.
-/

namespace SqlDriver

/-- One thing that a stream does when it is pulled. -/
inductive Cue (μ α : Type) where
  | mark (mark : μ)
  | yield (item : α)
deriving Repr

/-- All that a stream will still do. -/
abbrev Script (μ α : Type) := List (Cue μ α)

/-- Something that happens to a stream with items `α`, or to a guard `γ` that is kept until the
stream has ended. -/
inductive Notice (α γ : Type) where
  /-- An item was taken from the stream. -/
  | pulled (item : α)
  /-- The stream signalled its end. -/
  | ended
  /-- The stream was given up. -/
  | streamDropped
  | guardDropped (guard : γ)
deriving Repr

/-- The surroundings of streams: whether and how marks pass, and what notices change. -/
class Stage (σ : Type) (μ α γ : outParam Type) where
  /-- The stage after a mark has passed; absent while it may not pass. -/
  pass : μ → σ → Option σ
  note : Notice α γ → σ → σ

/-- The answer to one pull. -/
inductive Polled (α : Type) where
  | item (item : α)
  | ended
  | stalled
deriving Repr

variable {σ μ α γ : Type} [Stage σ μ α γ]

/-- Pulls once: marks are passed up to the next item or the end. -/
def Script.poll : Script μ α → σ → Polled α × Script μ α × σ
  | [], stage => (.ended, [], Stage.note .ended stage)
  | .yield item :: rest, stage => (.item item, rest, Stage.note (.pulled item) stage)
  | .mark mark :: rest, stage =>
    match Stage.pass mark stage with
    | none => (.stalled, .mark mark :: rest, stage)
    | some stage => Script.poll rest stage

/-- Pulls until the end, discarding every item, and answers with what is left if a mark holds the
stream before that. -/
def Script.drain : Script μ α → σ → Option (Script μ α) × σ
  | [], stage => (none, Stage.note .ended stage)
  | .yield item :: rest, stage => Script.drain rest (Stage.note (.pulled item) stage)
  | .mark mark :: rest, stage =>
    match Stage.pass mark stage with
    | none => (some (.mark mark :: rest), stage)
    | some stage => Script.drain rest stage

/-! ## What a script holds -/

/-- The items that a script will still hand out. -/
def Script.items {μ α : Type} (script : Script μ α) : List α :=
  script.filterMap fun
    | .yield item => some item
    | .mark _ => none

/-- The number of marks that a script has still to pass. -/
def Script.marks {μ α : Type} (script : Script μ α) : Nat :=
  script.countP fun
    | .yield _ => false
    | .mark _ => true

@[simp] theorem Script.items_yield {μ α : Type} (item : α) (rest : Script μ α) :
    Script.items (.yield item :: rest) = item :: Script.items rest := rfl

@[simp] theorem Script.items_mark {μ α : Type} (mark : μ) (rest : Script μ α) :
    Script.items (.mark mark :: rest) = Script.items rest := rfl

theorem Script.items_append {μ α : Type} (front rest : Script μ α) :
    Script.items (front ++ rest) = Script.items front ++ Script.items rest := by
  rw [Script.items, List.filterMap_append]
  rfl

@[simp] theorem Script.marks_yield {μ α : Type} (item : α) (rest : Script μ α) :
    Script.marks (.yield item :: rest) = Script.marks rest := rfl

@[simp] theorem Script.marks_mark {μ α : Type} (mark : μ) (rest : Script μ α) :
    Script.marks (.mark mark :: rest) = Script.marks rest + 1 :=
  List.countP_cons_of_pos rfl

theorem Script.marks_append {μ α : Type} (front rest : Script μ α) :
    Script.marks (front ++ rest) = Script.marks front + Script.marks rest := by
  rw [Script.marks, List.countP_append]
  rfl

/-- A script is made of its items and its marks. -/
theorem Script.length_eq {μ α : Type} (script : Script μ α) :
    script.length = (Script.items script).length + Script.marks script := by
  induction script with
  | nil => rfl
  | cons cue rest ih =>
    cases cue with
    | yield item =>
      rw [List.length_cons, ih, Script.items_yield, Script.marks_yield, List.length_cons]
      omega
    | mark mark =>
      rw [List.length_cons, ih, Script.items_mark, Script.marks_mark]
      omega

/-! ## Pulls -/

/-- An item leaves less of the script, as the pull that takes it takes at least this one cue. -/
theorem Script.length_poll_lt {script rest : Script μ α} {stage stage' : σ} {item : α}
    (polled : Script.poll script stage = (.item item, rest, stage')) :
    rest.length < script.length := by
  induction script generalizing stage with
  | nil => simp [Script.poll] at polled
  | cons cue tail ih =>
    cases cue with
    | yield other =>
      simp only [Script.poll, Prod.mk.injEq] at polled
      simp [← polled.2.1]
    | mark mark =>
      simp only [Script.poll] at polled
      split at polled
      · simp at polled
      · have := ih polled
        simp only [List.length_cons]
        omega

/-- A pull never leaves more of the script. -/
theorem Script.length_poll_le (script : Script μ α) (stage : σ) :
    (Script.poll script stage).2.1.length ≤ script.length := by
  induction script generalizing stage with
  | nil => simp [Script.poll]
  | cons cue tail ih =>
    cases cue with
    | yield other => simp [Script.poll]
    | mark mark =>
      simp only [Script.poll]
      split
      · simp
      · rename_i passed _
        have := ih passed
        simp only [List.length_cons]
        omega

end SqlDriver
