import SqlDriver.Stream.Relay

/-!
Playing a script, apart from the way it is pulled. Whoever pulls a script plays a front part of it:
marks pass one after the other, and items are taken and noted. `Script.Played` is that front part,
with the stage before it and the stage after it. One pull plays marks up to an item, up to the end
or up to a mark that is held, and pulling to the end plays everything up to the end or to such a
mark. What playing does to a stage is so shown once, by induction on `Script.Played`, and read off
for both ways of pulling.

Two stages are in step when the same marks pass on both and they stay so whatever is noted. What is
done with a stream then comes to the same on the one and on the other.
-/

namespace SqlDriver

variable {σ τ μ α γ : Type} [Stage σ μ α γ] [Stage τ μ α γ]

/-! ## The front part that is played -/

/-- A front part of a script is played: the script and the stage before it, the items that are
taken, and what is left of the script with the stage after it. -/
inductive Script.Played : Script μ α → σ → List α → Script μ α → σ → Prop
  | refl (script : Script μ α) (stage : σ) : Script.Played script stage [] script stage
  | mark {mark : μ} {rest left : Script μ α} {stage passed last : σ} {items : List α}
      (passes : Stage.pass mark stage = some passed)
      (played : Script.Played rest passed items left last) :
      Script.Played (.mark mark :: rest) stage items left last
  | item {item : α} {rest left : Script μ α} {stage last : σ} {items : List α}
      (played : Script.Played rest (Stage.note (.pulled item) stage) items left last) :
      Script.Played (.yield item :: rest) stage (item :: items) left last

/-- The items that are taken are the first ones of the script, and the others are left: marks take
nothing and hand out nothing, whether they pass or hold. -/
theorem Script.Played.items {script left : Script μ α} {stage last : σ} {taken : List α}
    (played : Script.Played script stage taken left last) :
    Script.items script = taken ++ Script.items left := by
  induction played with
  | refl => rfl
  | mark passes played ih => exact ih
  | item played ih => exact congrArg _ ih

/-- A pull that has passed some marks goes on from there. No item may have been taken, since a pull
stops at the first one. -/
theorem Script.Played.poll_eq {script left : Script μ α} {stage last : σ}
    (played : Script.Played script stage [] left last) :
    Script.poll script stage = Script.poll left last := by
  generalize none : ([] : List α) = taken at played
  induction played with
  | refl => rfl
  | mark passes played ih =>
    rw [Script.poll, passes]
    exact ih none
  | item => cases none

/-- Pulling to the end goes on from whatever has been played, items included, since it takes every
item on its way. -/
theorem Script.Played.drain_eq {script left : Script μ α} {stage last : σ} {taken : List α}
    (played : Script.Played script stage taken left last) :
    Script.drain script stage = Script.drain left last := by
  induction played with
  | refl => rfl
  | mark passes played ih =>
    rw [Script.drain, passes]
    exact ih
  | item played ih => exact ih

/-! ## What is pulled -/

/-- What one pull comes to: after the marks that pass it takes an item, is held by a mark, or meets
the end. -/
inductive Script.Pulls (script : Script μ α) (stage : σ) : Polled α × Script μ α × σ → Prop
  | item {item : α} {rest : Script μ α} {last : σ}
      (played : Script.Played script stage [] (.yield item :: rest) last) :
      Script.Pulls script stage (.item item, rest, Stage.note (.pulled item) last)
  | stalled {mark : μ} {rest : Script μ α} {last : σ}
      (played : Script.Played script stage [] (.mark mark :: rest) last)
      (held : (Stage.pass mark last : Option σ) = none) :
      Script.Pulls script stage (.stalled, .mark mark :: rest, last)
  | ended {last : σ} (played : Script.Played script stage [] [] last) :
      Script.Pulls script stage (.ended, [], Stage.note .ended last)

/-- A mark that passes is played first, so a pull comes to what a pull of the rest comes to. -/
theorem Script.Pulls.after_mark {mark : μ} {rest : Script μ α} {stage passed : σ}
    {pulled : Polled α × Script μ α × σ} (passes : Stage.pass mark stage = some passed)
    (pulls : Script.Pulls rest passed pulled) :
    Script.Pulls (.mark mark :: rest) stage pulled := by
  cases pulls with
  | item played => exact .item (.mark passes played)
  | stalled played held => exact .stalled (.mark passes played) held
  | ended played => exact .ended (.mark passes played)

/-- Every pull plays marks until one is held, an item is there to take, or the end is met. The
induction is on the script; the stage is whatever the marks before have made of it. -/
theorem Script.pulls (script : Script μ α) (stage : σ) :
    Script.Pulls script stage (Script.poll script stage) := by
  induction script generalizing stage with
  | nil => exact .ended (.refl [] stage)
  | cons cue rest ih =>
    cases cue with
    | yield item => exact .item (.refl _ stage)
    | mark mark =>
      rw [Script.poll]
      split
      · rename_i held
        exact .stalled (.refl _ stage) held
      · rename_i passed passes
        exact (ih passed).after_mark passes

/-- The form of `Script.pulls` for a pull whose outcome is known. -/
theorem Script.pulls_eq {script : Script μ α} {stage : σ} {pulled : Polled α × Script μ α × σ}
    (polled : Script.poll script stage = pulled) : Script.Pulls script stage pulled :=
  polled ▸ Script.pulls script stage

/-- What pulling to the end comes to: after the items and marks that are played a mark holds it, or
it meets the end. -/
inductive Script.PullsOut (script : Script μ α) (stage : σ) : Option (Script μ α) × σ → Prop
  | held {taken : List α} {mark : μ} {rest : Script μ α} {last : σ}
      (played : Script.Played script stage taken (.mark mark :: rest) last)
      (held : (Stage.pass mark last : Option σ) = none) :
      Script.PullsOut script stage (some (.mark mark :: rest), last)
  | ended {taken : List α} {last : σ} (played : Script.Played script stage taken [] last) :
      Script.PullsOut script stage (none, Stage.note .ended last)

/-- The first cue of a script is played before what is played of the rest. -/
theorem Script.PullsOut.after {cue : Cue μ α} {rest : Script μ α} {stage later : σ}
    {drained : Option (Script μ α) × σ}
    (first : ∀ {taken : List α} {left : Script μ α} {last : σ},
      Script.Played rest later taken left last →
        ∃ all, Script.Played (cue :: rest) stage all left last)
    (pulls : Script.PullsOut rest later drained) :
    Script.PullsOut (cue :: rest) stage drained := by
  cases pulls with
  | held played held =>
    obtain ⟨all, played⟩ := first played
    exact .held played held
  | ended played =>
    obtain ⟨all, played⟩ := first played
    exact .ended played

/-- Pulling to the end plays the script up to a mark that is held, or whole. -/
theorem Script.pullsOut (script : Script μ α) (stage : σ) :
    Script.PullsOut script stage (Script.drain script stage) := by
  induction script generalizing stage with
  | nil => exact .ended (.refl [] stage)
  | cons cue rest ih =>
    cases cue with
    | yield item =>
      exact (ih (Stage.note (.pulled item) stage)).after fun played => ⟨_, .item played⟩
    | mark mark =>
      rw [Script.drain]
      split
      · rename_i held
        exact .held (.refl _ stage) held
      · rename_i passed passes
        exact (ih passed).after fun played => ⟨_, .mark passes played⟩

/-- The form of `Script.pullsOut` for pulling to the end where the outcome is known. -/
theorem Script.pullsOut_eq {script : Script μ α} {stage : σ} {left : Option (Script μ α) × σ}
    (drained : Script.drain script stage = left) : Script.PullsOut script stage left :=
  drained ▸ Script.pullsOut script stage

/-- At its end a script has been played whole. -/
theorem Script.rest_of_ended {script rest : Script μ α} {stage stage' : σ}
    (polled : Script.poll script stage = (.ended, rest, stage')) : rest = [] := by
  cases Script.pulls_eq polled with
  | ended played => rfl

/-- Nothing is left of a script once its end was met. -/
theorem Script.items_of_ended {script rest : Script μ α} {stage stage' : σ}
    (polled : Script.poll script stage = (.ended, rest, stage')) : Script.items script = [] := by
  cases Script.pulls_eq polled with
  | ended played => exact played.items

/-- The item that a pull has handed out. -/
def Polled.item? : Polled α → Option α
  | .item taken => some taken
  | _ => none

/-- A pull takes the first item of the script, or none, and what it leaves has all the others. -/
theorem Script.items_poll (script : Script μ α) (stage : σ) :
    Script.items script = (Script.poll script stage).1.item?.toList ++
      Script.items (Script.poll script stage).2.1 := by
  have pulls := Script.pulls script stage
  generalize Script.poll script stage = pulled at pulls
  cases pulls with
  | item played => exact played.items
  | stalled played held => exact played.items
  | ended played => exact played.items

/-! ## Stages in step -/

/-- Two runs with the same answer, with what is left being related. -/
inductive SameAnswer {α β β' : Type} (R : β → β' → Prop) : α × β → α × β' → Prop
  | intro (answer : α) {left : β} {left' : β'} (related : R left left') :
      SameAnswer R (answer, left) (answer, left')

/-- Answers may be changed in the same way. -/
theorem SameAnswer.map {α β γ γ' : Type} {R : γ → γ' → Prop} {run : α × γ} {run' : α × γ'}
    (f : α → β) (same : SameAnswer R run run') :
    SameAnswer R (f run.1, run.2) (f run'.1, run'.2) := by
  obtain ⟨answer, related⟩ := same
  exact .intro _ related

/-- Stages that are related are in step: the same marks pass on both, and they stay related whatever
passes and whatever is noted. -/
structure Stage.InStep (R : σ → τ → Prop) : Prop where
  pass (mark : μ) {stage : σ} {stage' : τ} (related : R stage stage') :
    Option.Rel R (Stage.pass mark stage) (Stage.pass mark stage')
  note (notice : Notice α γ) {stage : σ} {stage' : τ} (related : R stage stage') :
    R (Stage.note notice stage) (Stage.note notice stage')

namespace Stage.InStep

variable {R : σ → τ → Prop} (steps : Stage.InStep R) {stage : σ} {stage' : τ}

include steps

/-- What is played on one of two stages in step is played on the other: the same items are taken,
the same script is left, and the stages are related again. -/
theorem played {script left : Script μ α} {last : σ} {taken : List α}
    (played : Script.Played script stage taken left last) (related : R stage stage') :
    ∃ last', Script.Played script stage' taken left last' ∧ R last last' := by
  induction played generalizing stage' with
  | refl script stage => exact ⟨stage', .refl script stage', related⟩
  | @mark mark rest left stage passed last taken passes played ih =>
    have both := steps.pass mark related
    rw [passes] at both
    cases passes' : (Stage.pass mark stage' : Option τ) with
    | none =>
      rw [passes'] at both
      cases both
    | some passed' =>
      rw [passes'] at both
      cases both with
      | some related =>
        obtain ⟨last', played', related'⟩ := ih related
        exact ⟨last', .mark passes' played', related'⟩
  | item played ih =>
    obtain ⟨last', played', related'⟩ := ih (steps.note _ related)
    exact ⟨last', .item played', related'⟩

/-- A mark that is held on one of two stages in step is held on the other. With `played` this says
that pulls stop at the same place. -/
theorem held {mark : μ} (related : R stage stage')
    (held : (Stage.pass mark stage : Option σ) = none) :
    (Stage.pass mark stage' : Option τ) = none := by
  have both := steps.pass mark related
  rw [held] at both
  cases held' : (Stage.pass mark stage' : Option τ) with
  | none => rfl
  | some passed =>
    rw [held'] at both
    cases both

/-- A pull comes to the same on two stages in step, with the same script left. -/
theorem poll (script : Script μ α) (related : R stage stage') :
    SameAnswer (SameAnswer R) (Script.poll script stage) (Script.poll script stage') := by
  have pulls := Script.pulls script stage
  generalize Script.poll script stage = pulled at pulls
  cases pulls with
  | item played =>
    obtain ⟨last', played', related'⟩ := steps.played played related
    rw [played'.poll_eq]
    exact .intro _ (.intro _ (steps.note _ related'))
  | stalled played held =>
    obtain ⟨last', played', related'⟩ := steps.played played related
    rw [played'.poll_eq, Script.poll, steps.held related' held]
    exact .intro _ (.intro _ related')
  | ended played =>
    obtain ⟨last', played', related'⟩ := steps.played played related
    rw [played'.poll_eq]
    exact .intro _ (.intro _ (steps.note _ related'))

/-- Pulling to the end gets to the same place on two stages in step. -/
theorem drain (script : Script μ α) (related : R stage stage') :
    SameAnswer R (Script.drain script stage) (Script.drain script stage') := by
  have pulls := Script.pullsOut script stage
  generalize Script.drain script stage = left at pulls
  cases pulls with
  | held played held =>
    obtain ⟨last', played', related'⟩ := steps.played played related
    rw [played'.drain_eq, Script.drain, steps.held related' held]
    exact .intro _ related'
  | ended played =>
    obtain ⟨last', played', related'⟩ := steps.played played related
    rw [played'.drain_eq]
    exact .intro _ (steps.note _ related')

/-- The form of `poll` for a pull whose outcome is known on one of the two stages. -/
theorem poll_eq {script rest : Script μ α} {answer : Polled α} {left : σ}
    (polled : Script.poll script stage = (answer, rest, left)) (related : R stage stage') :
    ∃ left', Script.poll script stage' = (answer, rest, left') ∧ R left left' := by
  have polls := steps.poll script related
  rw [polled] at polls
  generalize Script.poll script stage' = pulled at polls
  obtain ⟨answer, ⟨rest, related⟩⟩ := polls
  exact ⟨_, rfl, related⟩

/-- The form of `drain` for pulling to the end where the outcome is known on one of the two stages.
-/
theorem drain_eq {script : Script μ α} {answer : Option (Script μ α)} {left : σ}
    (drained : Script.drain script stage = (answer, left)) (related : R stage stage') :
    ∃ left', Script.drain script stage' = (answer, left') ∧ R left left' := by
  have drains := steps.drain script related
  rw [drained] at drains
  generalize Script.drain script stage' = pulled at drains
  obtain ⟨answer, related⟩ := drains
  exact ⟨_, rfl, related⟩

theorem dropGuard (guard : Option γ) (related : R stage stage') :
    R (SqlDriver.dropGuard guard stage) (SqlDriver.dropGuard guard stage') := by
  cases guard with
  | none => exact related
  | some guard => exact steps.note _ related

/-- A background stream that has ended is let go of in the same way. -/
theorem finish (left : Drain μ α γ) (related : R stage stage') :
    R (left.finish stage) (left.finish stage') :=
  steps.note _ (steps.dropGuard left.guard related)

/-- A background stream that runs as far as it can gets to the same place on two stages in step. -/
theorem run (left : Drain μ α γ) (related : R stage stage') :
    SameAnswer R (left.run stage) (left.run stage') := by
  have drains := steps.drain left.script related
  rw [Drain.run, Drain.run]
  generalize Script.drain left.script stage = drained at drains
  generalize Script.drain left.script stage' = drained' at drains
  obtain ⟨rest, related⟩ := drains
  cases rest with
  | none => exact .intro _ (steps.finish left related)
  | some rest => exact .intro _ related

/-- A background stream that is pulled once comes to the same on two stages in step. -/
theorem pull (left : Drain μ α γ) (related : R stage stage') :
    SameAnswer R (left.pull stage) (left.pull stage') := by
  have polls := steps.poll left.script related
  rw [Drain.pull, Drain.pull]
  generalize Script.poll left.script stage = pulled at polls
  generalize Script.poll left.script stage' = pulled' at polls
  obtain ⟨polled, ⟨rest, related⟩⟩ := polls
  cases polled with
  | ended => exact .intro _ (steps.finish left related)
  | _ => exact .intro _ related

end Stage.InStep

end SqlDriver
