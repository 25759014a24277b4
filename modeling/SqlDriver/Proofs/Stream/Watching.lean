import SqlDriver.Proofs.Stream.Played

/-!
Watching a stage. What is noted on a stage may leave no trace there; a watched stage keeps all of it
and otherwise does as the stage does. So whatever is pulled on a stage is pulled in the same way on
the watched one, which then tells what happened: every item of the script that was played, in order.
-/

namespace SqlDriver

/-- A stage, and everything that was noted on it, oldest first. -/
structure Watched (σ α γ : Type) where
  stage : σ
  notices : List (Notice α γ)

variable {σ μ α γ : Type} [Stage σ μ α γ]

instance : Stage (Watched σ α γ) μ α γ where
  pass mark w := (Stage.pass mark w.stage).map fun stage => { w with stage := stage }
  note notice w := ⟨Stage.note notice w.stage, w.notices ++ [notice]⟩

theorem Watched.note_eq (notice : Notice α γ) (w : Watched σ α γ) :
    (Stage.note notice w : Watched σ α γ) = ⟨Stage.note notice w.stage, w.notices ++ [notice]⟩ :=
  rfl

theorem Watched.pass_eq (mark : μ) (w : Watched σ α γ) :
    (Stage.pass mark w : Option (Watched σ α γ)) =
      (Stage.pass mark w.stage).map fun stage => { w with stage := stage } := rfl

/-- A stage that is watched is in step with itself unwatched: what was noted decides nothing. So a
call on a watched stage comes to what it comes to on the stage alone. -/
theorem Watched.inStep :
    Stage.InStep fun (w : Watched σ α γ) (stage : σ) => w.stage = stage where
  pass mark := by
    rintro w _ rfl
    rw [Watched.pass_eq]
    cases (Stage.pass mark w.stage : Option σ) with
    | none => exact .none
    | some passed => exact .some rfl
  note notice := by
    rintro w _ rfl
    rfl

/-- Playing a part of a script notes the items that are taken, in order, and nothing else: a mark
that passes is no notice. -/
theorem Script.Played.noted {script left : Script μ α} {w last : Watched σ α γ} {taken : List α}
    (played : Script.Played script w taken left last) :
    last.notices = w.notices ++ taken.map .pulled := by
  induction played with
  | refl script w => exact (List.append_nil _).symm
  | mark passes played ih =>
    rw [Watched.pass_eq] at passes
    obtain ⟨stage, -, rfl⟩ := Option.map_eq_some_iff.mp passes
    exact ih
  | item played ih =>
    rw [ih, Watched.note_eq, List.append_assoc]
    rfl

end SqlDriver
