import SqlDriver.Stream.Rehearsal
import SqlDriver.Proofs.Stream.Played

/-!
Playing a script in a rehearsal. A pull, and pulling to the end, play a front part of the script:
the log keeps the items of that part in their order and counts its marks, each of which uses up a
release. What is left starts where the part ends, and it starts with a mark exactly when the
releases are used up before the script is.
-/

namespace SqlDriver

variable {α : Type}

/-- The log after a part of a script was played. -/
def Rehearsal.Log.play (log : Rehearsal.Log α) (played : Script Unit α) : Rehearsal.Log α where
  releases := log.releases - Script.marks played
  passed := log.passed + Script.marks played
  notices := log.notices ++ (Script.items played).map .pulled

namespace Rehearsal.Log

variable (log : Rehearsal.Log α)

@[simp] theorem releases_play (played : Script Unit α) :
    (log.play played).releases = log.releases - Script.marks played := rfl

@[simp] theorem passed_play (played : Script Unit α) :
    (log.play played).passed = log.passed + Script.marks played := rfl

@[simp] theorem notices_play (played : Script Unit α) :
    (log.play played).notices = log.notices ++ (Script.items played).map .pulled := rfl

@[simp] theorem play_nil : log.play [] = log := by
  simp [Log.play, Script.marks, Script.items]

/-- Playing one part after another comes to playing both, so a whole rehearsal plays one front part
of its script. -/
theorem play_play (first second : Script Unit α) :
    (log.play first).play second = log.play (first ++ second) := by
  simp only [Log.play, Script.marks_append, Script.items_append, List.map_append,
    List.append_assoc, Nat.sub_sub, Nat.add_assoc]

theorem play_yield (item : α) : log.play [.yield item] = Stage.note (.pulled item) log := rfl

/-- A mark passes as long as there is a release for it. -/
theorem pass_eq : (Stage.pass () log : Option (Rehearsal.Log α)) =
    if log.releases = 0 then none else some (log.play [.mark ()]) := by
  simp [Stage.pass, Log.play, Script.marks, Script.items]

end Rehearsal.Log

/-- What is played in a rehearsal is a front part of the script with a release for each of its
marks, and the log is that after this part. -/
theorem Script.Played.log {script left : Script Unit α} {log last : Rehearsal.Log α}
    {taken : List α} (played : Script.Played script log taken left last) :
    ∃ front, script = front ++ left ∧ Script.items front = taken ∧
      Script.marks front ≤ log.releases ∧ last = log.play front := by
  induction played with
  | refl script log => exact ⟨[], rfl, rfl, Nat.zero_le _, log.play_nil.symm⟩
  | @mark mark rest left log passed last taken passes played ih =>
    rw [Rehearsal.Log.pass_eq] at passes
    split at passes
    · cases passes
    · rename_i used
      obtain rfl := Option.some.inj passes
      obtain ⟨front, split, items, enough, played⟩ := ih
      refine ⟨.mark () :: front, congrArg _ split, items, ?_, ?_⟩
      · have one : Script.marks ([.mark ()] : Script Unit α) = 1 := rfl
        rw [Rehearsal.Log.releases_play, one] at enough
        rw [Script.marks_mark]
        omega
      · rw [played, Rehearsal.Log.play_play]
        rfl
  | @item item rest left log last taken played ih =>
    obtain ⟨front, split, items, enough, played⟩ := ih
    refine ⟨.yield item :: front, congrArg _ split, congrArg _ items, enough, ?_⟩
    rw [played, ← Rehearsal.Log.play_yield, Rehearsal.Log.play_play]
    rfl

/-- Where a mark is held after a part of a script, that part has used up the releases. -/
theorem Rehearsal.Log.spent_of_held {log : Rehearsal.Log α} {front : Script Unit α}
    (enough : Script.marks front ≤ log.releases)
    (held : (Stage.pass () (log.play front) : Option (Rehearsal.Log α)) = none) :
    Script.marks front = log.releases := by
  rw [Rehearsal.Log.pass_eq] at held
  split at held
  · rename_i used
    rw [Rehearsal.Log.releases_play] at used
    omega
  · cases held

/-- What one pull may play of a script. -/
inductive Script.Plays (script : Script Unit α) (log : Rehearsal.Log α) :
    Polled α × Script Unit α × Rehearsal.Log α → Prop
  | item (played rest : Script Unit α) (item : α) (split : script = played ++ rest)
      (only : Script.items played = [item]) (enough : Script.marks played ≤ log.releases) :
      Script.Plays script log (.item item, rest, log.play played)
  | stalled (played rest : Script Unit α) (split : script = played ++ .mark () :: rest)
      (silent : Script.items played = []) (spent : Script.marks played = log.releases) :
      Script.Plays script log (.stalled, .mark () :: rest, log.play played)
  | ended (silent : Script.items script = []) (enough : Script.marks script ≤ log.releases) :
      Script.Plays script log (.ended, [], Stage.note .ended (log.play script))

/-- A pull in a rehearsal plays a front part with at most one item, which is its last. -/
theorem Script.plays (script : Script Unit α) (log : Rehearsal.Log α) :
    Script.Plays script log (Script.poll script log) := by
  have pulls := Script.pulls script log
  generalize Script.poll script log = pulled at pulls
  cases pulls with
  | @item item rest last played =>
    obtain ⟨front, split, items, enough, rfl⟩ := played.log
    rw [← Rehearsal.Log.play_yield, Rehearsal.Log.play_play]
    refine .item _ rest item ?_ ?_ ?_
    · rw [split, List.append_assoc]
      rfl
    · rw [Script.items_append, items]
      rfl
    · rw [Script.marks_append]
      exact enough
  | stalled played held =>
    obtain ⟨front, split, items, enough, rfl⟩ := played.log
    exact .stalled front _ split items (Rehearsal.Log.spent_of_held enough held)
  | ended played =>
    obtain ⟨front, split, items, enough, rfl⟩ := played.log
    obtain rfl : script = front := split.trans (List.append_nil front)
    exact .ended items enough

/-- What pulling to the end may play of a script. -/
inductive Script.PlaysOut (script : Script Unit α) (log : Rehearsal.Log α) :
    Option (Script Unit α) × Rehearsal.Log α → Prop
  | held (played rest : Script Unit α) (split : script = played ++ .mark () :: rest)
      (spent : Script.marks played = log.releases) :
      Script.PlaysOut script log (some (.mark () :: rest), log.play played)
  | ended (enough : Script.marks script ≤ log.releases) :
      Script.PlaysOut script log (none, Stage.note .ended (log.play script))

/-- Pulling to the end in a rehearsal plays as much of the script as there are releases for. -/
theorem Script.playsOut (script : Script Unit α) (log : Rehearsal.Log α) :
    Script.PlaysOut script log (Script.drain script log) := by
  have pulls := Script.pullsOut script log
  generalize Script.drain script log = left at pulls
  cases pulls with
  | held played held =>
    obtain ⟨front, split, -, enough, rfl⟩ := played.log
    exact .held front _ split (Rehearsal.Log.spent_of_held enough held)
  | ended played =>
    obtain ⟨front, split, -, enough, rfl⟩ := played.log
    obtain rfl : script = front := split.trans (List.append_nil front)
    exact .ended enough

end SqlDriver
