import Mathlib.Data.List.Induction
import SqlDriver.Proofs.Stream.Playing

/-!
The course of a relay. A rehearsal's turns are its moves, each with its answer and with what was
noted while it was made and the background followed. `Rehearsal.Course` says where a relay is after
its turns, how much of the script is played and what the turns have come to. Every move that lets go
of nothing keeps it.
-/

namespace SqlDriver

variable {α : Type}

/-! ## Turns -/

/-- A move, its answer, and what was noted while it was made and the background followed. -/
structure Rehearsal.Turn (α : Type) where
  move : Rehearsal.Move
  answer : Rehearsal.Answer α
  notices : List (Notice α Unit)

def Rehearsal.turn (r : Rehearsal α) (move : Rehearsal.Move) : Rehearsal.Turn α :=
  ⟨move, (r.step move).1, (r.step move).2.log.notices.drop r.log.notices.length⟩

/-- All turns of a rehearsal, and what it comes to. -/
def Rehearsal.perform (script : Script Unit α) (moves : List Rehearsal.Move) :
    List (Rehearsal.Turn α) × Rehearsal α :=
  moves.foldl (fun (turns, r) move => (turns ++ [r.turn move], (r.step move).2))
    ([], Rehearsal.start script)

/-- Whether a move lets go of nothing: what is left of a relay can go on in the background, and a
guard that came back is kept. -/
def Rehearsal.Move.isOrderly : Rehearsal.Move → Bool
  | .abandon => false
  | .dropGuard => false
  | _ => true

def Notice.item? {γ : Type} : Notice α γ → Option α
  | .pulled item => some item
  | _ => none

def Notice.isEnded {γ : Type} : Notice α γ → Bool
  | .ended => true
  | _ => false

namespace Rehearsal.Turn

/-- The item that a turn has forwarded. -/
def forwarded? (turn : Turn α) : Option α :=
  match turn.answer with
  | .polled (.item item) => some item
  | _ => none

/-- The items that were pulled in a turn and not for the asking. -/
def discarded (turn : Turn α) : List α :=
  if turn.move = .next then [] else turn.notices.filterMap Notice.item?

/-- Whether the stream's end was met while forwarding. -/
def meetsEnd (turn : Turn α) : Bool := turn.move = .next && turn.notices.any Notice.isEnded

def cancels (turn : Turn α) : Bool := turn.move = .cancel

def releases (turn : Turn α) : Bool := turn.move = .release

/-- Whether the relay is gone then. -/
def consumes (turn : Turn α) : Bool := turn.move = .drop || turn.move = .reclaim

/-- Whether the guard was handed back. -/
def handsBack (turn : Turn α) : Bool :=
  match turn.answer with
  | .guardReturned returned => returned
  | _ => false

/-- Whether nothing more will be asked for: the relay was cancelled to the end, or is gone. -/
def givesUp (turn : Turn α) : Bool :=
  match turn.move, turn.answer with
  | .cancel, .finished => true
  | .drop, .finished => true
  | .reclaim, .guardReturned _ => true
  | _, _ => false

end Rehearsal.Turn

/-- The items forwarded in turns. -/
def Rehearsal.forwarded (turns : List (Rehearsal.Turn α)) : List α :=
  turns.filterMap Turn.forwarded?

/-- The items discarded in turns. -/
def Rehearsal.discarded (turns : List (Rehearsal.Turn α)) : List α := turns.flatMap Turn.discarded

/-- What the stream will still do. -/
def Rehearsal.rest (r : Rehearsal α) : Script Unit α :=
  match r.relay, r.background with
  | some relay, _ => relay.stream.getD []
  | none, some drain => drain.script
  | none, none => []

theorem Rehearsal.perform_concat (script : Script Unit α) (moves : List Rehearsal.Move)
    (move : Rehearsal.Move) :
    Rehearsal.perform script (moves ++ [move]) =
      ((Rehearsal.perform script moves).1 ++ [(Rehearsal.perform script moves).2.turn move],
        ((Rehearsal.perform script moves).2.step move).2) := by
  rw [Rehearsal.perform, List.foldl_append]
  rfl

/-- Each turn is the turn of one of the moves, after the turns of the moves before. -/
theorem Rehearsal.perform_split {script : Script Unit α} {moves : List Rehearsal.Move}
    {before after : List (Rehearsal.Turn α)} {turn : Rehearsal.Turn α}
    (split : (Rehearsal.perform script moves).1 = before ++ turn :: after) :
    ∃ earlier move later, moves = earlier ++ move :: later ∧
      (Rehearsal.perform script earlier).1 = before ∧
      turn = (Rehearsal.perform script earlier).2.turn move := by
  induction moves using List.reverseRecOn generalizing after with
  | nil =>
    have none : ([] : List (Rehearsal.Turn α)) = before ++ turn :: after := split
    simp at none
  | append_singleton moves move ih =>
    rw [Rehearsal.perform_concat] at split
    rcases List.eq_nil_or_concat after with rfl | ⟨after, last, rfl⟩
    · obtain ⟨same, here⟩ := List.append_inj' split rfl
      exact ⟨moves, move, [], rfl, same, (List.singleton_inj.mp here).symm⟩
    · have front : (Rehearsal.perform script moves).1 ++
          [(Rehearsal.perform script moves).2.turn move] = (before ++ turn :: after) ++ [last] := by
        simpa using split
      obtain ⟨same, -⟩ := List.append_inj' front rfl
      obtain ⟨earlier, other, later, rfl, front, here⟩ := ih same
      exact ⟨earlier, other, later ++ [move], by rw [List.append_assoc]; rfl, front, here⟩

/-! ## Where a relay is -/

/-- Where a relay, its stream and its guard are, with what the stream will still do, and what was
noted after its last item. -/
inductive Rehearsal.Phase : Option (Relay Unit α Unit) → Option (Drain Unit α Unit) → Option Unit →
    Script Unit α → List (Notice α Unit) → Prop
  /-- The stream is not at its end; once the relay is cancelled, nothing more is forwarded. -/
  | running (rest : Script Unit α) (cancelled : Bool) :
      Rehearsal.Phase (some ⟨some rest, some (), false, cancelled⟩) none none rest []
  /-- The end was met while forwarding. -/
  | ended : Rehearsal.Phase (some ⟨none, some (), true, false⟩) none none []
      [.ended, .streamDropped]
  /-- The relay was cancelled to the end, or cancelled after it. -/
  | finished (terminated : Bool) :
      Rehearsal.Phase (some ⟨none, none, terminated, true⟩) none none []
        [.ended, .streamDropped, .guardDropped ()]
  /-- The stream goes on in the background. -/
  | draining (rest : Script Unit α) :
      Rehearsal.Phase none (some ⟨rest, some ()⟩) none rest []
  /-- The relay was dropped after the end, which was met in a call. -/
  | gone : Rehearsal.Phase none none none [] [.ended, .streamDropped, .guardDropped ()]
  /-- The end was met in the background. -/
  | drained : Rehearsal.Phase none none none [] [.ended, .guardDropped (), .streamDropped]
  /-- The guard was handed back. -/
  | handedBack : Rehearsal.Phase none none (some ()) [] [.ended, .streamDropped]

/-- In the background a stream is held by nothing but a mark without a release. -/
def Rehearsal.Holds (r : Rehearsal α) (rest : Script Unit α) : Prop :=
  r.background.isSome → r.log.releases = 0 ∧ ∃ later, rest = .mark () :: later

/-- How far a rehearsal of a script has come after its turns: what is played of the script, what is
left, and what was noted after the last item. -/
structure Rehearsal.Course (script : Script Unit α) (turns : List (Rehearsal.Turn α))
    (r : Rehearsal α) (played rest : Script Unit α) (tail : List (Notice α Unit)) : Prop where
  own : r.script = script
  whole : script = played ++ rest
  recorded : turns.flatMap Turn.notices = r.log.notices
  phase : Rehearsal.Phase r.relay r.background r.held rest tail
  notices : r.log.notices = (Script.items played).map .pulled ++ tail
  passed : r.log.passed = Script.marks played
  /-- Every release lets a mark pass, or is still there. -/
  released : turns.countP Turn.releases = r.log.releases + r.log.passed
  held : r.Holds rest
  pulled : Rehearsal.forwarded turns ++ Rehearsal.discarded turns = Script.items played
  /-- Nothing is discarded before the relay is cancelled. -/
  forwarding : ∀ relay, r.relay = some relay → relay.cancelled = false →
    Rehearsal.discarded turns = []
  present : r.relay.isSome = !turns.any Turn.consumes
  terminated : ∀ relay, r.relay = some relay → relay.terminated = turns.any Turn.meetsEnd
  cancelled : ∀ relay, r.relay = some relay → relay.cancelled = turns.any Turn.cancels
  kept : ∀ relay, r.relay = some relay → relay.guard.isSome → turns.any Turn.givesUp = false
  handed : turns.countP Turn.handsBack = r.held.toList.length

/-- What one turn may do: it plays a part of what is left of the script, and moves the relay, its
stream and its guard on. -/
structure Rehearsal.Advances (r : Rehearsal α) (rest : Script Unit α) (tail : List (Notice α Unit))
    (turn : Rehearsal.Turn α) (r' : Rehearsal α) (new rest' : Script Unit α)
    (tail' : List (Notice α Unit)) : Prop where
  own : r'.script = r.script
  whole : rest = new ++ rest'
  phase : Rehearsal.Phase r'.relay r'.background r'.held rest' tail'
  grown : r'.log.notices = r.log.notices ++ turn.notices
  noted : tail ++ turn.notices = (Script.items new).map .pulled ++ tail'
  passed : r'.log.passed = r.log.passed + Script.marks new
  released : r'.log.releases + Script.marks new =
    r.log.releases + if turn.releases then 1 else 0
  held : r'.Holds rest'
  pulled : turn.forwarded?.toList ++ turn.discarded = Script.items new
  /-- Only a relay that is not cancelled forwards. -/
  asked : turn.forwarded?.isSome →
    ∃ relay, r.relay = some relay ∧ relay.cancelled = false
  present : r'.relay.isSome = (r.relay.isSome && !turn.consumes)
  relay : ∀ relay', r'.relay = some relay' → ∃ relay, r.relay = some relay ∧
    relay'.terminated = (relay.terminated || turn.meetsEnd) ∧
    relay'.cancelled = (relay.cancelled || turn.cancels) ∧
    (relay'.cancelled = false → turn.discarded = []) ∧
    (relay'.guard.isSome → relay.guard.isSome ∧ turn.givesUp = false)
  handed : r'.held.toList.length = r.held.toList.length + if turn.handsBack then 1 else 0

/-- A turn carries the course on. -/
theorem Rehearsal.Course.extend {script : Script Unit α} {turns : List (Rehearsal.Turn α)}
    {r r' : Rehearsal α} {played rest new rest' : Script Unit α}
    {tail tail' : List (Notice α Unit)} {turn : Rehearsal.Turn α}
    (h : Rehearsal.Course script turns r played rest tail)
    (advances : Rehearsal.Advances r rest tail turn r' new rest' tail') :
    Rehearsal.Course script (turns ++ [turn]) r' (played ++ new) rest' tail' where
  own := advances.own.trans h.own
  whole := by rw [h.whole, advances.whole, List.append_assoc]
  recorded := by
    rw [List.flatMap_append, h.recorded, advances.grown, List.flatMap_singleton]
  phase := advances.phase
  notices := by
    rw [advances.grown, h.notices, List.append_assoc, advances.noted, Script.items_append,
      List.map_append, List.append_assoc]
  passed := by rw [advances.passed, h.passed, Script.marks_append]
  released := by
    have before := h.released
    have here := advances.released
    rw [List.countP_append, List.countP_singleton, advances.passed]
    omega
  held := advances.held
  pulled := by
    have before := h.pulled
    have here := advances.pulled
    rw [Rehearsal.forwarded, Rehearsal.discarded] at before
    rw [Rehearsal.forwarded, Rehearsal.discarded, List.filterMap_append, List.flatMap_append,
      List.flatMap_singleton, Script.items_append, ← before, ← here]
    cases asked : turn.forwarded? with
    | none => simp [asked]
    | some item =>
      -- What a relay forwards comes before anything is discarded.
      obtain ⟨relay, present, open'⟩ := advances.asked (by rw [asked]; rfl)
      have none := h.forwarding relay present open'
      rw [Rehearsal.discarded] at none
      simp [asked, none]
  forwarding := by
    intro relay' present open'
    obtain ⟨relay, before, -, cancelled, quiet, -⟩ := advances.relay relay' present
    have none := h.forwarding relay before
      (Bool.or_eq_false_iff.mp (cancelled.symm.trans open')).1
    rw [Rehearsal.discarded] at none
    rw [Rehearsal.discarded, List.flatMap_append, List.flatMap_singleton, none, quiet open']
    rfl
  present := by
    rw [advances.present, h.present, List.any_append, List.any_cons, List.any_nil, Bool.or_false,
      Bool.not_or]
  terminated := by
    intro relay' present
    obtain ⟨relay, before, terminated, -⟩ := advances.relay relay' present
    rw [terminated, h.terminated relay before, List.any_append, List.any_cons, List.any_nil,
      Bool.or_false]
  cancelled := by
    intro relay' present
    obtain ⟨relay, before, -, cancelled, -⟩ := advances.relay relay' present
    rw [cancelled, h.cancelled relay before, List.any_append, List.any_cons, List.any_nil,
      Bool.or_false]
  kept := by
    intro relay' present guarded
    obtain ⟨relay, before, -, -, -, kept⟩ := advances.relay relay' present
    obtain ⟨guarded', unfinished⟩ := kept guarded
    rw [List.any_append, h.kept relay before guarded', List.any_cons, unfinished]
    rfl
  handed := by
    rw [List.countP_append, List.countP_singleton, h.handed, advances.handed]

/-! ## One move -/

/-- A move that neither the stream nor the relay notices: there is no relay to make it on, or the
relay answers with the end that it has met before. -/
theorem Rehearsal.Advances.idle {r : Rehearsal α} {rest : Script Unit α}
    {tail : List (Notice α Unit)} {move : Rehearsal.Move} {answer : Rehearsal.Answer α}
    (phase : Rehearsal.Phase r.relay r.background r.held rest tail)
    (holds : r.Holds rest) (releases : move ≠ .release)
    (answers : (answer = .noRelay ∧ r.relay = none) ∨ (answer = .polled .ended ∧ move = .next)) :
    Rehearsal.Advances r rest tail ⟨move, answer, []⟩ r [] rest tail where
  own := rfl
  whole := rfl
  phase := phase
  grown := (List.append_nil _).symm
  noted := List.append_nil _
  passed := rfl
  released := by simp [Turn.releases, releases, Script.marks]
  held := holds
  pulled := by
    rcases answers with ⟨rfl, -⟩ | ⟨rfl, -⟩ <;>
      simp [Turn.forwarded?, Turn.discarded, Script.items]
  asked := by
    intro forwarded
    rcases answers with ⟨rfl, -⟩ | ⟨rfl, -⟩ <;> simp [Turn.forwarded?] at forwarded
  present := by
    rcases answers with ⟨-, none⟩ | ⟨-, rfl⟩
    · rw [none]
      rfl
    · exact (Bool.and_true _).symm
  relay := by
    intro relay present
    rcases answers with ⟨rfl, none⟩ | ⟨rfl, rfl⟩
    · rw [none] at present
      cases present
    · exact ⟨relay, present, by simp [Turn.meetsEnd], by simp [Turn.cancels],
        by simp [Turn.discarded], by simp [Turn.givesUp]⟩
  handed := by
    rcases answers with ⟨rfl, -⟩ | ⟨rfl, -⟩ <;> simp [Turn.handsBack]

/-- A move has a turn that advances a rehearsal. -/
def Rehearsal.Goes (r : Rehearsal α) (rest : Script Unit α) (tail : List (Notice α Unit))
    (move : Rehearsal.Move) : Prop :=
  ∃ answer added r' new rest' tail', r.step move = (answer, r') ∧
    Rehearsal.Advances r rest tail ⟨move, answer, added⟩ r' new rest' tail'

/-- One more turn keeps a relay on its course, whatever the move comes to. -/
theorem Rehearsal.Course.goes {script : Script Unit α} {turns : List (Rehearsal.Turn α)}
    {r : Rehearsal α} {played rest : Script Unit α} {tail : List (Notice α Unit)}
    {move : Rehearsal.Move} (h : Rehearsal.Course script turns r played rest tail)
    (goes : r.Goes rest tail move) :
    ∃ played' rest' tail',
      Rehearsal.Course script (turns ++ [r.turn move]) (r.step move).2 played' rest' tail' := by
  obtain ⟨answer, added, r', new, rest', tail', stepped, advances⟩ := goes
  have turn : r.turn move = ⟨move, answer, added⟩ := by
    rw [Rehearsal.turn, stepped, advances.grown, List.drop_left]
  rw [turn, stepped]
  exact ⟨_, _, _, h.extend advances⟩

/-- The log when something more is noted. -/
def Rehearsal.Log.extend (log : Rehearsal.Log α) (notices : List (Notice α Unit)) :
    Rehearsal.Log α :=
  { log with notices := log.notices ++ notices }

/-- A stream that was left to the background is held by a mark there, or nothing is left of it. -/
theorem Rehearsal.settle_draining (script rest : Script Unit α) (log : Rehearsal.Log α) :
    (∃ played later, rest = played ++ .mark () :: later ∧ Script.marks played = log.releases ∧
      Rehearsal.settle ⟨script, log, none, some ⟨rest, some ()⟩, none⟩ =
        ⟨script, log.play played, none, some ⟨.mark () :: later, some ()⟩, none⟩) ∨
      Script.marks rest ≤ log.releases ∧
      Rehearsal.settle ⟨script, log, none, some ⟨rest, some ()⟩, none⟩ =
        ⟨script, (log.play rest).extend [.ended, .guardDropped (), .streamDropped], none, none,
          none⟩ := by
  have plays := Script.playsOut rest log
  simp only [Rehearsal.settle, Drain.run]
  generalize Script.drain rest log = left at plays
  cases plays with
  | held played later split spent => exact Or.inl ⟨played, later, split, spent, rfl⟩
  | ended enough =>
    refine Or.inr ⟨enough, ?_⟩
    simp [Drain.finish, dropGuard, Stage.note, Rehearsal.Log.extend]

@[simp] theorem Rehearsal.Log.extend_nil (log : Rehearsal.Log α) : log.extend [] = log := by
  rw [Rehearsal.Log.extend, List.append_nil]

/-- What changes when a stream goes on in the background, with no relay there any more. A part of
its script is played, and what is noted after it tells of no item. -/
theorem Rehearsal.Advances.background {r : Rehearsal α} {played left : Script Unit α}
    {move : Rehearsal.Move} {answer : Rehearsal.Answer α} {log : Rehearsal.Log α}
    {background : Option (Drain Unit α Unit)} {ends : List (Notice α Unit)}
    (held : r.held = none) (notices : log.notices = r.log.notices)
    (passed : log.passed = r.log.passed)
    (releases : log.releases = r.log.releases + if move = .release then 1 else 0)
    (apart : move ≠ .next) (answers : answer = .finished ∨ answer = .guardReturned false)
    (gone : (r.relay.isSome && !Turn.consumes ⟨move, answer, []⟩) = false)
    (phase : Rehearsal.Phase none background none left ends)
    (enough : Script.marks played ≤ log.releases) (silent : ends.filterMap Notice.item? = [])
    (holds : Rehearsal.Holds
      ⟨r.script, (log.play played).extend ends, none, background, none⟩ left) :
    Rehearsal.Advances r (played ++ left) []
      ⟨move, answer, (Script.items played).map .pulled ++ ends⟩
      ⟨r.script, (log.play played).extend ends, none, background, none⟩ played left ends := by
  have forwards : ∀ added, Turn.forwarded? ⟨move, answer, added⟩ = none := by
    intro added
    rcases answers with rfl | rfl <;> rfl
  have keeps : ∀ added, Turn.handsBack ⟨move, answer, added⟩ = false := by
    intro added
    rcases answers with rfl | rfl <;> rfl
  exact {
    own := rfl
    whole := rfl
    phase := phase
    grown := by
      rw [Rehearsal.Log.extend, Rehearsal.Log.notices_play, notices, List.append_assoc]
    noted := rfl
    passed := by rw [Rehearsal.Log.extend, Rehearsal.Log.passed_play, passed]
    released := by
      simp only [Rehearsal.Log.extend, Rehearsal.Log.releases_play, Turn.releases,
        decide_eq_true_eq]
      omega
    held := holds
    pulled := by
      rw [forwards, Turn.discarded, if_neg apart, List.filterMap_append, silent]
      simp [List.filterMap_map, Notice.item?, Function.comp_def]
    asked := by
      intro forwarded
      rw [forwards] at forwarded
      cases forwarded
    present := gone.symm
    relay := by intro relay' present; cases present
    handed := by rw [keeps, held]; rfl }

/-- A stream that is left to the background goes on there as far as its marks have releases. -/
theorem Rehearsal.Goes.background {r : Rehearsal α} {rest : Script Unit α} {move : Rehearsal.Move}
    {answer : Rehearsal.Answer α} {log : Rehearsal.Log α}
    (stepped : r.step move =
      (answer, Rehearsal.settle ⟨r.script, log, none, some ⟨rest, some ()⟩, none⟩))
    (held : r.held = none) (notices : log.notices = r.log.notices)
    (passed : log.passed = r.log.passed)
    (releases : log.releases = r.log.releases + if move = .release then 1 else 0)
    (apart : move ≠ .next) (answers : answer = .finished ∨ answer = .guardReturned false)
    (gone : (r.relay.isSome && !Turn.consumes ⟨move, answer, []⟩) = false) :
    r.Goes rest [] move := by
  rcases Rehearsal.settle_draining r.script rest log with
    ⟨played, later, rfl, spent, settled⟩ | ⟨enough, settled⟩
  · rw [settled, ← (log.play played).extend_nil] at stepped
    refine ⟨_, _, _, played, .mark () :: later, [], stepped, .background held notices passed
      releases apart answers gone (.draining _) (Nat.le_of_eq spent) rfl ?_⟩
    intro _
    rw [Rehearsal.Log.extend_nil, Rehearsal.Log.releases_play, spent]
    exact ⟨Nat.sub_self _, later, rfl⟩
  · rw [settled] at stepped
    rw [← List.append_nil rest]
    refine ⟨_, _, _, rest, [], [.ended, .guardDropped (), .streamDropped], stepped, .background
      held notices passed releases apart answers gone .drained enough rfl ?_⟩
    intro some
    cases some

/-! ## Every move -/

section Moves

variable {r : Rehearsal α} {rest : Script Unit α} {tail : List (Notice α Unit)}

/-- What is held in the background stays there: its mark has no release, so letting the background
run changes nothing. -/
theorem Rehearsal.settle_of_holds
    (phase : Rehearsal.Phase r.relay r.background r.held rest tail) (holds : r.Holds rest) :
    r.settle = r := by
  obtain ⟨script, log, relay, background, held⟩ := r
  simp only at phase
  cases phase with
  | draining rest =>
    obtain ⟨used, later, rfl⟩ := holds rfl
    have held : Script.drain (.mark () :: later) log = (some (.mark () :: later), log) := by
      rw [Script.drain, Rehearsal.Log.pass_eq, if_pos used]
    simp only [Rehearsal.settle, Drain.run, held]
  | _ => rfl

/-- Where the relay is gone, only a release may change anything: no other move reaches the stream in
the background, where a mark holds it. -/
theorem Rehearsal.Goes.gone {move : Rehearsal.Move}
    (phase : Rehearsal.Phase r.relay r.background r.held rest tail) (gone : r.relay = none)
    (holds : r.Holds rest) (releases : move ≠ .release) (orderly : move.isOrderly = true) :
    r.Goes rest tail move := by
  have moved : r.move move = (.noRelay, r) := by
    cases move with
    | release => exact (releases rfl).elim
    | abandon => cases orderly
    | dropGuard => cases orderly
    | _ => simp only [Rehearsal.move, gone]
  have stepped : r.step move = (.noRelay, r) := by
    rw [Rehearsal.step, moved]
    simp only [Rehearsal.settle_of_holds phase holds]
  exact ⟨_, _, _, _, _, _, stepped, .idle phase holds releases (Or.inl ⟨rfl, gone⟩)⟩

/-- A release lets a stream in the background go on. A relay that is still there only notices it at
its next move. -/
theorem Rehearsal.Goes.release (phase : Rehearsal.Phase r.relay r.background r.held rest tail) :
    r.Goes rest tail .release := by
  obtain ⟨script, log, relay, background, held⟩ := r
  simp only at phase
  -- Without a stream in the background nothing follows.
  have alone : background = none → Rehearsal.Goes ⟨script, log, relay, background, held⟩ rest tail
      .release := by
    rintro rfl
    refine ⟨.finished, [], ⟨script, { log with releases := log.releases + 1 }, relay, none, held⟩,
      [], rest, tail, rfl, ?_⟩
    exact {
      own := rfl
      whole := rfl
      phase := phase
      grown := (List.append_nil _).symm
      noted := List.append_nil _
      passed := rfl
      released := rfl
      held := by intro some; cases some
      pulled := rfl
      asked := by intro forwarded; cases forwarded
      present := (Bool.and_true _).symm
      relay := by
        intro relay present
        exact ⟨relay, present, by simp [Turn.meetsEnd], by simp [Turn.cancels],
          by simp [Turn.discarded], by simp [Turn.givesUp]⟩
      handed := rfl }
  cases phase with
  | draining rest => exact .background rfl rfl rfl rfl rfl (by decide) (Or.inl rfl) rfl
  | _ => exact alone rfl

/-- What changes when a part of the script is played and the relay goes on from there. -/
theorem Rehearsal.Advances.play {script played left : Script Unit α} {log : Rehearsal.Log α}
    {cancelled cancelled' : Bool} {turn : Rehearsal.Turn α}
    (enough : Script.marks played ≤ log.releases)
    (noted : turn.notices = (Script.items played).map .pulled)
    (pulled : turn.forwarded?.toList ++ turn.discarded = Script.items played)
    (asked : turn.forwarded?.isSome → cancelled = false)
    (cancels : cancelled' = (cancelled || turn.cancels))
    (quiet : cancelled' = false → turn.discarded = [])
    (moves : turn.move = .next ∨ turn.move = .cancel) (unmet : turn.meetsEnd = false)
    (unfinished : turn.givesUp = false) (keeps : turn.handsBack = false) :
    Rehearsal.Advances ⟨script, log, some ⟨some (played ++ left), some (), false, cancelled⟩, none,
        none⟩ (played ++ left) [] turn
      ⟨script, log.play played, some ⟨some left, some (), false, cancelled'⟩, none, none⟩
      played left [] where
  own := rfl
  whole := rfl
  phase := .running left cancelled'
  grown := by rw [Rehearsal.Log.notices_play, noted]
  noted := by rw [noted, List.append_nil, List.nil_append]
  passed := rfl
  released := by
    have silent : turn.releases = false := by
      rcases moves with next | cancel
      · rw [Turn.releases, next]
        rfl
      · rw [Turn.releases, cancel]
        rfl
    rw [silent]
    exact Nat.sub_add_cancel enough
  held := by intro some; cases some
  pulled := pulled
  asked := fun forwards => ⟨_, rfl, asked forwards⟩
  present := by
    have remains : turn.consumes = false := by
      rcases moves with next | cancel
      · rw [Turn.consumes, next]
        rfl
      · rw [Turn.consumes, cancel]
        rfl
    rw [remains]
    rfl
  relay := by
    rintro relay' ⟨⟩
    exact ⟨_, rfl, by rw [unmet]; rfl, cancels, quiet, fun _ => ⟨rfl, unfinished⟩⟩
  handed := by rw [keeps]; rfl

/-- Asking a running relay for the next item is one pull of its stream, which is dropped if the pull
meets the end; the guard is kept. -/
theorem Rehearsal.step_next (script rest : Script Unit α) (log : Rehearsal.Log α) :
    (Rehearsal.mk script log (some ⟨some rest, some (), false, false⟩) none none).step .next =
      match Script.poll rest log with
      | (.ended, _, log) => (.polled .ended, ⟨script, log.extend [.streamDropped],
          some ⟨none, some (), true, false⟩, none, none⟩)
      | (.item item, rest, log) => (.polled (.item item),
          ⟨script, log, some ⟨some rest, some (), false, false⟩, none, none⟩)
      | (.stalled, rest, log) => (.polled .stalled,
          ⟨script, log, some ⟨some rest, some (), false, false⟩, none, none⟩) := by
  simp only [Rehearsal.step, Rehearsal.move, Relay.next]
  generalize Script.poll rest log = pulled
  obtain ⟨polled, rest', log'⟩ := pulled
  cases polled <;> rfl

/-- Forwarding plays up to the next item, to a mark without a release or to the end. A relay that
was cancelled, or is at its end, plays nothing. -/
theorem Rehearsal.Goes.next {script : Script Unit α} {log : Rehearsal.Log α}
    {relay : Relay Unit α Unit} {background : Option (Drain Unit α Unit)} {held : Option Unit}
    (phase : Rehearsal.Phase (some relay) background held rest tail) :
    Rehearsal.Goes ⟨script, log, some relay, background, held⟩ rest tail .next := by
  -- A relay that is cancelled, or has met the end, does not pull.
  have ends : ∀ r : Rehearsal α, Rehearsal.Phase r.relay r.background r.held rest tail →
      r.background = none → r.step .next = (.polled .ended, r) → r.Goes rest tail .next := by
    intro r phase alone stepped
    have holds : r.Holds rest := by
      rw [Rehearsal.Holds, alone]
      intro some
      cases some
    exact ⟨_, _, _, _, _, _, stepped, .idle phase holds (by decide) (Or.inr ⟨rfl, rfl⟩)⟩
  cases phase with
  | ended => exact ends _ .ended rfl rfl
  | finished terminated => exact ends _ (.finished terminated) rfl rfl
  | running rest cancelled =>
    cases cancelled with
    | true => exact ends _ (.running rest true) rfl rfl
    | false =>
      have plays := Script.plays rest log
      have stepped := Rehearsal.step_next script rest log
      generalize Script.poll rest log = pulled at plays stepped
      cases plays with
      | item played left item split only enough =>
        subst split
        refine ⟨_, (Script.items played).map .pulled, _, played, left, [], stepped,
          .play enough rfl ?_ (fun _ => rfl) rfl (fun _ => rfl) (Or.inl rfl) ?_ rfl rfl⟩
        · rw [only]
          rfl
        · rw [only]
          rfl
      | stalled played left split silent spent =>
        subst split
        refine ⟨_, (Script.items played).map .pulled, _, played, .mark () :: left, [], stepped,
          .play (Nat.le_of_eq spent) rfl ?_ (fun _ => rfl) rfl (fun _ => rfl) (Or.inl rfl) ?_ rfl
            rfl⟩
        · rw [silent]
          rfl
        · rw [silent]
          rfl
      | ended silent enough =>
        refine ⟨_, [.ended, .streamDropped], _, rest, [], [.ended, .streamDropped], stepped, ?_⟩
        exact {
          own := rfl
          whole := (List.append_nil _).symm
          phase := .ended
          grown := by simp [Rehearsal.Log.extend, Stage.note, silent]
          noted := by rw [silent]; rfl
          passed := rfl
          released := Nat.sub_add_cancel enough
          held := by intro some; cases some
          pulled := by rw [silent]; rfl
          asked := by intro forwarded; cases forwarded
          present := rfl
          relay := by
            rintro relay' ⟨⟩
            exact ⟨_, rfl, rfl, rfl, fun _ => rfl, fun _ => ⟨rfl, rfl⟩⟩
          handed := rfl }

/-- What changes when a relay whose stream is at its end is cancelled, dropped or consumed. -/
theorem Rehearsal.Advances.close {r r' : Rehearsal α} {tail' added : List (Notice α Unit)}
    {move : Rehearsal.Move} {answer : Rehearsal.Answer α} (own : r'.script = r.script)
    (phase : Rehearsal.Phase r'.relay none r'.held [] tail') (alone : r'.background = none)
    (log : r'.log = r.log.extend added) (noted : tail ++ added = tail')
    (closes : move = .cancel ∨ move = .drop ∨ move = .reclaim)
    (quiet : added.filterMap Notice.item? = [])
    (answers : answer = .finished ∨ ∃ returned, answer = .guardReturned returned)
    (present : r'.relay.isSome = (r.relay.isSome && !Turn.consumes ⟨move, answer, added⟩))
    (relay : ∀ relay', r'.relay = some relay' → relay'.guard = none ∧ move = .cancel ∧
      ∃ relay, r.relay = some relay ∧ relay'.terminated = relay.terminated ∧
        relay'.cancelled = true)
    (handed : r'.held.toList.length =
      r.held.toList.length + if Turn.handsBack ⟨move, answer, added⟩ then 1 else 0) :
    Rehearsal.Advances r [] tail ⟨move, answer, added⟩ r' [] [] tail' where
  own := own
  whole := rfl
  phase := by rwa [alone]
  grown := by rw [log]; rfl
  noted := noted
  passed := by rw [log]; rfl
  released := by
    rw [log]
    rcases closes with rfl | rfl | rfl <;> rfl
  held := by
    rw [Rehearsal.Holds, alone]
    intro some
    cases some
  pulled := by
    have silent : Turn.forwarded? ⟨move, answer, added⟩ = none := by
      rcases answers with rfl | ⟨returned, rfl⟩ <;> rfl
    rw [silent, Turn.discarded, quiet]
    split <;> rfl
  asked := by
    intro forwarded
    rcases answers with rfl | ⟨returned, rfl⟩ <;> cases forwarded
  present := present
  relay := by
    intro relay' present
    obtain ⟨dropped, rfl, relay, before, terminated, cancelled⟩ := relay relay' present
    refine ⟨relay, before, ?_, ?_, ?_, ?_⟩
    · rw [terminated]
      exact (Bool.or_false _).symm
    · rw [cancelled]
      exact (Bool.or_true _).symm
    · intro open'
      rw [cancelled] at open'
      cases open'
    · intro guarded
      rw [dropped] at guarded
      cases guarded
  handed := handed

/-- Cancelling a relay whose stream has not ended brings the stream to its end, where it is dropped
with the guard after it, unless a mark holds it up: then the relay is still there, cancelled. -/
theorem Rehearsal.step_cancel (script rest : Script Unit α) (log : Rehearsal.Log α)
    (cancelled : Bool) :
    (Rehearsal.mk script log (some ⟨some rest, some (), false, cancelled⟩) none none).step .cancel =
      match Script.drain rest log with
      | (some rest, log) =>
        (.stalled, ⟨script, log, some ⟨some rest, some (), false, true⟩, none, none⟩)
      | (none, log) => (.finished, ⟨script, log.extend [.streamDropped, .guardDropped ()],
          some ⟨none, none, false, true⟩, none, none⟩) := by
  rcases drained : Script.drain rest log with ⟨left | left, log'⟩
  · simp [Rehearsal.step, Rehearsal.move, Relay.cancel, drained, Rehearsal.settle,
      SqlDriver.dropGuard, Rehearsal.Log.extend, Stage.note]
  · simp only [Rehearsal.step, Rehearsal.move, Relay.cancel, drained]
    rfl

/-- Cancelling plays what is left as far as its marks have releases, and drops stream and guard at
the end. -/
theorem Rehearsal.Goes.cancel {script : Script Unit α} {log : Rehearsal.Log α}
    {relay : Relay Unit α Unit} {background : Option (Drain Unit α Unit)} {held : Option Unit}
    (phase : Rehearsal.Phase (some relay) background held rest tail) :
    Rehearsal.Goes ⟨script, log, some relay, background, held⟩ rest tail .cancel := by
  cases phase with
  | ended =>
    refine ⟨.finished, [.guardDropped ()],
      ⟨script, log.extend [.guardDropped ()], some ⟨none, none, true, true⟩, none, none⟩, [], [],
      [.ended, .streamDropped, .guardDropped ()], rfl, ?_⟩
    refine .close rfl (.finished true) rfl rfl rfl (Or.inl rfl) rfl (Or.inl rfl) rfl ?_ rfl
    rintro relay' ⟨⟩
    exact ⟨rfl, rfl, _, rfl, rfl, rfl⟩
  | finished terminated =>
    refine ⟨.finished, [],
      ⟨script, log.extend [], some ⟨none, none, terminated, true⟩, none, none⟩, [], [],
      [.ended, .streamDropped, .guardDropped ()], ?_, ?_⟩
    · simp [Rehearsal.step, Rehearsal.move, Relay.cancel, Rehearsal.settle, SqlDriver.dropGuard,
        Rehearsal.Log.extend]
    · refine .close rfl (.finished terminated) rfl rfl rfl (Or.inl rfl) rfl (Or.inl rfl) rfl ?_ rfl
      rintro relay' ⟨⟩
      exact ⟨rfl, rfl, _, rfl, rfl, rfl⟩
  | running rest cancelled =>
    have plays := Script.playsOut rest log
    have stepped := Rehearsal.step_cancel script rest log cancelled
    generalize Script.drain rest log = left at plays stepped
    cases plays with
    | held played later split spent =>
      subst split
      refine ⟨_, (Script.items played).map .pulled, _, played, .mark () :: later, [], stepped,
        .play (Nat.le_of_eq spent) rfl ?_ nofun (Bool.or_true _).symm nofun (Or.inr rfl) rfl rfl
          rfl⟩
      simp [Turn.forwarded?, Turn.discarded, List.filterMap_map, Notice.item?, Function.comp_def]
    | ended enough =>
      refine ⟨_, (Script.items rest).map .pulled ++ [.ended, .streamDropped, .guardDropped ()], _,
        rest, [], [.ended, .streamDropped, .guardDropped ()], stepped, ?_⟩
      exact {
        own := rfl
        whole := (List.append_nil _).symm
        phase := .finished false
        grown := by simp [Rehearsal.Log.extend, Stage.note]
        noted := rfl
        passed := rfl
        released := Nat.sub_add_cancel enough
        held := by intro some; cases some
        pulled := by
          simp [Turn.forwarded?, Turn.discarded, List.filterMap_append, List.filterMap_map,
            Notice.item?, Function.comp_def]
        asked := by intro forwarded; cases forwarded
        present := rfl
        relay := by
          rintro relay' ⟨⟩
          refine ⟨_, rfl, rfl, ?_, ?_, ?_⟩
          · exact (Bool.or_true _).symm
          · intro open'
            cases open'
          · intro guarded
            cases guarded
        handed := rfl }

/-- A relay that is dropped before its stream has ended leaves the stream with the guard to the
background. -/
theorem Rehearsal.Goes.drop {script : Script Unit α} {log : Rehearsal.Log α}
    {relay : Relay Unit α Unit} {background : Option (Drain Unit α Unit)} {held : Option Unit}
    (phase : Rehearsal.Phase (some relay) background held rest tail) :
    Rehearsal.Goes ⟨script, log, some relay, background, held⟩ rest tail .drop := by
  cases phase with
  | running rest cancelled => exact .background rfl rfl rfl rfl rfl (by decide) (Or.inl rfl) rfl
  | ended =>
    refine ⟨.finished, [.guardDropped ()],
      ⟨script, log.extend [.guardDropped ()], none, none, none⟩, [], [],
      [.ended, .streamDropped, .guardDropped ()], rfl, ?_⟩
    refine .close rfl .gone rfl rfl rfl (Or.inr (Or.inl rfl)) rfl (Or.inl rfl) rfl ?_ rfl
    intro relay' present
    cases present
  | finished terminated =>
    refine ⟨.finished, [], ⟨script, log.extend [], none, none, none⟩, [], [],
      [.ended, .streamDropped, .guardDropped ()], ?_, ?_⟩
    · simp [Rehearsal.step, Rehearsal.move, Relay.drop, Rehearsal.settle, SqlDriver.dropGuard,
        Rehearsal.Log.extend]
    · refine .close rfl .gone rfl rfl rfl (Or.inr (Or.inl rfl)) rfl (Or.inl rfl) rfl ?_ rfl
      intro relay' present
      cases present

/-- A relay that is consumed hands the guard back if it met the end while forwarding, and is dropped
otherwise. -/
theorem Rehearsal.Goes.reclaim {script : Script Unit α} {log : Rehearsal.Log α}
    {relay : Relay Unit α Unit} {background : Option (Drain Unit α Unit)} {held : Option Unit}
    (phase : Rehearsal.Phase (some relay) background held rest tail) :
    Rehearsal.Goes ⟨script, log, some relay, background, held⟩ rest tail .reclaim := by
  have unchanged : log.extend [] = log := by simp [Rehearsal.Log.extend]
  cases phase with
  | running rest cancelled =>
    exact .background rfl rfl rfl rfl rfl (by decide) (Or.inr rfl) rfl
  | ended =>
    refine ⟨.guardReturned true, [], ⟨script, log.extend [], none, none, some ()⟩, [], [],
      [.ended, .streamDropped], ?_, ?_⟩
    · rw [unchanged]
      rfl
    · refine .close rfl .handedBack rfl rfl rfl (Or.inr (Or.inr rfl)) rfl (Or.inr ⟨true, rfl⟩)
        rfl ?_ rfl
      intro relay' present
      cases present
  | finished terminated =>
    refine ⟨.guardReturned false, [], ⟨script, log.extend [], none, none, none⟩, [], [],
      [.ended, .streamDropped, .guardDropped ()], ?_, ?_⟩
    · rw [unchanged]
      cases terminated <;> rfl
    · refine .close rfl .gone rfl rfl rfl (Or.inr (Or.inr rfl)) rfl (Or.inr ⟨false, rfl⟩) rfl ?_
        rfl
      intro relay' present
      cases present

end Moves

/-- Every orderly move keeps a relay on its course. There is one lemma for each kind of move, and
those in which the relay is gone are settled together. -/
theorem Rehearsal.Course.step {script : Script Unit α} {turns : List (Rehearsal.Turn α)}
    {r : Rehearsal α} {played rest : Script Unit α} {tail : List (Notice α Unit)}
    {move : Rehearsal.Move} (h : Rehearsal.Course script turns r played rest tail)
    (orderly : move.isOrderly = true) :
    ∃ played' rest' tail',
      Rehearsal.Course script (turns ++ [r.turn move]) (r.step move).2 played' rest' tail' := by
  apply h.goes
  have phase := h.phase
  have holds := h.held
  cases move with
  | abandon => cases orderly
  | dropGuard => cases orderly
  | release => exact .release phase
  | next | cancel | drop | reclaim =>
    obtain ⟨_, log, relay, background, held⟩ := r
    cases relay with
    | none => exact .gone phase rfl holds (by decide) orderly
    | some relay => first
      | exact .next phase
      | exact .cancel phase
      | exact .drop phase
      | exact .reclaim phase

/-- A relay starts its course before its first turn, with the whole script ahead of it. -/
theorem Rehearsal.Course.start (script : Script Unit α) :
    Rehearsal.Course script [] (Rehearsal.start script) [] script [] where
  own := rfl
  whole := rfl
  recorded := rfl
  phase := .running script false
  notices := rfl
  passed := rfl
  released := rfl
  held := by intro some; cases some
  pulled := rfl
  forwarding := fun _ _ _ => rfl
  present := rfl
  terminated := by rintro relay ⟨⟩; rfl
  cancelled := by rintro relay ⟨⟩; rfl
  kept := fun _ _ _ => rfl
  handed := rfl

/-- After any orderly moves a relay is on its course: a front part of the script has been played,
and the turns have come to what the course says. Everything that is shown of relays is read off from
this. -/
theorem Rehearsal.course (script : Script Unit α) (moves : List Rehearsal.Move)
    (orderly : ∀ move ∈ moves, move.isOrderly = true) :
    ∃ played rest tail, Rehearsal.Course script (Rehearsal.perform script moves).1
      (Rehearsal.perform script moves).2 played rest tail := by
  induction moves using List.reverseRecOn with
  | nil => exact ⟨_, _, _, .start script⟩
  | append_singleton moves move ih =>
    rw [List.forall_mem_append] at orderly
    obtain ⟨played, rest, tail, course⟩ := ih orderly.1
    rw [Rehearsal.perform_concat]
    exact course.step (orderly.2 move (List.mem_singleton_self move))

end SqlDriver
