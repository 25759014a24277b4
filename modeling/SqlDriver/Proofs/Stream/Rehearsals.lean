import SqlDriver.Proofs.Stream.Course

/-!
Relays from beginning to end. Whatever is done with a relay, its stream is played once, from its
front on, and never left before its end; only then is the guard dropped or handed back. What is
forwarded comes before what is discarded, and both together are the items played.
-/

namespace SqlDriver

variable {α : Type}

/-! ## What the turns show -/

section Turns

variable {script : Script Unit α} {turns : List (Rehearsal.Turn α)} {r : Rehearsal α}
  {played rest : Script Unit α} {tail : List (Notice α Unit)}

/-- Before each turn the relay was on its course. -/
theorem Rehearsal.course_before {moves : List Rehearsal.Move}
    (orderly : ∀ move ∈ moves, move.isOrderly = true) {before after : List (Rehearsal.Turn α)}
    {turn : Rehearsal.Turn α}
    (split : (Rehearsal.perform script moves).1 = before ++ turn :: after) :
    ∃ r played rest tail, Rehearsal.Course script before r played rest tail ∧
      turn = r.turn turn.move := by
  obtain ⟨earlier, move, later, rfl, rfl, rfl⟩ := Rehearsal.perform_split split
  obtain ⟨played, rest, tail, course⟩ :=
    Rehearsal.course script earlier fun move among => orderly move (List.mem_append_left _ among)
  exact ⟨_, played, rest, tail, course, rfl⟩

/-- Between turns the background has gone on as far as it can. -/
theorem Rehearsal.Course.settled (h : Rehearsal.Course script turns r played rest tail) :
    r.settle = r :=
  Rehearsal.settle_of_holds h.phase h.held

/-- A relay that is gone, or cancelled, pulls nothing when it is asked for the next item. -/
theorem Rehearsal.Course.turn_next (h : Rehearsal.Course script turns r played rest tail)
    (ceased : turns.any Turn.consumes = true ∨ turns.any Turn.cancels = true) :
    r.turn .next = ⟨.next,
      if turns.any Turn.consumes then .noRelay else .polled .ended, []⟩ := by
  have settled := h.settled
  have present := h.present
  cases relay : r.relay with
  | none =>
    rw [relay] at present
    have gone : turns.any Turn.consumes = true := by simpa using present.symm
    have stepped : r.step .next = (.noRelay, r) := by
      simp only [Rehearsal.step, Rehearsal.move, relay, settled]
    rw [Rehearsal.turn, stepped, gone, List.drop_length]
    rfl
  | some relay' =>
    rw [relay] at present
    have here : turns.any Turn.consumes = false := by simpa using present.symm
    have cancelled : relay'.cancelled = true := by
      rw [h.cancelled relay' relay]
      exact ceased.resolve_left (by rw [here]; decide)
    have stepped : r.step .next = (.polled .ended, r) := by
      have same : { r with relay := some relay' } = r := by rw [← relay]
      simp only [Rehearsal.step, Rehearsal.move, relay, Relay.next, cancelled, if_true, same,
        settled]
    rw [Rehearsal.turn, stepped, here, List.drop_length]
    rfl

/-- The end is met only by a relay that is there and was not cancelled. -/
theorem Rehearsal.Course.open_of_meetsEnd (h : Rehearsal.Course script turns r played rest tail)
    {move : Rehearsal.Move} (meets : (r.turn move).meetsEnd = true) :
    move = .next ∧ turns.any Turn.consumes = false ∧ turns.any Turn.cancels = false := by
  obtain ⟨next, ended⟩ := Bool.and_eq_true_iff.mp meets
  have next : move = .next := of_decide_eq_true next
  subst next
  have quiet := fun ceased => congrArg Turn.notices (h.turn_next ceased)
  cases gone : turns.any Turn.consumes with
  | true => rw [quiet (Or.inl gone)] at ended; cases ended
  | false =>
    cases cancelled : turns.any Turn.cancels with
    | true => rw [quiet (Or.inr cancelled)] at ended; cases ended
    | false => exact ⟨rfl, rfl, rfl⟩

/-- Only consuming the relay hands the guard back; no other move ever returns it. -/
theorem Rehearsal.reclaim_of_handsBack {r : Rehearsal α} {move : Rehearsal.Move}
    (hands : (r.turn move).handsBack = true) : move = .reclaim := by
  obtain ⟨_, log, relay, background, held⟩ := r
  cases move with
  | reclaim => rfl
  | release | dropGuard => cases hands
  | next | drop | abandon => cases relay <;> cases hands
  | cancel =>
    cases relay with
    | none => cases hands
    | some relay =>
      simp only [Rehearsal.turn, Rehearsal.step, Rehearsal.move, Turn.handsBack] at hands
      cases finished : (relay.cancel log).1 <;> rw [finished] at hands <;> cases hands

/-- At any point of its course a relay hands the guard back if and only if it is still there, has
met the end while forwarding and was not cancelled. -/
theorem Rehearsal.Course.handsBack_iff (h : Rehearsal.Course script turns r played rest tail) :
    (r.turn .reclaim).handsBack = true ↔ turns.any Turn.consumes = false ∧
      turns.any Turn.meetsEnd = true ∧ turns.any Turn.cancels = false := by
  have present := h.present
  have phase := h.phase
  have met := h.terminated
  have cancelled := h.cancelled
  obtain ⟨_, log, relay, background, held⟩ := r
  cases relay with
  | none =>
    have gone : turns.any Turn.consumes = true := by simpa using present.symm
    rw [gone]
    constructor
    · intro hands
      cases hands
    · rintro ⟨⟨⟩, -⟩
  | some relay =>
    have here : turns.any Turn.consumes = false := by simpa using present.symm
    rw [here, ← met relay rfl, ← cancelled relay rfl]
    cases phase with
    | running rest cancelled =>
      constructor
      · intro hands
        cases hands
      · rintro ⟨-, ⟨⟩, -⟩
    | ended => exact ⟨fun _ => ⟨rfl, rfl, rfl⟩, fun _ => rfl⟩
    | finished terminated =>
      constructor
      · intro hands
        cases terminated <;> cases hands
      · rintro ⟨-, -, ⟨⟩⟩

/-- The guard is handed back exactly when the end was met while forwarding and no cancel came
after, to the first that asks. -/
theorem Rehearsal.handsBack_iff_meetsEnd {moves : List Rehearsal.Move}
    (orderly : ∀ move ∈ moves, move.isOrderly = true) {before after : List (Rehearsal.Turn α)}
    {turn : Rehearsal.Turn α} (split : (Rehearsal.perform script moves).1 = before ++ turn :: after)
    (reclaims : turn.move = .reclaim) :
    turn.handsBack = true ↔ (∀ earlier ∈ before, earlier.consumes = false) ∧
      ∃ first last later, before = first ++ last :: later ∧ last.meetsEnd = true ∧
        ∀ other ∈ later, other.cancels = false := by
  have none : ∀ (turns : List (Turn α)) (p : Turn α → Bool),
      turns.any p = false ↔ ∀ turn ∈ turns, p turn = false := by
    intro turns p
    simp only [List.any_eq_false, Bool.not_eq_true]
  obtain ⟨r, played, rest, tail, course, here⟩ := Rehearsal.course_before orderly split
  rw [reclaims] at here
  rw [here, course.handsBack_iff, none, none]
  refine and_congr_right fun _ => ⟨?_, ?_⟩
  · rintro ⟨met, uncancelled⟩
    obtain ⟨last, among, meets⟩ := List.any_eq_true.mp met
    obtain ⟨first, later, rfl⟩ := List.append_of_mem among
    refine ⟨first, last, later, rfl, meets, fun other among => ?_⟩
    exact uncancelled other (List.mem_append_right _ (List.mem_cons_of_mem _ among))
  · rintro ⟨first, last, later, rfl, meets, uncancelled⟩
    -- Where the end is met, nothing was cancelled before.
    rw [List.append_assoc, List.cons_append] at split
    obtain ⟨r', _, _, _, course', here'⟩ := Rehearsal.course_before orderly split
    rw [here'] at meets
    obtain ⟨next, -, open'⟩ := course'.open_of_meetsEnd meets
    rw [← here'] at meets
    refine ⟨?_, ?_⟩
    · rw [List.any_append, List.any_cons, meets, Bool.true_or, Bool.or_true]
    · intro other among
      rcases List.mem_append.mp among with among | among
      · exact (none _ _).mp open' other among
      · rcases List.mem_cons.mp among with rfl | among
        · rw [Turn.cancels, next]
          rfl
        · exact uncancelled other among

/-- What is noted after the last item is a beginning of the end, the stream's drop and the guard's
drop. Only in the background, when the relay is gone, the guard is dropped before the stream. -/
theorem Rehearsal.Course.tail_cases (h : Rehearsal.Course script turns r played rest tail) :
    tail <+: [.ended, .streamDropped, .guardDropped ()] ∨
      tail = [.ended, .guardDropped (), .streamDropped] ∧ turns.any Turn.consumes = true := by
  have phase := h.phase
  have present := h.present
  obtain ⟨_, log, relay, background, held⟩ := r
  simp only at phase present
  cases phase with
  | running | draining => exact Or.inl List.nil_prefix
  | ended | handedBack => exact Or.inl ⟨[.guardDropped ()], rfl⟩
  | finished | gone => exact Or.inl List.prefix_rfl
  | drained => exact Or.inr ⟨rfl, by simpa using present.symm⟩

/-- Nothing is pulled after the last item, so what is noted from there on does not count among the
items. -/
theorem Rehearsal.Course.tail_silent (h : Rehearsal.Course script turns r played rest tail) :
    tail.filterMap Notice.item? = [] := by
  rcases h.tail_cases with ⟨more, full⟩ | ⟨rfl, -⟩
  · have none := congrArg (List.filterMap Notice.item?) full
    rw [List.filterMap_append] at none
    exact (List.append_eq_nil_iff.mp none).1
  · rfl

/-- The counts of a log are those of what was noted after the last item. -/
theorem Rehearsal.Course.countP_notices (h : Rehearsal.Course script turns r played rest tail)
    (counts : Notice α Unit → Bool) (skips : ∀ item, counts (.pulled item) = false) :
    r.log.notices.countP counts = tail.countP counts := by
  rw [h.notices, List.countP_append, Nat.add_eq_right, List.countP_eq_zero]
  intro notice among
  obtain ⟨item, -, rfl⟩ := List.mem_map.mp among
  rw [skips]
  exact Bool.false_ne_true

/-- The end is met once, the stream is dropped once, and the guard is dropped or handed back once,
if at all. -/
theorem Rehearsal.Course.given_up_once (h : Rehearsal.Course script turns r played rest tail) :
    r.log.ended ≤ 1 ∧ r.log.streamDrops ≤ 1 ∧
      r.log.guardDrops + turns.countP Turn.handsBack ≤ 1 := by
  have phase := h.phase
  have handed := h.handed
  rw [Rehearsal.Log.ended, h.countP_notices _ fun _ => rfl, Rehearsal.Log.streamDrops,
    h.countP_notices _ fun _ => rfl, Rehearsal.Log.guardDrops, h.countP_notices _ fun _ => rfl,
    handed]
  generalize r.relay = relay at phase
  generalize r.background = background at phase
  generalize r.held = held at phase
  cases phase <;> simp

/-- A relay that was given up is at its end once there were enough releases. -/
theorem Rehearsal.Course.given_up (h : Rehearsal.Course script turns r played rest tail)
    (given : turns.any Turn.givesUp = true)
    (enough : Script.marks script ≤ turns.countP Turn.releases) :
    r.log.ended = 1 ∧ r.log.streamDrops = 1 ∧
      r.log.guardDrops + turns.countP Turn.handsBack = 1 := by
  have phase := h.phase
  have handed := h.handed
  have kept := h.kept
  have holds := h.held
  have whole := congrArg Script.marks h.whole
  have released := h.released
  have passed := h.passed
  rw [Script.marks_append] at whole
  rw [Rehearsal.Log.ended, h.countP_notices _ fun _ => rfl, Rehearsal.Log.streamDrops,
    h.countP_notices _ fun _ => rfl, Rehearsal.Log.guardDrops, h.countP_notices _ fun _ => rfl,
    handed]
  obtain ⟨_, log, relay, background, held⟩ := r
  simp only at phase
  cases phase with
  | running | ended =>
    rw [kept _ rfl rfl] at given
    cases given
  | draining rest =>
    -- What is held in the background lacks a release.
    obtain ⟨spent, later, rfl⟩ := holds rfl
    simp only at spent released passed
    rw [Script.marks_mark] at whole
    omega
  | finished | gone | drained | handedBack => exact ⟨rfl, rfl, rfl⟩

end Turns

/-! ## Any rehearsal -/

/-- The guard of a relay outlives its stream and is given up once: it is dropped or handed back at
most once in all, and only after the stream's end, which is signalled and followed by the stream's
drop at most once, and after which nothing is pulled. The guard is dropped after the stream, or,
when the relay is gone and the end is met in the background, just before it. A relay hands its guard
back exactly when the end was met while forwarding and no cancel came after. Once the relay is given
up and every mark has its release, the stream has ended and is dropped, and the guard is dropped or
was handed back. -/
theorem Rehearsal.guard_outlives_stream (script : Script Unit α) (moves : List Rehearsal.Move)
    (orderly : ∀ move ∈ moves, move.isOrderly = true) :
    (∃ items tail, (Rehearsal.perform script moves).2.log.notices =
        (items : List α).map .pulled ++ tail ∧
      (tail <+: [.ended, .streamDropped, .guardDropped ()] ∨
        tail = [.ended, .guardDropped (), .streamDropped] ∧
          (Rehearsal.perform script moves).1.any Turn.consumes = true)) ∧
    ((Rehearsal.perform script moves).2.log.ended ≤ 1 ∧
      (Rehearsal.perform script moves).2.log.streamDrops ≤ 1 ∧
      (Rehearsal.perform script moves).2.log.guardDrops +
        (Rehearsal.perform script moves).1.countP Turn.handsBack ≤ 1) ∧
    (∀ before turn after, (Rehearsal.perform script moves).1 = before ++ turn :: after →
      (turn.handsBack = true → .ended ∈ before.flatMap Turn.notices) ∧
      (turn.move = .reclaim →
        (turn.handsBack = true ↔ (∀ earlier ∈ before, earlier.consumes = false) ∧
          ∃ first last later, before = first ++ last :: later ∧ last.meetsEnd = true ∧
            ∀ other ∈ later, other.cancels = false))) ∧
    ((∃ turn ∈ (Rehearsal.perform script moves).1, turn.givesUp = true) →
      Script.marks script ≤ (Rehearsal.perform script moves).1.countP Turn.releases →
      (Rehearsal.perform script moves).2.log.ended = 1 ∧
        (Rehearsal.perform script moves).2.log.streamDrops = 1 ∧
        (Rehearsal.perform script moves).2.log.guardDrops +
          (Rehearsal.perform script moves).1.countP Turn.handsBack = 1) := by
  obtain ⟨played, rest, tail, course⟩ := Rehearsal.course script moves orderly
  refine ⟨⟨_, tail, course.notices, course.tail_cases⟩, course.given_up_once, ?_, ?_⟩
  · intro before turn after split
    refine ⟨?_, Rehearsal.handsBack_iff_meetsEnd orderly split⟩
    intro hands
    have reclaims : turn.move = .reclaim := by
      obtain ⟨r, _, _, _, _, here⟩ := Rehearsal.course_before orderly split
      rw [here] at hands
      exact Rehearsal.reclaim_of_handsBack hands
    obtain ⟨-, first, last, later, rfl, meets, -⟩ :=
      (Rehearsal.handsBack_iff_meetsEnd orderly split reclaims).mp hands
    obtain ⟨notice, among, ended⟩ := List.any_eq_true.mp (Bool.and_eq_true_iff.mp meets).2
    refine List.mem_flatMap.mpr
      ⟨last, List.mem_append_right _ (List.mem_cons_self ..), ?_⟩
    cases notice with
    | ended => exact among
    | _ => cases ended
  · rintro ⟨turn, among, given⟩ enough
    exact course.given_up (List.any_eq_true.mpr ⟨turn, among, given⟩) enough

/-- The end is met, the guard is reclaimed, and that is all there is to give up. -/
theorem Rehearsal.guard_outlives_two_items :
    (∀ move ∈ [Rehearsal.Move.next, .release, .next, .next, .reclaim], move.isOrderly = true) ∧
    (Rehearsal.perform [.yield 'a', .mark (), .yield 'b']
        [.next, .release, .next, .next, .reclaim]).2.log.guardDrops +
      (Rehearsal.perform [.yield 'a', .mark (), .yield 'b']
        [.next, .release, .next, .next, .reclaim]).1.countP Turn.handsBack = 1 := by
  have orderly : ∀ move ∈ [Rehearsal.Move.next, .release, .next, .next, .reclaim],
      move.isOrderly = true := by decide
  obtain ⟨-, -, -, given⟩ := Rehearsal.guard_outlives_stream
    [.yield 'a', .mark (), .yield 'b'] [.next, .release, .next, .next, .reclaim] orderly
  exact ⟨orderly, (given ⟨_, List.mem_of_getLast? rfl, rfl⟩ (by decide)).2.2⟩

/-- A relay forwards the front of its stream's items and discards the rest: the items forwarded,
then the items discarded, are the items pulled, and the script holds these and then what it will
still hand out. Once it was cancelled, the next item is always the end, as long as the relay is
there. A relay says that it has met the end exactly when it did so while forwarding. -/
theorem Rehearsal.forwards_front_discards_rest (script : Script Unit α)
    (moves : List Rehearsal.Move) (orderly : ∀ move ∈ moves, move.isOrderly = true) :
    Rehearsal.forwarded (Rehearsal.perform script moves).1 <+: Script.items script ∧
    (Rehearsal.forwarded (Rehearsal.perform script moves).1 ++
        Rehearsal.discarded (Rehearsal.perform script moves).1 =
      (Rehearsal.perform script moves).2.log.notices.filterMap Notice.item?) ∧
    (∃ played, script = played ++ (Rehearsal.perform script moves).2.rest ∧
      Script.items played =
        (Rehearsal.perform script moves).2.log.notices.filterMap Notice.item? ∧
      (Rehearsal.perform script moves).2.left = (Rehearsal.perform script moves).2.rest.length) ∧
    (∀ before turn after, (Rehearsal.perform script moves).1 = before ++ turn :: after →
      turn.move = .next → (∃ earlier ∈ before, earlier.cancels = true) →
      turn.answer = if before.any Turn.consumes then .noRelay else .polled .ended) ∧
    (∀ relay, (Rehearsal.perform script moves).2.relay = some relay →
      (relay.terminated = true ↔
        ∃ turn ∈ (Rehearsal.perform script moves).1, turn.meetsEnd = true)) := by
  obtain ⟨played, rest, tail, course⟩ := Rehearsal.course script moves orderly
  have pulled : (Rehearsal.perform script moves).2.log.notices.filterMap Notice.item? =
      Script.items played := by
    rw [course.notices, List.filterMap_append, course.tail_silent, List.filterMap_map,
      List.append_nil]
    exact List.filterMap_some
  have left : (Rehearsal.perform script moves).2.rest = rest := by
    have phase := course.phase
    generalize (Rehearsal.perform script moves).2 = r at phase
    obtain ⟨_, log, relay, background, held⟩ := r
    simp only at phase
    cases phase <;> rfl
  refine ⟨?_, course.pulled.trans pulled.symm, ⟨played, ?_, pulled.symm, ?_⟩, ?_, ?_⟩
  · have items := congrArg Script.items course.whole
    rw [Script.items_append, ← course.pulled, List.append_assoc] at items
    rw [items]
    exact List.prefix_append _ _
  · rw [left]
    exact course.whole
  · have count : (Rehearsal.perform script moves).2.log.pulled = (Script.items played).length := by
      rw [← pulled, List.length_filterMap_eq_countP]
      refine List.countP_congr fun notice _ => ?_
      cases notice <;> simp [Notice.item?]
    rw [left, Rehearsal.left, course.own, count, course.passed, course.whole, List.length_append,
      Script.length_eq played]
    omega
  · rintro before turn after split next ⟨earlier, among, cancels⟩
    obtain ⟨r, _, _, _, course', here⟩ := Rehearsal.course_before orderly split
    rw [next] at here
    rw [here, course'.turn_next (Or.inr (List.any_eq_true.mpr ⟨earlier, among, cancels⟩))]
  · intro relay present
    rw [course.terminated relay present, List.any_eq_true]

/-- A cancel is held after the first item; what it left is discarded in the background. -/
theorem Rehearsal.forwards_one_discards_one :
    (∀ move ∈ [Rehearsal.Move.next, .cancel, .next, .drop, .release], move.isOrderly = true) ∧
    Rehearsal.forwarded (Rehearsal.perform [.yield 'a', .mark (), .yield 'b']
      [.next, .cancel, .next, .drop, .release]).1 = ['a'] ∧
    Rehearsal.discarded (Rehearsal.perform [.yield 'a', .mark (), .yield 'b']
      [.next, .cancel, .next, .drop, .release]).1 = ['b'] ∧
    Rehearsal.forwarded (Rehearsal.perform [.yield 'a', .mark (), .yield 'b']
      [.next, .cancel, .next, .drop, .release]).1 <+: ['a', 'b'] :=
  ⟨by decide, by decide, by decide, (Rehearsal.forwards_front_discards_rest
    [.yield 'a', .mark (), .yield 'b'] [.next, .cancel, .next, .drop, .release] (by decide)).1⟩

end SqlDriver
