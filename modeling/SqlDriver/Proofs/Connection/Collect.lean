import SqlDriver.Connection.Collection
import SqlDriver.Proofs.Backend.StreamWork

/-!
Taking in a result stream. Between the pulls of the call the surroundings may do as they like.
However the call comes out, the stream is either at its end, with the guard handed back or dropped
after it, or it goes on in the background with the guard.

A call on a running stream goes pull by pull: `Relay.Collecting` has a case for each way that a pull
may come out, and `Relay.Failing` one for each round of bringing the stream to its end after an
error. What calls do is shown by induction on the two, on any stage.
-/

namespace SqlDriver

/-! ## Calls, pull by pull -/

section

variable {σ : Type} [Stage σ Mark Reply Guard] [Backstage σ]

/-- How a running stream is brought to its end after an error: it ends and the guard is dropped, or
it is held, and the call is given up or goes on after what happens meanwhile. -/
inductive Relay.Failing (guard : Guard) (error : BackendError) :
    Script Mark Reply → σ → Patience → Collected × σ × Patience → Prop
  | ended {script : Script Mark Reply} {stage stage' : σ}
      (drained : Script.drain script stage = (none, stage')) (patience : Patience) :
      Relay.Failing guard error script stage patience
        (.failed error, dropGuard (some guard) (Stage.note .streamDropped stage'), patience)
  | givenUp {script rest : Script Mark Reply} {stage stage' : σ}
      (drained : Script.drain script stage = (some rest, stage')) :
      Relay.Failing guard error script stage []
        (.cancelled, Backstage.leave (some ⟨rest, some guard⟩) stage', [])
  | resumed {script rest : Script Mark Reply} {stage stage' : σ} {stirs : List Stir}
      {patience : Patience} {out : Collected × σ × Patience}
      (drained : Script.drain script stage = (some rest, stage'))
      (later : Relay.Failing guard error rest (Backstage.stir stirs stage') patience out) :
      Relay.Failing guard error script stage (stirs :: patience) out

/-- How a running stream is taken in: pull by pull up to its end, up to its first error, or until
the call is given up, with what happens whenever a pull is held. -/
inductive Relay.Collecting (guard : Guard) :
    Script Mark Reply → StreamContents → σ → Patience → Collected × σ × Patience → Prop
  | event {script rest : Script Mark Reply} {contents : StreamContents} {stage stage' : σ}
      {patience : Patience} {event : ResultEvent} {out : Collected × σ × Patience}
      (polled : Script.poll script stage = (.item (.ok event), rest, stage'))
      (later : Relay.Collecting guard rest (contents.add event) stage' patience out) :
      Relay.Collecting guard script contents stage patience out
  | error {script rest : Script Mark Reply} {stage stage' : σ} {patience : Patience}
      {error : BackendError} {out : Collected × σ × Patience}
      (polled : Script.poll script stage = (.item (.error error), rest, stage'))
      (failing : Relay.Failing guard error rest stage' patience out) (contents : StreamContents) :
      Relay.Collecting guard script contents stage patience out
  | ended {script rest : Script Mark Reply} {stage stage' : σ}
      (polled : Script.poll script stage = (.ended, rest, stage')) (contents : StreamContents)
      (patience : Patience) :
      Relay.Collecting guard script contents stage patience
        (.complete contents (some guard),
          Backstage.leave none (Stage.note .streamDropped stage'), patience)
  | givenUp {script rest : Script Mark Reply} {stage stage' : σ}
      (polled : Script.poll script stage = (.stalled, rest, stage'))
      (contents : StreamContents) :
      Relay.Collecting guard script contents stage []
        (.cancelled, Backstage.leave (some ⟨rest, some guard⟩) stage', [])
  | resumed {script rest : Script Mark Reply} {contents : StreamContents} {stage stage' : σ}
      {stirs : List Stir} {patience : Patience} {out : Collected × σ × Patience}
      (polled : Script.poll script stage = (.stalled, rest, stage'))
      (later : Relay.Collecting guard rest contents (Backstage.stir stirs stage') patience out) :
      Relay.Collecting guard script contents stage (stirs :: patience) out

/-- One pull of a call on a running stream, with the ways on from there. -/
theorem Relay.collect_running (script : Script Mark Reply) (guard : Guard)
    (contents : StreamContents) (stage : σ) (patience : Patience) :
    Relay.collect ⟨some script, some guard, false, false⟩ contents stage patience =
      match Script.poll script stage, patience with
      | (.item (.ok event), rest, stage), patience =>
        Relay.collect ⟨some rest, some guard, false, false⟩ (contents.add event) stage patience
      | (.item (.error error), rest, stage), patience =>
        Relay.collectAfter ⟨some rest, some guard, false, false⟩ error stage patience
      | (.ended, _, stage), patience =>
        (.complete contents (some guard), Backstage.leave none (Stage.note .streamDropped stage),
          patience)
      | (.stalled, rest, stage), [] =>
        (.cancelled, Backstage.leave (some ⟨rest, some guard⟩) stage, [])
      | (.stalled, rest, stage), stirs :: patience =>
        Relay.collect ⟨some rest, some guard, false, false⟩ contents (Backstage.stir stirs stage)
          patience := by
  rw [Relay.collect]
  simp only [Relay.next]
  generalize Script.poll script stage = pulled
  obtain ⟨polled, rest, stage⟩ := pulled
  cases polled with
  | item item => cases item <;> rfl
  | stalled => cases patience <;> rfl
  | ended => rfl

/-- Bringing a stream to its end after an error goes by the rounds of `Relay.Failing`; the induction
is on how often the call may still be held up. -/
theorem Relay.failing (script : Script Mark Reply) (guard : Guard) (cancelled : Bool)
    (error : BackendError) (stage : σ) (patience : Patience) :
    Relay.Failing guard error script stage patience
      (Relay.collectAfter ⟨some script, some guard, false, cancelled⟩ error stage patience) := by
  induction patience generalizing script cancelled stage with
  | nil =>
    cases drained : Script.drain script stage with
    | mk left stage' =>
      rw [Relay.collectAfter, Relay.cancel]
      simp only [drained]
      cases left with
      | none => exact .ended drained []
      | some rest => exact .givenUp drained
  | cons stirs patience ih =>
    cases drained : Script.drain script stage with
    | mk left stage' =>
      rw [Relay.collectAfter, Relay.cancel]
      simp only [drained]
      cases left with
      | none => exact .ended drained _
      | some rest => exact .resumed drained (ih rest true _)

/-- Taking in a running stream: the recursion is on what the stream may still do and on how often
the call may still be held up. -/
theorem Relay.collecting (script : Script Mark Reply) (guard : Guard) (contents : StreamContents)
    (stage : σ) (patience : Patience) :
    Relay.Collecting guard script contents stage patience
      (Relay.collect ⟨some script, some guard, false, false⟩ contents stage patience) := by
  have shorter : ∀ {item rest stage'}, Script.poll script stage = (.item item, rest, stage') →
      rest.length < script.length := Script.length_poll_lt
  have notLonger := Script.length_poll_le script stage
  rw [Relay.collect_running]
  cases polled : Script.poll script stage with
  | mk answer left =>
    obtain ⟨rest, stage'⟩ := left
    rw [polled] at notLonger
    cases answer with
    | item item =>
      have lt := shorter polled
      cases item with
      | ok event =>
        exact .event polled (Relay.collecting rest guard (contents.add event) stage' patience)
      | error error =>
        exact .error polled (Relay.failing rest guard false error stage' patience) contents
    | ended => exact .ended polled contents patience
    | stalled =>
      cases patience with
      | nil => exact .givenUp polled contents
      | cons stirs patience =>
        exact .resumed polled (Relay.collecting rest guard contents _ patience)
termination_by script.length + patience.length
decreasing_by
  · omega
  · simp only [List.length_cons]
    simp only at notLonger
    omega

/-- Failing describes the one way in which a call brings a stream to its end: what it says for a
stream on a stage is what the call comes to there. -/
theorem Relay.Failing.collectAfter_eq {guard : Guard} {error : BackendError}
    {script : Script Mark Reply} {stage : σ} {patience : Patience} {out : Collected × σ × Patience}
    (failing : Relay.Failing guard error script stage patience out) (cancelled : Bool) :
    Relay.collectAfter ⟨some script, some guard, false, cancelled⟩ error stage patience = out := by
  induction failing generalizing cancelled with
  | ended drained patience =>
    cases patience <;>
    · rw [Relay.collectAfter, Relay.cancel]
      simp only [drained]
  | givenUp drained =>
    rw [Relay.collectAfter, Relay.cancel]
    simp only [drained]
    rfl
  | resumed drained later ih =>
    rw [Relay.collectAfter, Relay.cancel]
    simp only [drained]
    exact ih true

/-- Collecting describes the one way in which a call takes a stream in. With `Relay.collecting` the
two are the same, so what is shown by induction on the relation is shown of the call. -/
theorem Relay.Collecting.collect_eq {guard : Guard} {script : Script Mark Reply}
    {contents : StreamContents} {stage : σ} {patience : Patience} {out : Collected × σ × Patience}
    (collecting : Relay.Collecting guard script contents stage patience out) :
    Relay.collect ⟨some script, some guard, false, false⟩ contents stage patience = out := by
  induction collecting with
  | event polled later ih =>
    rw [Relay.collect_running, polled]
    exact ih
  | error polled failing contents =>
    rw [Relay.collect_running, polled]
    exact failing.collectAfter_eq false
  | ended polled contents patience => rw [Relay.collect_running, polled]
  | givenUp polled contents => rw [Relay.collect_running, polled]
  | resumed polled later ih =>
    rw [Relay.collect_running, polled]
    exact ih

end

/-! ## Calls on stages in step -/

/-- Stages that are related are in step also as to what happens while a call is held up. -/
structure Backstage.InStep {σ τ : Type} [Stage σ Mark Reply Guard] [Stage τ Mark Reply Guard]
    [Backstage σ] [Backstage τ] (R : σ → τ → Prop) : Prop extends Stage.InStep R where
  leave (left : Option (Drain Mark Reply Guard)) {stage : σ} {stage' : τ}
    (related : R stage stage') : R (Backstage.leave left stage) (Backstage.leave left stage')
  stir (stirs : List Stir) {stage : σ} {stage' : τ} (related : R stage stage') :
    R (Backstage.stir stirs stage) (Backstage.stir stirs stage')

/-- Stages that are related, with the same patience left. -/
inductive WithPatience {σ τ : Type} (R : σ → τ → Prop) : σ × Patience → τ × Patience → Prop
  | intro {stage : σ} {stage' : τ} (related : R stage stage') (patience : Patience) :
      WithPatience R (stage, patience) (stage', patience)

namespace Backstage.InStep

variable {σ τ : Type} [Stage σ Mark Reply Guard] [Stage τ Mark Reply Guard] [Backstage σ]
  [Backstage τ] {R : σ → τ → Prop} (steps : Backstage.InStep R) {guard : Guard}
  {script : Script Mark Reply} {stage : σ} {stage' : τ} {patience : Patience}
  {out : Collected × σ × Patience}

include steps

/-- After an error a stream is brought to its end in the same way on two stages in step, round by
round. -/
theorem failing {error : BackendError}
    (failing : Relay.Failing guard error script stage patience out) (related : R stage stage') :
    ∃ out', Relay.Failing guard error script stage' patience out' ∧
      SameAnswer (WithPatience R) out out' := by
  induction failing generalizing stage' with
  | ended drained patience =>
    obtain ⟨left, drained', related⟩ := steps.drain_eq drained related
    exact ⟨_, .ended drained' patience,
      .intro _ (.intro (steps.dropGuard (some guard) (steps.note _ related)) _)⟩
  | givenUp drained =>
    obtain ⟨left, drained', related⟩ := steps.drain_eq drained related
    exact ⟨_, .givenUp drained', .intro _ (.intro (steps.leave _ related) _)⟩
  | resumed drained later ih =>
    obtain ⟨left, drained', related⟩ := steps.drain_eq drained related
    obtain ⟨out', later', same⟩ := ih (steps.stir _ related)
    exact ⟨out', .resumed drained' later', same⟩

/-- A stream is taken in in the same way on two stages in step: each pull comes to the same, and so
does whatever happens in between. -/
theorem collecting {contents : StreamContents}
    (collecting : Relay.Collecting guard script contents stage patience out)
    (related : R stage stage') :
    ∃ out', Relay.Collecting guard script contents stage' patience out' ∧
      SameAnswer (WithPatience R) out out' := by
  induction collecting generalizing stage' with
  | event polled later ih =>
    obtain ⟨left, polled', related⟩ := steps.poll_eq polled related
    obtain ⟨out', later', same⟩ := ih related
    exact ⟨out', .event polled' later', same⟩
  | error polled failing contents =>
    obtain ⟨left, polled', related⟩ := steps.poll_eq polled related
    obtain ⟨out', failing', same⟩ := steps.failing failing related
    exact ⟨out', .error polled' failing' contents, same⟩
  | ended polled contents patience =>
    obtain ⟨left, polled', related⟩ := steps.poll_eq polled related
    exact ⟨_, .ended polled' contents patience,
      .intro _ (.intro (steps.leave none (steps.note _ related)) _)⟩
  | givenUp polled contents =>
    obtain ⟨left, polled', related⟩ := steps.poll_eq polled related
    exact ⟨_, .givenUp polled' contents, .intro _ (.intro (steps.leave _ related) _)⟩
  | resumed polled later ih =>
    obtain ⟨left, polled', related⟩ := steps.poll_eq polled related
    obtain ⟨out', later', same⟩ := ih (steps.stir _ related)
    exact ⟨out', .resumed polled' later', same⟩

/-- A call that takes in a stream comes to the same on two stages in step. -/
theorem collect (script : Script Mark Reply) (guard : Guard) (contents : StreamContents)
    (patience : Patience) (related : R stage stage') :
    SameAnswer (WithPatience R)
      (Relay.collect ⟨some script, some guard, false, false⟩ contents stage patience)
      (Relay.collect ⟨some script, some guard, false, false⟩ contents stage' patience) := by
  obtain ⟨out', collecting', same⟩ :=
    steps.collecting (Relay.collecting script guard contents stage patience) related
  rw [collecting'.collect_eq]
  exact same

end Backstage.InStep

/-! ## What a call comes to on a backend -/

/-- How a call may come out that takes in the stream of a script from a backend at its `start`. -/
inductive Relay.Collects (start : Backend) (stream : Nat) (guard : Guard) (items : List Reply)
    (contents : StreamContents) : Collected × Backend → Prop
  | complete {b : Backend} (idles : start.Idles b) (events : List ResultEvent)
      (all : items = events.map .ok) :
      Relay.Collects start stream guard items contents
        (.complete (events.foldl .add contents) (some guard), b.record (.completed stream))
  | failed {b : Backend} (idles : start.Idles b) (events : List ResultEvent) (error : BackendError)
      (others : List Reply) (first : items = events.map .ok ++ .error error :: others) :
      Relay.Collects start stream guard items contents
        (.failed error, (b.record (.completed stream)).dropKept guard)
  | cancelled {b : Backend} (idles : start.Idles b) (rest : Script Mark Reply)
      (finishing : Script.finish? rest = some stream) :
      Relay.Collects start stream guard items contents
        (.cancelled, { b with background := b.background ++ [⟨⟨rest, some guard⟩, []⟩] })

variable {start : Backend} {stream : Nat} {guard : Guard}

/-- An event that is taken in first. -/
theorem Relay.Collects.cons {items : List Reply} {event : ResultEvent} {contents : StreamContents}
    {out : Collected × Backend}
    (collects : Relay.Collects start stream guard items (contents.add event) out) :
    Relay.Collects start stream guard (.ok event :: items) contents out := by
  cases collects with
  | complete idles events all => exact .complete idles (event :: events) (congrArg _ all)
  | failed idles events error others first =>
    exact .failed idles (event :: events) error others (congrArg _ first)
  | cancelled idles rest finishing => exact .cancelled idles rest finishing

/-- After an error the stream is brought to its end, or left to the background, in either case with
the error that came first. -/
theorem Relay.Failing.collects {script : Script Mark Reply} {error : BackendError} {b : Backend}
    {patience : Patience} {out : Collected × Backend × Patience}
    (failing : Relay.Failing guard error script b patience out)
    (finishing : Script.finish? script = some stream) (idles : start.Idles b) {items : List Reply}
    {events : List ResultEvent} {others : List Reply}
    (first : items = events.map .ok ++ .error error :: others) (contents : StreamContents) :
    Relay.Collects start stream guard items contents (out.1, out.2.1) := by
  induction failing with
  | @ended script b b' drained patience =>
    cases Script.drains_eq finishing drained with
    | ended emitted => exact .failed (idles.emit emitted) events error others first
  | @givenUp script rest b b' drained =>
    cases Script.drains_eq finishing drained with
    | held emitted _ closed later => exact .cancelled (idles.emit emitted) rest later
  | @resumed script rest b b' stirs patience out drained later ih =>
    cases Script.drains_eq finishing drained with
    | held emitted _ closed finishing => exact ih finishing ((idles.emit emitted).stirAll stirs)

/-- A running stream that is taken in comes to its end, or is left to the background. The end is
recorded last, after all that the surroundings have done while the call was held up. -/
theorem Relay.collects {script : Script Mark Reply}
    (finishing : Script.finish? script = some stream) {b : Backend} (idles : start.Idles b)
    (contents : StreamContents) (patience : Patience) :
    let run := Relay.collect ⟨some script, some guard, false, false⟩ contents b patience
    Relay.Collects start stream guard (Script.items script) contents (run.1, run.2.1) := by
  have collecting := Relay.collecting script guard contents b patience
  generalize Relay.collect _ contents b patience = run at collecting ⊢
  induction collecting with
  | @event script rest contents b b' patience event out polled later ih =>
    cases Script.polls_eq finishing polled with
    | item emitted _ _ finishing items =>
      rw [items]
      exact (ih finishing (idles.emit emitted)).cons
  | @error script rest b b' patience error out polled failing contents =>
    cases Script.polls_eq finishing polled with
    | item emitted _ _ finishing items =>
      have first : Script.items script = [].map .ok ++ .error error :: Script.items rest := items
      exact failing.collects finishing (idles.emit emitted) first contents
  | @ended script rest b b' polled contents patience =>
    cases Script.polls_eq finishing polled with
    | ended emitted items => exact .complete (idles.emit emitted) [] items
  | @givenUp script rest b b' polled contents =>
    cases Script.polls_eq finishing polled with
    | stalled emitted _ closed later items => exact .cancelled (idles.emit emitted) rest later
  | @resumed script rest contents b b' stirs patience out polled later ih =>
    cases Script.polls_eq finishing polled with
    | stalled emitted _ closed finishing items =>
      rw [items]
      exact ih finishing ((idles.emit emitted).stirAll stirs)

end SqlDriver
