import SqlDriver.Stream.Script

/-!
Streams that may be given up early. A backend session is fit for other work only when the result
stream that runs on it has come to its end, so a `Relay` never simply lets go of its stream: once it
is cancelled it forwards nothing more, pulls the stream to the end and discards the items, and only
then drops the guard, which is whatever must outlive the stream. A relay that is dropped earlier
leaves a `Drain` behind, which does the same in the background.
-/

namespace SqlDriver

/-- A stream that is forwarded, with a guard to be kept until it has ended. -/
structure Relay (μ α γ : Type) where
  /-- The stream, until it has ended. -/
  stream : Option (Script μ α)
  /-- The guard, until it is dropped or handed back. -/
  guard : Option γ
  /-- The stream's end was met while forwarding. -/
  terminated : Bool
  /-- Nothing more is forwarded. -/
  cancelled : Bool
deriving Repr

/-- A stream that goes on in the background, only to be brought to its end. -/
structure Drain (μ α γ : Type) where
  script : Script μ α
  guard : Option γ
deriving Repr

variable {σ μ α γ : Type} [Stage σ μ α γ]

/-- Forwards a stream and keeps a guard for it. -/
def Relay.wrap (script : Script μ α) (guard : γ) : Relay μ α γ :=
  ⟨some script, some guard, false, false⟩

/-- The number of things that the stream will still do. -/
def Relay.remaining (relay : Relay μ α γ) : Nat :=
  (relay.stream.getD []).length

/-- Drops a guard, if there is one. -/
def dropGuard (guard : Option γ) (stage : σ) : σ :=
  match guard with
  | none => stage
  | some guard => Stage.note (.guardDropped guard) stage

/-- Forwards the next item. The stream is given up as soon as it signals its end. -/
def Relay.next (relay : Relay μ α γ) (stage : σ) : Polled α × Relay μ α γ × σ :=
  if relay.cancelled then (.ended, relay, stage)
  else
    match relay.stream with
    | none => (.ended, relay, stage)
    | some script =>
      match Script.poll script stage with
      | (.ended, _, stage) =>
        (.ended, { relay with stream := none, terminated := true },
          Stage.note .streamDropped stage)
      | (polled, rest, stage) => (polled, { relay with stream := some rest }, stage)

/-- Stops forwarding, brings the stream to its end and drops the guard. The answer is whether all
that is done; otherwise the stream is held, and cancelling again goes on from there. -/
def Relay.cancel (relay : Relay μ α γ) (stage : σ) : Bool × Relay μ α γ × σ :=
  let relay := { relay with cancelled := true }
  match relay.stream with
  | none => (true, { relay with guard := none }, dropGuard relay.guard stage)
  | some script =>
    match Script.drain script stage with
    | (some rest, stage) => (false, { relay with stream := some rest }, stage)
    | (none, stage) =>
      (true, { relay with stream := none, guard := none },
        dropGuard relay.guard (Stage.note .streamDropped stage))

/-- Drops the relay. A stream that has not ended goes on in the background and takes the guard
along; otherwise the guard is dropped. -/
def Relay.drop (relay : Relay μ α γ) (stage : σ) : Option (Drain μ α γ) × σ :=
  match relay.stream with
  | none => (none, dropGuard relay.guard stage)
  | some script => (some ⟨script, relay.guard⟩, stage)

/-- Drops the relay where nothing can go on in the background: the guard is dropped, and the stream
is given up as it stands. -/
def Relay.abandon (relay : Relay μ α γ) (stage : σ) : σ :=
  match relay.stream with
  | none => dropGuard relay.guard stage
  | some _ => Stage.note .streamDropped (dropGuard relay.guard stage)

/-- Consumes the relay. The guard comes back if the stream's end was met while forwarding; otherwise
the relay is dropped with it. -/
def Relay.reclaim (relay : Relay μ α γ) (stage : σ) :
    Option γ × Option (Drain μ α γ) × σ :=
  if relay.terminated then (relay.guard, Relay.drop { relay with guard := none } stage)
  else (none, relay.drop stage)

/-- Lets go of a background stream that has ended: its guard is dropped first, and the stream with
all that is left of the work on it. -/
def Drain.finish (drain : Drain μ α γ) (stage : σ) : σ :=
  Stage.note .streamDropped (dropGuard drain.guard stage)

/-- Lets a background stream run as far as it can. Nothing is left of it once it has ended and its
guard is dropped. -/
def Drain.run (drain : Drain μ α γ) (stage : σ) : Option (Drain μ α γ) × σ :=
  match Script.drain drain.script stage with
  | (some rest, stage) => (some { drain with script := rest }, stage)
  | (none, stage) => (none, drain.finish stage)

/-- Pulls a background stream once. -/
def Drain.pull (drain : Drain μ α γ) (stage : σ) : Option (Drain μ α γ) × σ :=
  match Script.poll drain.script stage with
  | (.ended, _, stage) => (none, drain.finish stage)
  | (_, rest, stage) => (some { drain with script := rest }, stage)

/-- An item leaves less for the stream to do. -/
theorem Relay.remaining_next_lt {relay relay' : Relay μ α γ} {stage stage' : σ} {item : α}
    (forwarded : relay.next stage = (.item item, relay', stage')) :
    relay'.remaining < relay.remaining := by
  unfold Relay.next at forwarded
  split at forwarded
  · simp at forwarded
  · split at forwarded
    · simp at forwarded
    · rename_i script running
      split at forwarded
      · simp at forwarded
      · rename_i polled rest stage₁ _ polling
        simp only [Prod.mk.injEq] at forwarded
        obtain ⟨rfl, rfl, rfl⟩ := forwarded
        simpa [Relay.remaining, running] using Script.length_poll_lt polling

/-- Forwarding never leaves more for the stream to do. -/
theorem Relay.remaining_next_le (relay : Relay μ α γ) (stage : σ) :
    (relay.next stage).2.1.remaining ≤ relay.remaining := by
  unfold Relay.next
  split
  · exact Nat.le_refl _
  · split
    · exact Nat.le_refl _
    · rename_i script running
      have shorter := Script.length_poll_le script stage
      split
      · simp [Relay.remaining]
      · rename_i polling
        rw [polling] at shorter
        simpa [Relay.remaining, running] using shorter

end SqlDriver
