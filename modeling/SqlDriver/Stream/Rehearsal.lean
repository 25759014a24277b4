import SqlDriver.Stream.Relay

/-!
A relay on its own: the stream is a script whose marks each wait for a release, the guard is a mere
token, and every notice is kept. What may go on in the background does so after every move, as far
as it can.
-/

namespace SqlDriver

/-- The stage of a rehearsal. -/
structure Rehearsal.Log (α : Type) where
  /-- Releases that no mark has used yet. -/
  releases : Nat
  /-- Marks that have passed. -/
  passed : Nat
  /-- Everything that has happened, oldest first. -/
  notices : List (Notice α Unit)
deriving Repr

instance {α : Type} : Stage (Rehearsal.Log α) Unit α Unit where
  pass _ log :=
    if log.releases = 0 then none
    else some { log with releases := log.releases - 1, passed := log.passed + 1 }
  note notice log := { log with notices := log.notices ++ [notice] }

/-- A relay, what is left of it in the background, and the guard if it came back. -/
structure Rehearsal (α : Type) where
  script : Script Unit α
  log : Rehearsal.Log α
  relay : Option (Relay Unit α Unit)
  background : Option (Drain Unit α Unit)
  held : Option Unit
deriving Repr

/-- Something done to the relay or around it. -/
inductive Rehearsal.Move where
  | next
  | cancel
  /-- Let one mark pass. -/
  | release
  | drop
  /-- Drop the relay where nothing can go on in the background. -/
  | abandon
  | reclaim
  /-- Drop the guard that came back. -/
  | dropGuard
deriving DecidableEq, Repr

/-- The answer to a move. -/
inductive Rehearsal.Answer (α : Type) where
  | polled (result : Polled α)
  | finished
  /-- The move did not come to its end and was given up. -/
  | stalled
  | guardReturned (returned : Bool)
  /-- The relay is gone. -/
  | noRelay
deriving Repr

/-- A relay around a script, with its guard. -/
def Rehearsal.start {α : Type} (script : Script Unit α) : Rehearsal α :=
  ⟨script, ⟨0, 0, []⟩, some (Relay.wrap script ()), none, none⟩

/-- Lets the background go on as far as it can. -/
def Rehearsal.settle {α : Type} (r : Rehearsal α) : Rehearsal α :=
  match r.background with
  | none => r
  | some drain =>
    let (background, log) := drain.run r.log
    { r with background := background, log := log }

/-- Makes one move, without what follows in the background. -/
def Rehearsal.move {α : Type} (r : Rehearsal α) : Rehearsal.Move → Rehearsal.Answer α × Rehearsal α
  | .release => (.finished, { r with log := { r.log with releases := r.log.releases + 1 } })
  | .dropGuard => (.finished, { r with held := none, log := dropGuard r.held r.log })
  | .next =>
    match r.relay with
    | none => (.noRelay, r)
    | some relay =>
      let (polled, relay, log) := relay.next r.log
      (.polled polled, { r with relay := some relay, log := log })
  | .cancel =>
    match r.relay with
    | none => (.noRelay, r)
    | some relay =>
      let (finished, relay, log) := relay.cancel r.log
      (if finished then .finished else .stalled, { r with relay := some relay, log := log })
  | .drop =>
    match r.relay with
    | none => (.noRelay, r)
    | some relay =>
      let (background, log) := relay.drop r.log
      (.finished, { r with relay := none, background := background, log := log })
  | .abandon =>
    match r.relay with
    | none => (.noRelay, r)
    | some relay => (.finished, { r with relay := none, log := relay.abandon r.log })
  | .reclaim =>
    match r.relay with
    | none => (.noRelay, r)
    | some relay =>
      let (guard, background, log) := relay.reclaim r.log
      (.guardReturned guard.isSome,
        { r with relay := none, background := background, log := log, held := guard })

/-- Makes one move and lets the background follow. -/
def Rehearsal.step {α : Type} (r : Rehearsal α) (move : Rehearsal.Move) :
    Rehearsal.Answer α × Rehearsal α :=
  let (answer, r) := r.move move
  (answer, r.settle)

/-- Forwards at most that many items, up to the end or the first stall. -/
def Relay.take {σ μ α γ : Type} [Stage σ μ α γ] :
    Nat → Relay μ α γ → σ → List (Polled α) × Relay μ α γ × σ
  | 0, relay, stage => ([], relay, stage)
  | count + 1, relay, stage =>
    match relay.next stage with
    | (.item item, relay, stage) =>
      let (items, relay, stage) := Relay.take count relay stage
      (.item item :: items, relay, stage)
    | (polled, relay, stage) => ([polled], relay, stage)

/-! ## Counts -/

/-- The number of items taken from the stream. -/
def Rehearsal.Log.pulled {α : Type} (log : Rehearsal.Log α) : Nat :=
  log.notices.countP fun | .pulled _ => true | _ => false

/-- How often the stream signalled its end. -/
def Rehearsal.Log.ended {α : Type} (log : Rehearsal.Log α) : Nat :=
  log.notices.countP fun | .ended => true | _ => false

def Rehearsal.Log.streamDrops {α : Type} (log : Rehearsal.Log α) : Nat :=
  log.notices.countP fun | .streamDropped => true | _ => false

def Rehearsal.Log.guardDrops {α : Type} (log : Rehearsal.Log α) : Nat :=
  log.notices.countP fun | .guardDropped _ => true | _ => false

/-- The number of cues that have not been played. -/
def Rehearsal.left {α : Type} (r : Rehearsal α) : Nat :=
  r.script.length - r.log.pulled - r.log.passed

end SqlDriver
