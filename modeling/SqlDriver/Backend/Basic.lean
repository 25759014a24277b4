import SqlDriver.Backend.Journal
import SqlDriver.Backend.ResultSet
import SqlDriver.Stream.Relay

/-!
A backend held in memory, for trying a driver without a server. It follows a script of its own: it
can be told to refuse requests, how many result sets a statement has, and to hold result streams
behind a gate. Its result streams play on it as their stage, and those that have been dropped go on
in its background until they end.
-/

namespace SqlDriver

/-- A session that was handed out. -/
structure Session where
  number : Nat
  /-- The transaction that is open on it. -/
  openTransaction : Option TransactionId
deriving DecidableEq, Repr

def Session.name (s : Session) : String := sessionName s.number

/-- The session as part of a description. -/
def Session.description (s : Session) : String :=
  "SessionLease \x7b session: " ++ Text.quoted s.name ++ " \x7d"

/-- What result streams pass between their items. -/
inductive Mark where
  /-- Passes only while the gate is open. -/
  | gate
  /-- The stream of that number comes to an event. -/
  | emit (stream : Nat)
  /-- The stream of that number comes to its end. -/
  | complete (stream : Nat)
deriving DecidableEq, Repr

/-- An item of a result stream. -/
abbrev Reply := Except BackendError ResultEvent

/-- What is kept until a result stream has ended. -/
inductive Guard where
  /-- The session that the stream runs on, to be given back. -/
  | lease (session : Session)
  /-- A sign that the stream of that number has not ended. -/
  | sign (stream : Nat)
  | nothing
deriving DecidableEq, Repr

/-- A request to be refused: the one after `skip` others of its kind. -/
structure Injection where
  call : CallKind
  skip : Nat
  status : Status
deriving DecidableEq, Repr

/-- A change to what the next result stream reports of its transaction. -/
inductive Report where
  /-- The transaction is not reported. -/
  | withheld
  /-- Another transaction is reported in place of it. -/
  | replaced (transaction : TransactionId)
  /-- One more transaction is reported after the stream's end. -/
  | added (transaction : TransactionId)
deriving DecidableEq, Repr

/-- A result stream that goes on in the background. -/
structure Background where
  drain : Drain Mark Reply Guard
  /-- Sessions that are given back once it has ended. -/
  waiting : List Session
deriving Repr

/-- A backend. -/
structure Backend where
  journal : Journal
  /-- Requests to be refused. Those of one kind are used up in order. -/
  injections : List Injection
  gateOpen : Bool
  /-- The number of result sets of every data statement. -/
  resultSets : Nat
  /-- Changes to the reports of the data statements to come, one for each. -/
  reports : List Report
  background : List Background
deriving Repr

/-- A backend that has done nothing yet, and refuses and holds nothing. -/
def Backend.fresh : Backend := ⟨[], [], true, 1, [], []⟩

/-- Adds to the journal. -/
def Backend.record (b : Backend) (entry : Entry) : Backend :=
  { b with journal := b.journal ++ [entry] }

/-- Takes a session back. -/
def Backend.release (b : Backend) (session : Session) : Backend :=
  b.record (.released session.number)

/-- Drops what was kept for a stream. -/
def Backend.dropKept (b : Backend) : Guard → Backend
  | .lease session => b.release session
  | .sign _ => b
  | .nothing => b

instance : Stage Backend Mark Reply Guard where
  pass
    | .gate, b => if b.gateOpen then some b else none
    | .emit stream, b => some (b.record (.emitted stream))
    | .complete stream, b => some (b.record (.completed stream))
  note
    | .guardDropped guard, b => b.dropKept guard
    | _, b => b

/-! ## Script -/

/-- Refuses a request of a kind, after letting `skip` of them through. -/
def Backend.inject (b : Backend) (call : CallKind) (skip : Nat) (status : Status) : Backend :=
  { b with injections := b.injections ++ [⟨call, skip, status⟩] }

def Backend.setResultSets (b : Backend) (count : Nat) : Backend := { b with resultSets := count }

def Backend.closeGate (b : Backend) : Backend := { b with gateOpen := false }

def Backend.openGate (b : Backend) : Backend := { b with gateOpen := true }

def Backend.queueReport (b : Backend) (report : Report) : Backend :=
  { b with reports := b.reports ++ [report] }

/-- Lets a request of a kind meet the first refusal set for that kind: it is refused, or counted as
one of those to be let through. -/
def Injection.consult (call : CallKind) : List Injection → Option Status × List Injection
  | [] => (none, [])
  | first :: rest =>
    if first.call = call then
      match first.skip with
      | 0 => (some first.status, rest)
      | skip + 1 => (none, { first with skip := skip } :: rest)
    else
      let (status, rest) := Injection.consult call rest
      (status, first :: rest)

/-- The refusal that a request of a kind meets now. -/
def Backend.consult (b : Backend) (call : CallKind) : Option Status × Backend :=
  let (status, injections) := Injection.consult call b.injections
  (status, { b with injections := injections })

/-- Makes a request: it is recorded, and may be refused. -/
def Backend.request (b : Backend) (call : CallKind) (session : Option Nat) (deadline : Duration) :
    Except BackendError Unit × Backend :=
  match (b.record (.requested call session deadline)).consult call with
  | (some status, b) => (.error ⟨status, .injected call⟩, b)
  | (none, b) => (.ok (), b)

/-! ## Background -/

/-- Whether the stream of that number still goes on in the background, with its sign. -/
def Backend.hasSign (b : Backend) (stream : Nat) : Bool :=
  b.background.any fun task => task.drain.guard = some (.sign stream)

/-- Takes a session back once the stream of that number has ended. -/
def Backend.releaseAfter (b : Backend) (stream : Nat) (session : Session) : Backend :=
  if b.hasSign stream then
    { b with background := b.background.map fun task =>
        if task.drain.guard = some (.sign stream) then
          { task with waiting := task.waiting ++ [session] }
        else task }
  else b.release session

/-- Puts back what a step has left of a background stream; when nothing is left, the sessions that
waited for it are given back. -/
def Backend.resume (b : Backend) (waiting : List Session) :
    Option (Drain Mark Reply Guard) → Backend
  | some drain => { b with background := b.background ++ [⟨drain, waiting⟩] }
  | none => waiting.foldl Backend.release b

/-- Lets a stream that was taken out of the background run as far as it can. -/
def Backend.runTask (b : Backend) (task : Background) : Backend :=
  let (left, b) := task.drain.run b
  b.resume task.waiting left

/-- Pulls a stream that was taken out of the background once. -/
def Backend.pullTask (b : Backend) (task : Background) : Backend :=
  let (left, b) := task.drain.pull b
  b.resume task.waiting left

/-- Lets every background stream run as far as it can. -/
def Backend.settle (b : Backend) : Backend :=
  b.background.foldl Backend.runTask { b with background := [] }

/-- Pulls the first background stream once, and puts it behind the others. -/
def Backend.pullFirst (b : Backend) : Backend :=
  match b.background with
  | [] => b
  | task :: rest => Backend.pullTask { b with background := rest } task

/-- Puts the first background stream behind the others. -/
def Backend.rotate (b : Backend) : Backend :=
  match b.background with
  | [] => b
  | task :: rest => { b with background := rest ++ [task] }

/-- Something that happens at a backend while a call is held up. -/
inductive Stir where
  | openGate
  | closeGate
  /-- Every background stream runs as far as it can. -/
  | settle
  /-- The first background stream is pulled once, and goes behind the others. -/
  | pullFirst
  /-- The first background stream goes behind the others. -/
  | rotate
deriving DecidableEq, Repr

def Backend.stir (b : Backend) : Stir → Backend
  | .openGate => b.openGate
  | .closeGate => b.closeGate
  | .settle => b.settle
  | .pullFirst => b.pullFirst
  | .rotate => b.rotate

/-- What happens each time that a call is held up, before it is tried again. When the list has run
out, a call that is held up is given up. -/
abbrev Patience := List (List Stir)

/-- All that happens while a call is held up once. -/
def Backend.stirAll (b : Backend) (stirs : List Stir) : Backend :=
  stirs.foldl Backend.stir b

/-! ## Stages of calls -/

/-- A stage on which calls are made: it has a background, and things happen there while a call is
held up. -/
class Backstage (σ : Type) where
  /-- Lets what is left of a stream go on in the background. -/
  leave : Option (Drain Mark Reply Guard) → σ → σ
  /-- What happens while a call is held up once. -/
  stir : List Stir → σ → σ

instance : Backstage Backend where
  leave left b := b.resume [] left
  stir stirs b := b.stirAll stirs

/-- Drops a relay. Its stream goes on in the background if it has not ended. -/
def dropRelay {σ : Type} [Stage σ Mark Reply Guard] [Backstage σ]
    (relay : Relay Mark Reply Guard) (stage : σ) : σ :=
  let (left, stage) := relay.drop stage
  Backstage.leave left stage

/-- Drops a relay whose stream runs on the backend. -/
def Backend.dropRelay (b : Backend) (relay : Relay Mark Reply Guard) : Backend :=
  SqlDriver.dropRelay relay b

end SqlDriver
