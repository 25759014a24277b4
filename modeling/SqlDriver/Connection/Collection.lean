import SqlDriver.Backend.Session
import SqlDriver.Connection.Config
import SqlDriver.Connection.Outcome

/-!
Running one statement. A result stream is always taken in through a relay: after an error, or when
the call is given up, the stream is brought to its end before its session is used for anything else
or given back.
-/

namespace SqlDriver

/-- What came out of a result stream. -/
structure StreamContents where
  resultSets : List ResultSet
  /-- The transaction reported last, which is the one left open. -/
  transaction : Option TransactionId
deriving Repr

def StreamContents.empty : StreamContents := ⟨[], none⟩

def StreamContents.add (contents : StreamContents) : ResultEvent → StreamContents
  | .transaction id => { contents with transaction := some id }
  | .resultSet set => { contents with resultSets := contents.resultSets ++ [set] }

/-- How taking in a result stream came out. -/
inductive Collected where
  /-- The stream ended without error, and what was kept for it came back. -/
  | complete (contents : StreamContents) (kept : Option Guard)
  /-- The first error of the stream, which was then brought to its end. -/
  | failed (error : BackendError)
  /-- The call was given up; the stream goes on in the background. -/
  | cancelled
deriving Repr

section

variable {σ : Type} [Stage σ Mark Reply Guard] [Backstage σ]

/-- Brings a stream to its end after an error. -/
def Relay.collectAfter (relay : Relay Mark Reply Guard) (error : BackendError) (stage : σ) :
    Patience → Collected × σ × Patience
  | [] =>
    match relay.cancel stage with
    | (true, _, stage) => (.failed error, stage, [])
    | (false, relay, stage) => (.cancelled, dropRelay relay stage, [])
  | stirs :: patience =>
    match relay.cancel stage with
    | (true, _, stage) => (.failed error, stage, stirs :: patience)
    | (false, relay, stage) => relay.collectAfter error (Backstage.stir stirs stage) patience

/-- Takes in a result stream up to its end or its first error. -/
def Relay.collect (relay : Relay Mark Reply Guard) (contents : StreamContents) (stage : σ)
    (patience : Patience) : Collected × σ × Patience :=
  match _forwarded : relay.next stage with
  | (.item (.ok event), relay', stage') => relay'.collect (contents.add event) stage' patience
  | (.item (.error error), relay', stage') => relay'.collectAfter error stage' patience
  | (.ended, relay', stage') =>
    let (kept, left, stage') := relay'.reclaim stage'
    (.complete contents kept, Backstage.leave left stage', patience)
  | (.stalled, relay', stage') =>
    match patience with
    | [] => (.cancelled, dropRelay relay' stage', [])
    | stirs :: patience => relay'.collect contents (Backstage.stir stirs stage') patience
termination_by relay.remaining + patience.length
decreasing_by
  · have := Relay.remaining_next_lt _forwarded
    omega
  · have := Relay.remaining_next_le relay stage
    simp only [_forwarded] at this
    simp only [List.length_cons]
    omega

end

/-- Takes in the result stream of a statement on a session that is held. A sign of the stream is
kept until it has ended. -/
def ResultStream.collect (stream : ResultStream) (b : Backend) (patience : Patience) :
    Outcome StreamContents × Backend × Patience :=
  match (Relay.wrap stream.script (.sign stream.number)).collect .empty b patience with
  | (.complete contents _, b, patience) => (.done contents, b, patience)
  | (.failed e, b, patience) => (.failed (.backend e), b, patience)
  | (.cancelled, b, patience) => (.cancelled, b, patience)

/-- Takes in the result stream of a statement on a session of its own. The session comes back only
when the stream ended without error; otherwise it is given back once the stream has ended. -/
def ResultStream.collectWith (stream : ResultStream) (session : Session) (b : Backend)
    (patience : Patience) : Outcome (StreamContents × Session) × Backend × Patience :=
  match (Relay.wrap stream.script (.lease session)).collect .empty b patience with
  | (.complete contents (some (.lease session)), b, patience) =>
    (.done (contents, session), b, patience)
  | (.complete _ _, b, patience) => (.failed (.backend ⟨.internal, .leaseLost⟩), b, patience)
  | (.failed e, b, patience) => (.failed (.backend e), b, patience)
  | (.cancelled, b, patience) => (.cancelled, b, patience)

/-- Runs a data statement on a new session, which comes back if the statement succeeded. -/
def Config.runData (config : Config) (b : Backend) (patience : Patience) (text : String)
    (control : TransactionControl) (parameters : NamedValues) :
    Outcome (StreamContents × Session) × Backend × Patience :=
  match b.acquire config.sessionTimeout with
  | (.error e, b) => (.failed (.backend e), b, patience)
  | (.ok session, b) =>
    match session.runData b text control parameters config.queryTimeout with
    | (.error e, session, b) => (.failed (.backend e), b.release session, patience)
    | (.ok stream, session, b) => stream.collectWith session b patience

/-- Runs a schema statement on a new session. -/
def Config.runSchema (config : Config) (b : Backend) (text : String) : Outcome Unit × Backend :=
  match b.acquire config.sessionTimeout with
  | (.error e, b) => (.failed (.backend e), b)
  | (.ok session, b) =>
    match session.runSchema b text config.queryTimeout with
    | (.error e, b) => (.failed (.backend e), b.release session)
    | (.ok (), b) => (.done (), b.release session)

end SqlDriver
