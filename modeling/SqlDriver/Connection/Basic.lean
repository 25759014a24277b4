import SqlDriver.Connection.Collection
import SqlDriver.Connection.State

/-!
A connection: its configuration, its state, and the result stream that may still go on the session
it holds. Every call takes the connection, the backend and the patience for being held up, and
answers with all three as the call leaves them. A call changes the state only after all it asked of
the backend has succeeded, so one that fails or is given up leaves the state as it was.
-/

namespace SqlDriver

/-- A connection. -/
structure Connection where
  config : Config
  state : Connection.State
  /-- The number of the last result stream on the session that is held. When its statement was given
  up it may still go on. -/
  pending : Option Nat
deriving Repr

/-- A connection that has just been opened. -/
def Connection.open (config : Config) : Connection := ⟨config, .outside config.settings, none⟩

/-- Sets the deadline of the statements from now on. -/
def Connection.setQueryTimeout (c : Connection) (timeout : Duration) : Connection :=
  { c with config := { c.config with queryTimeout := timeout } }

/-- Whether a result stream still goes on the session that is held. -/
def Connection.isDraining (c : Connection) (b : Backend) : Bool :=
  c.pending.any b.hasSign

/-- Waits until no result stream goes on the session that is held. The answer is whether that has
come about; otherwise the wait is given up. -/
def Connection.awaitDrain (c : Connection) (b : Backend) :
    Patience → Bool × Connection × Backend × Patience
  | [] => if c.isDraining b then (false, c, b, []) else (true, { c with pending := none }, b, [])
  | stirs :: patience =>
    if c.isDraining b then c.awaitDrain (b.stirAll stirs) patience
    else (true, { c with pending := none }, b, stirs :: patience)

/-- Leaves the transaction that is open, with the same settings, and gives its session back. -/
def Connection.leave (c : Connection) (b : Backend) : Connection × Backend :=
  match c.state with
  | .inside _ session settings => ({ c with state := .outside settings }, b.release session)
  | _ => (c, b)

/-! ## Settings -/

/-- Changes the settings, which only a connection without an open transaction allows. -/
def Connection.changeSettings (c : Connection)
    (change : TransactionSettings → TransactionSettings) : Outcome Unit × Connection :=
  match c.state with
  | .outside settings => (.done (), { c with state := .outside (change settings) })
  | .inside _ _ _ => (.failed (.state .settingsChangeInTransaction), c)
  | .closed => (.failed (.state .closed), c)

/-- Sets the isolation level of the transactions to be opened from now on. -/
def Connection.setIsolationLevel (c : Connection) (level : IsolationLevel) :
    Outcome Unit × Connection :=
  c.changeSettings (·.withIsolationLevel level)

/-- Sets the read-only flag of the transactions to be opened from now on. -/
def Connection.setReadOnly (c : Connection) (readOnly : Bool) : Outcome Unit × Connection :=
  c.changeSettings (·.withReadOnly readOnly)

end SqlDriver
