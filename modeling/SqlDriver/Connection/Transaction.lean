import SqlDriver.Connection.Basic

/-!
Opening and ending transactions on a connection, and closing it. A transaction that the backend
refuses to end stays open, with its session, so that ending it can be tried again; only a forced
close gives the session back whatever the backend says.
-/

namespace SqlDriver

/-- Opens a transaction, unless one is open. Statements in it are not committed one by one. -/
def Connection.begin (c : Connection) (b : Backend) (settings : TransactionSettings) :
    Outcome Unit × Connection × Backend :=
  match c.state with
  | .closed => (.failed (.state .closed), c, b)
  | .inside _ _ _ => (.done (), c, b)
  | .outside _ =>
    match b.acquire c.config.sessionTimeout with
    | (.error e, b) => (.failed (.backend e), c, b)
    | (.ok session, b) =>
      match session.begin b settings.mode c.config.transactionTimeout with
      | (.error e, session, b) => (.failed (.backend e), c, b.release session)
      | (.ok transaction, session, b) =>
        (.done (), { c with state := .inside transaction session (settings.withAutoCommit false) },
          b)

/-- How a transaction is ended. -/
inductive Ending where
  | commit
  | rollback
deriving DecidableEq, Repr

/-- Ends the transaction that is open on a session. -/
def Session.finish (s : Session) (b : Backend) (ending : Ending) (transaction : TransactionId)
    (deadline : Duration) : Except BackendError Unit × Session × Backend :=
  match ending with
  | .commit => s.commit b transaction deadline
  | .rollback => s.rollback b transaction deadline

/-- Ends the transaction that is open, if one is, and gives its session back. -/
def Connection.finish (c : Connection) (b : Backend) (patience : Patience) (ending : Ending) :
    Outcome Unit × Connection × Backend × Patience :=
  match c.awaitDrain b patience with
  | (false, c, b, patience) => (.cancelled, c, b, patience)
  | (true, c, b, patience) =>
    match c.state with
    | .inside transaction session settings =>
      match session.finish b ending transaction c.config.transactionTimeout with
      | (.error e, session, b) =>
        (.failed (.backend e), { c with state := .inside transaction session settings }, b,
          patience)
      | (.ok (), session, b) =>
        (.done (), { c with state := .outside settings }, b.release session, patience)
    | _ => (.done (), c, b, patience)

/-- Commits the transaction that is open, if one is. -/
def Connection.commit (c : Connection) (b : Backend) (patience : Patience) :
    Outcome Unit × Connection × Backend × Patience :=
  c.finish b patience .commit

/-- Rolls back the transaction that is open, if one is. -/
def Connection.rollback (c : Connection) (b : Backend) (patience : Patience) :
    Outcome Unit × Connection × Backend × Patience :=
  c.finish b patience .rollback

/-- Turns automatic committing on or off. Inside a transaction it is off, and turning it on commits
the transaction first. -/
def Connection.setAutoCommit (c : Connection) (b : Backend) (patience : Patience)
    (autoCommit : Bool) : Outcome Unit × Connection × Backend × Patience :=
  match c.state, autoCommit with
  | .closed, _ => (.failed (.state .closed), c, b, patience)
  | .outside _, _ =>
    let (outcome, c) := c.changeSettings (·.withAutoCommit autoCommit)
    (outcome, c, b, patience)
  | .inside _ _ _, false => (.done (), c, b, patience)
  | .inside _ _ _, true =>
    match c.commit b patience with
    | (.done (), c, b, patience) =>
      let (outcome, c) := c.changeSettings (·.withAutoCommit true)
      (outcome, c, b, patience)
    | rest => rest

/-! ## Closing -/

/-- Closes the connection, after committing the transaction that is open. -/
def Connection.close (c : Connection) (b : Backend) (patience : Patience) :
    Outcome Unit × Connection × Backend × Patience :=
  if c.state.isClosed then (.failed (.state .closed), c, b, patience)
  else
    match c.commit b patience with
    | (.done (), c, b, patience) => (.done (), { c with state := .closed }, b, patience)
    | rest => rest

/-- Closes the connection even if rolling back the open transaction is refused. -/
def Connection.forceClose (c : Connection) (b : Backend) (patience : Patience) :
    Outcome Unit × Connection × Backend × Patience :=
  match c.awaitDrain b patience with
  | (false, c, b, patience) => (.cancelled, c, b, patience)
  | (true, c, b, patience) =>
    let b := match c.state with
      | .inside transaction session _ =>
        let (_, session, b) := session.rollback b transaction c.config.transactionTimeout
        b.release session
      | _ => b
    (.done (), { c with state := .closed }, b, patience)

/-- Drops the connection. A session that is held is given back, but not before the result stream on
it has ended. -/
def Connection.drop (c : Connection) (b : Backend) : Backend :=
  match c.state, c.pending with
  | .inside _ session _, some stream => b.releaseAfter stream session
  | .inside _ session _, none => b.release session
  | _, _ => b

/-- Drops the connection where nothing can go on in the background: a session that is held is given
back as it is. -/
def Connection.abandon (c : Connection) (b : Backend) : Backend :=
  match c.state with
  | .inside _ session _ => b.release session
  | _ => b

end SqlDriver
