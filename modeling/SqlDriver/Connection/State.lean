import SqlDriver.Transaction.Settings
import SqlDriver.Backend.Basic

/-!
The states of a connection. The state with an open transaction is also the one that holds a session,
so a session is held exactly while a transaction is open.
-/

namespace SqlDriver

/-- The state of a connection. -/
inductive Connection.State where
  /-- No transaction is open; every statement gets a session of its own. -/
  | outside (settings : TransactionSettings)
  /-- A transaction is open on a session that is held for it. -/
  | inside (transaction : TransactionId) (session : Session) (settings : TransactionSettings)
  | closed
deriving DecidableEq, Repr

def Connection.State.settings? : Connection.State → Option TransactionSettings
  | .outside settings => some settings
  | .inside _ _ settings => some settings
  | .closed => none

def Connection.State.transaction? : Connection.State → Option TransactionId
  | .inside transaction _ _ => some transaction
  | _ => none

/-- The session that is held. -/
def Connection.State.session? : Connection.State → Option Session
  | .inside _ session _ => some session
  | _ => none

def Connection.State.isInside (s : Connection.State) : Bool := s.transaction?.isSome

def Connection.State.isClosed : Connection.State → Bool
  | .closed => true
  | _ => false

def Connection.State.description (labels : Labels) : Connection.State → String
  | .outside settings => "OutsideTransaction \x7b settings: " ++ settings.description ++ " \x7d"
  | .inside transaction session settings =>
    "InsideTransaction \x7b tx_id: " ++ transaction.description labels ++ ", session: " ++
      Text.quoted session.name ++ ", settings: " ++ settings.description ++ " \x7d"
  | .closed => "Closed"

end SqlDriver
