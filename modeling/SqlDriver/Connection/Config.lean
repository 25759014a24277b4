import SqlDriver.Transaction.Settings
import SqlDriver.Query.Descriptor

/-!
The configuration of a connection: deadlines, the settings it starts with, and how its query texts
are read and kept.
-/

namespace SqlDriver

/-- The configuration of a connection. -/
structure Config where
  /-- The deadline of every data or schema statement. -/
  queryTimeout : Duration
  /-- The deadline for getting a session. -/
  sessionTimeout : Duration
  /-- The deadline for beginning, committing and rolling back a transaction. -/
  transactionTimeout : Duration
  settings : TransactionSettings
  /-- The capacity of the descriptor cache. -/
  cacheSize : Nat
  /-- How query texts are read. -/
  readingMode : ReadingMode
deriving DecidableEq, Repr

def Config.default : Config where
  queryTimeout := .ofSeconds 60
  sessionTimeout := .ofSeconds 5
  transactionTimeout := .ofSeconds 10
  settings := .default
  cacheSize := 256
  readingMode := .tolerant

/-! ## JSON form -/

def Config.toJson (config : Config) : Json :=
  .object [
    ("query_cache_size", .ofNat config.cacheSize),
    ("query_timeout", config.queryTimeout.toJson),
    ("session_timeout", config.sessionTimeout.toJson),
    ("strict_parsing", .bool config.readingMode.isStrict),
    ("transaction_timeout", config.transactionTimeout.toJson),
    ("tx_settings", config.settings.toJson)]

/-- A duration from a record of exactly its two fields. -/
def Duration.ofJson? (document : Json) : Option Duration := do
  let members ← document.recordMembers? ["secs", "nanos"]
  let seconds ← (← members.lookup "secs").natBelow? UInt64.size
  let nanoseconds ← (← members.lookup "nanos").natBelow? UInt32.size
  if members.length = 2 then Duration.of? seconds nanoseconds else none

/-- The size of a cache: any number of 64 bits. -/
def Config.cacheSizeOfJson? (document : Json) : Option Nat := document.natBelow? UInt64.size

/-- The mode of reading from a flag that says whether it is strict. -/
def ReadingMode.ofJson? (document : Json) : Option ReadingMode :=
  document.bool?.map ReadingMode.ofStrict

/-- A configuration from a record of any of its fields, in place of those of a base; other fields
are passed over. -/
def Config.updateFromJson? (base : Config) (document : Json) : Option Config := do
  let members ← document.recordMembers?
    ["query_timeout", "session_timeout", "transaction_timeout", "tx_settings", "query_cache_size",
      "strict_parsing"]
  let queryTimeout ←
    Json.fieldOr? members "query_timeout" Duration.ofJson? base.queryTimeout
  let sessionTimeout ←
    Json.fieldOr? members "session_timeout" Duration.ofJson? base.sessionTimeout
  let transactionTimeout ←
    Json.fieldOr? members "transaction_timeout" Duration.ofJson? base.transactionTimeout
  let settings ←
    Json.fieldOr? members "tx_settings" TransactionSettings.ofJson? base.settings
  let cacheSize ←
    Json.fieldOr? members "query_cache_size" Config.cacheSizeOfJson? base.cacheSize
  let readingMode ←
    Json.fieldOr? members "strict_parsing" ReadingMode.ofJson? base.readingMode
  return ⟨queryTimeout, sessionTimeout, transactionTimeout, settings, cacheSize, readingMode⟩

/-- A configuration from a record of any of its fields, the rest being as in the default. -/
def Config.ofJson? (document : Json) : Option Config := Config.default.updateFromJson? document

end SqlDriver
