import SqlDriver.Value.Basic
import SqlDriver.Duration

/-!
The JSON form of a value: the name `Null`, or an object whose one member is named for the kind and
holds the contents. A double is held as text, so that every double has a form. Reading takes a
value only from its exact form; in particular an integer must be in the range of its kind.
-/

namespace SqlDriver

/-! ## Parts -/

def Json.ofNat (n : Nat) : Json := .number (.integer n)

def Json.ofInt (n : Int) : Json := .number (.integer n)

/-- The integer that a document is. -/
def Json.integer? : Json → Option Int
  | .number (.integer value) => some value
  | _ => none

/-- The integer that a document is, if it lies between the bounds. -/
def Json.between? (low high : Int) (document : Json) : Option Int := do
  let n ← document.integer?
  if low ≤ n ∧ n ≤ high then some n else none

/-- The natural number below `bound` that a document is. -/
def Json.natBelow? (bound : Nat) (document : Json) : Option Nat :=
  (document.between? 0 (bound - 1)).map Int.toNat

def Json.string? : Json → Option String
  | .string text => some text
  | _ => none

def Json.bool? : Json → Option Bool
  | .bool value => some value
  | _ => none

def Json.array? : Json → Option (List Json)
  | .array items => some items
  | _ => none

/-- The name that a document gives and nothing more: a string, or an object whose one member has
that name and is null. -/
def Json.name? : Json → Option String
  | .string name => some name
  | .object [(name, .null)] => some name
  | _ => none

/-- A field of a record: the default when it is missing, and otherwise what `read` makes of it. -/
def Json.fieldOr? {α : Type} (members : List (String × Json)) (name : String)
    (read : Json → Option α) (default : α) : Option α :=
  match members.lookup name with
  | none => some default
  | some value => read value

/-- The members of a record. Its fields may also be listed in order without their names. -/
def Json.recordMembers? (names : List String) : Json → Option (List (String × Json))
  | .object members => some members
  | .array items => if items.length ≤ names.length then some (names.zip items) else none
  | _ => none

/-! ## Values -/

/-- The JSON form of a value. -/
def Value.toJson : Value → Json
  | .null => .string "Null"
  | .bool value => .object [("Bool", .bool value)]
  | .int32 value => .object [("I32", .ofInt value.toInt)]
  | .int64 value => .object [("I64", .ofInt value.toInt)]
  | .uint64 value => .object [("U64", .ofNat value.toNat)]
  | .double value => .object [("F64", .string (Double.Layout.described.text value))]
  | .text value => .object [("Str", .string value)]
  | .bytes data => .object [("Bytes", .array (data.map fun byte => .ofNat byte.toNat))]
  | .date value => .object [("Date", .string value.text)]
  | .timestamp value => .object [("Timestamp", .string value.isoText)]
  | .uuid value => .object [("Uuid", .string value.text)]
  | .json document => .object [("Json", document)]

/-- The value of the kind of that name with those contents. -/
def Value.ofMember? (kind : String) (contents : Json) : Option Value :=
  match kind with
  | "Null" => match contents with
    | .null => some .null
    | _ => none
  | "Bool" => contents.bool?.map .bool
  | "I32" => (contents.between? Int32.minValue.toInt Int32.maxValue.toInt).map fun n =>
      .int32 (Int32.ofInt n)
  | "I64" => (contents.between? Int64.minValue.toInt Int64.maxValue.toInt).map fun n =>
      .int64 (Int64.ofInt n)
  | "U64" => (contents.natBelow? UInt64.size).map fun n => .uint64 (UInt64.ofNat n)
  | "F64" => (contents.string?.bind Double.ofText?).map .double
  | "Str" => contents.string?.map .text
  | "Bytes" => do
    let bytes ← (← contents.array?).mapM (Json.natBelow? 256)
    return .bytes (bytes.map UInt8.ofNat)
  | "Date" => (contents.string?.bind Date.ofText?).map .date
  | "Timestamp" => (contents.string?.bind Timestamp.ofText?).map .timestamp
  | "Uuid" => (contents.string?.bind Uuid.ofText?).map .uuid
  | "Json" => some (.json contents)
  | _ => none

/-- The value of a JSON form. -/
def Value.ofJson? : Json → Option Value
  | .string name => if name = "Null" then some .null else none
  | .object [(kind, contents)] => Value.ofMember? kind contents
  | _ => none

def ValueType.toJson (type : ValueType) : Json := .string type.name

/-- The type of a JSON form, which is its name. -/
def ValueType.ofJson? (document : Json) : Option ValueType :=
  document.name?.bind ValueType.ofName?

/-- The JSON form of named values: for each its name, value and type. -/
def NamedValues.toJson (values : NamedValues) : Json :=
  .array (values.map fun (name, v) => .array [.string name, v.value.toJson, v.type.toJson])

def NamedValues.ofJson? (document : Json) : Option NamedValues := do
  (← document.array?).mapM fun entry =>
    match entry with
    | .array [name, value, type] => do
      return (← name.string?, ⟨← Value.ofJson? value, ← ValueType.ofJson? type⟩)
    | _ => none

/-! ## Durations -/

def Duration.toJson (d : Duration) : Json :=
  .object [("nanos", .ofNat d.nanoseconds), ("secs", .ofNat d.seconds.toNat)]

end SqlDriver
