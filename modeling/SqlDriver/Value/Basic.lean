import SqlDriver.Json.Basic
import SqlDriver.Calendar.Timestamp
import SqlDriver.Uuid

/-!
Values of statement parameters and results, and the types they are bound as. Every value but null
has a natural type; null needs one to be given.
-/

namespace SqlDriver

/-- The type of a parameter or a column. -/
inductive ValueType where
  | bool
  | int32
  | int64
  | uint64
  | double
  | text
  | bytes
  | date
  | timestamp
  | uuid
  | json
deriving DecidableEq, Repr

def ValueType.name : ValueType → String
  | .bool => "Bool"
  | .int32 => "Int32"
  | .int64 => "Int64"
  | .uint64 => "Uint64"
  | .double => "Double"
  | .text => "Text"
  | .bytes => "Bytes"
  | .date => "Date"
  | .timestamp => "Timestamp"
  | .uuid => "Uuid"
  | .json => "Json"

def ValueType.all : List ValueType :=
  [.bool, .int32, .int64, .uint64, .double, .text, .bytes, .date, .timestamp, .uuid, .json]

/-- The type of that name. -/
def ValueType.ofName? (name : String) : Option ValueType :=
  ValueType.all.find? fun type => type.name = name

/-- A value of a parameter or of a field of a row. -/
inductive Value where
  | null
  | bool (value : Bool)
  | int32 (value : Int32)
  | int64 (value : Int64)
  | uint64 (value : UInt64)
  | double (value : Double)
  | text (value : String)
  | bytes (data : List UInt8)
  | date (value : Date)
  | timestamp (value : Timestamp)
  | uuid (value : Uuid)
  | json (document : Json)
deriving Repr

/-- The values of one row of a result. -/
abbrev Row := List Value

def Value.isNull : Value → Bool
  | .null => true
  | _ => false

/-- The type that a value is bound as when none is given. -/
def Value.naturalType : Value → Option ValueType
  | .null => none
  | .bool _ => some .bool
  | .int32 _ => some .int32
  | .int64 _ => some .int64
  | .uint64 _ => some .uint64
  | .double _ => some .double
  | .text _ => some .text
  | .bytes _ => some .bytes
  | .date _ => some .date
  | .timestamp _ => some .timestamp
  | .uuid _ => some .uuid
  | .json _ => some .json

/-- Equality of values: values of different kinds differ, and doubles compare as numbers. -/
def Value.same : Value → Value → Bool
  | .null, .null => true
  | .bool a, .bool b => a == b
  | .int32 a, .int32 b => a == b
  | .int64 a, .int64 b => a == b
  | .uint64 a, .uint64 b => a == b
  | .double a, .double b => a.same b
  | .text a, .text b => a == b
  | .bytes a, .bytes b => a == b
  | .date a, .date b => a == b
  | .timestamp a, .timestamp b => a == b
  | .uuid a, .uuid b => a == b
  | .json a, .json b => a.same b
  | _, _ => false

/-! ## Conversions -/

instance : Coe Bool Value := ⟨.bool⟩
instance : Coe Int32 Value := ⟨.int32⟩
instance : Coe Int64 Value := ⟨.int64⟩
instance : Coe UInt64 Value := ⟨.uint64⟩
instance : Coe Double Value := ⟨.double⟩
instance : Coe String Value := ⟨.text⟩
instance : Coe (List UInt8) Value := ⟨.bytes⟩
instance : Coe Uuid Value := ⟨.uuid⟩

/-- A value together with the type it is bound as. -/
structure TypedValue where
  value : Value
  type : ValueType
deriving Repr

/-- The null of a type. -/
def TypedValue.null (type : ValueType) : TypedValue := ⟨.null, type⟩

def TypedValue.isNull (v : TypedValue) : Bool := v.value.isNull

/-- The named values of one execution of a statement, in the order of its parameters. -/
abbrev NamedValues := List (String × TypedValue)

end SqlDriver
