import SqlDriver.Value.Basic
import SqlDriver.Json.Printer

/-!
Two texts of a value: a plain one for people, and a description that names its kind. Neither shows
the contents of a byte string.
-/

namespace SqlDriver

def byteCountText (data : List UInt8) : String :=
  toString data.length ++ " bytes"

/-- The plain text of a value. -/
def Value.render : Value → String
  | .null => "NULL"
  | .bool value => toString value
  | .int32 value => toString value.toInt
  | .int64 value => toString value.toInt
  | .uint64 value => toString value.toNat
  | .double value => Double.Layout.plain.text value
  | .text value => value
  | .bytes data => "<" ++ byteCountText data ++ ">"
  | .date value => value.text
  | .timestamp value => value.text
  | .uuid value => value.text
  | .json document => document.text

/-- A value with its kind named before it. -/
def Value.description : Value → String
  | .null => "Null"
  | .bool value => "Bool(" ++ toString value ++ ")"
  | .int32 value => "I32(" ++ toString value.toInt ++ ")"
  | .int64 value => "I64(" ++ toString value.toInt ++ ")"
  | .uint64 value => "U64(" ++ toString value.toNat ++ ")"
  | .double value => "F64(" ++ Double.Layout.described.text value ++ ")"
  | .text value => "Str(" ++ Text.quoted value ++ ")"
  | .bytes data => "Bytes(" ++ byteCountText data ++ ")"
  | .date value => "Date(" ++ value.text ++ ")"
  | .timestamp value => "Timestamp(" ++ value.isoText ++ ")"
  | .uuid value => "Uuid(" ++ value.text ++ ")"
  | .json document => "Json(" ++ document.description ++ ")"

/-- The plain text of a value, and its type. -/
def TypedValue.render (v : TypedValue) : String :=
  v.value.render ++ ": " ++ v.type.name

def TypedValue.description (v : TypedValue) : String :=
  "TypedValue \x7b value: " ++ v.value.description ++ ", value_type: " ++ v.type.name ++ " \x7d"

end SqlDriver
