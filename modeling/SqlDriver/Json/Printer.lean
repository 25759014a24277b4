import SqlDriver.Json.Basic
import SqlDriver.Text.Quoted

/-!
Two texts of a document: its compact JSON, and a description that names the kind of every part.
-/

namespace SqlDriver

def Json.Number.text : Json.Number → String
  | .integer value => toString value
  | .double value => Double.Layout.json.text value

/-- A hexadecimal digit pair in lower case. -/
def hexPair (n : Nat) : List Char :=
  [Nat.digitChar (n / 16 % 16), Nat.digitChar (n % 16)]

/-- The written form of one character inside a JSON string: only the quote, the backslash and the
controls below the space are escaped. -/
def Json.stringChar (c : Char) : List Char :=
  if c = '"' then ['\\', '"']
  else if c = '\\' then ['\\', '\\']
  else if c = '\x08' then ['\\', 'b']
  else if c = '\x0c' then ['\\', 'f']
  else if c = '\n' then ['\\', 'n']
  else if c = '\r' then ['\\', 'r']
  else if c = '\t' then ['\\', 't']
  else if c.toNat < 0x20 then ['\\', 'u', '0', '0'] ++ hexPair c.toNat
  else [c]

/-- A JSON string. -/
def Json.stringText (text : String) : String :=
  String.ofList ('"' :: text.toList.flatMap Json.stringChar ++ ['"'])

mutual

/-- The compact JSON text of a document. -/
def Json.text : Json → String
  | .null => "null"
  | .bool value => toString value
  | .number value => value.text
  | .string text => Json.stringText text
  | .array items => "[" ++ ",".intercalate (Json.itemTexts items) ++ "]"
  | .object members => "\x7b" ++ ",".intercalate (Json.memberTexts members) ++ "\x7d"

def Json.itemTexts : List Json → List String
  | [] => []
  | item :: rest => Json.text item :: Json.itemTexts rest

def Json.memberTexts : List (String × Json) → List String
  | [] => []
  | (name, value) :: rest =>
    (Json.stringText name ++ ":" ++ Json.text value) :: Json.memberTexts rest

end

mutual

/-- A document with the kind of each part named before it. -/
def Json.description : Json → String
  | .null => "Null"
  | .bool value => "Bool(" ++ toString value ++ ")"
  | .number value => "Number(" ++ value.text ++ ")"
  | .string text => "String(" ++ Text.quoted text ++ ")"
  | .array items => "Array [" ++ ", ".intercalate (Json.itemDescriptions items) ++ "]"
  | .object members =>
    "Object \x7b" ++ ", ".intercalate (Json.memberDescriptions members) ++ "\x7d"

def Json.itemDescriptions : List Json → List String
  | [] => []
  | item :: rest => Json.description item :: Json.itemDescriptions rest

def Json.memberDescriptions : List (String × Json) → List String
  | [] => []
  | (name, value) :: rest =>
    (Text.quoted name ++ ": " ++ Json.description value) :: Json.memberDescriptions rest

end

end SqlDriver
