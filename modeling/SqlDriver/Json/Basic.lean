import SqlDriver.Double.Text

/-!
JSON documents. An integer that fits 64 bits, signed or unsigned, is kept as an integer and every
other number as a double, so `1` and `1.0` are different documents. The members of an object are
kept in the order of their names, each name once; `Json.object` entries are built with
`Json.member`.
-/

namespace SqlDriver

/-- A number of a document. -/
inductive Json.Number where
  | integer (value : Int)
  | double (value : Double)
deriving DecidableEq, Repr

/-- A JSON document. -/
inductive Json where
  | null
  | bool (value : Bool)
  | number (value : Json.Number)
  | string (text : String)
  | array (items : List Json)
  | object (members : List (String × Json))
deriving Repr, Inhabited

/-- Adds a member to a list of members in order of their names; a member of that name is
replaced. -/
def Json.member (name : String) (value : Json) : List (String × Json) → List (String × Json)
  | [] => [(name, value)]
  | (other, kept) :: rest =>
    if name < other then (name, value) :: (other, kept) :: rest
    else if name = other then (name, value) :: rest
    else (other, kept) :: Json.member name value rest

/-- The object with the given members, a later one replacing an earlier one of its name. -/
def Json.ofMembers (members : List (String × Json)) : Json :=
  .object (members.foldl (fun sorted (name, value) => Json.member name value sorted) [])

/-- An object with one more member, in place of the one of that name. -/
def Json.set (document : Json) (name : String) (value : Json) : Json :=
  match document with
  | .object members => .object (Json.member name value members)
  | document => document

/-- The member of that name of an object. -/
def Json.get? (document : Json) (name : String) : Option Json :=
  match document with
  | .object members => members.lookup name
  | _ => none

/-- Equality of numbers: an integer never equals a double, and doubles compare as numbers. -/
def Json.Number.same : Json.Number → Json.Number → Bool
  | .integer a, .integer b => a == b
  | .double a, .double b => a.same b
  | _, _ => false

mutual

/-- Equality of documents; the zeros of a double are one number. -/
def Json.same : Json → Json → Bool
  | .null, .null => true
  | .bool a, .bool b => a == b
  | .number a, .number b => a.same b
  | .string a, .string b => a == b
  | .array a, .array b => Json.sameItems a b
  | .object a, .object b => Json.sameMembers a b
  | _, _ => false

def Json.sameItems : List Json → List Json → Bool
  | [], [] => true
  | a :: as, b :: bs => Json.same a b && Json.sameItems as bs
  | _, _ => false

def Json.sameMembers : List (String × Json) → List (String × Json) → Bool
  | [], [] => true
  | (name, a) :: as, (other, b) :: bs =>
    name == other && Json.same a b && Json.sameMembers as bs
  | _, _ => false

end

end SqlDriver
