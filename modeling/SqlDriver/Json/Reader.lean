import SqlDriver.Json.Basic

/-!
Reading JSON text. Every reader takes the characters that are left and answers with what it read
and the characters after it. Arrays and objects nest, so the readers of documents carry a bound on
the depth of the reading; `Json.read?` sets it to the length of the text, which is enough because
every level of nesting costs a character.

A number without point and exponent that fits 64 bits is an integer. Any other number is the double
nearest to it, and one that rounds to an infinity is refused.
-/

namespace SqlDriver

/-- The blanks that may stand between the parts of a document. -/
def Json.isBlank (c : Char) : Bool :=
  c = ' ' || c = '\n' || c = '\t' || c = '\r'

def Json.skipBlanks (text : List Char) : List Char :=
  text.dropWhile Json.isBlank

/-! ## Strings -/

/-- The value of a hexadecimal digit of either case. -/
def hexDigit? (c : Char) : Option Nat :=
  if '0' ≤ c && c ≤ '9' then some (c.toNat - '0'.toNat)
  else if 'a' ≤ c && c ≤ 'f' then some (c.toNat - 'a'.toNat + 10)
  else if 'A' ≤ c && c ≤ 'F' then some (c.toNat - 'A'.toNat + 10)
  else none

/-- The code unit that four hexadecimal digits write. -/
def Json.codeUnit? (a b c d : Char) : Option Nat := do
  let a ← hexDigit? a
  let b ← hexDigit? b
  let c ← hexDigit? c
  let d ← hexDigit? d
  return ((a * 16 + b) * 16 + c) * 16 + d

/-- The character that a one-letter escape stands for. -/
def Json.shortEscape? (c : Char) : Option Char :=
  if c = '"' || c = '\\' || c = '/' then some c
  else if c = 'b' then some '\x08'
  else if c = 'f' then some '\x0c'
  else if c = 'n' then some '\n'
  else if c = 'r' then some '\r'
  else if c = 't' then some '\t'
  else none

def Json.isSurrogate (unit : Nat) : Bool :=
  0xd800 ≤ unit && unit < 0xe000

/-- The character of two surrogate code units. -/
def Json.surrogatePair? (high low : Nat) : Option Char :=
  if 0xd800 ≤ high && high < 0xdc00 && 0xdc00 ≤ low && low < 0xe000 then
    some (Char.ofNat (0x10000 + (high - 0xd800) * 0x400 + (low - 0xdc00)))
  else none

/-- The characters of a string whose opening quote has been read, up to its closing quote. -/
def Json.readChars : List Char → Option (List Char × List Char)
  | '"' :: rest => some ([], rest)
  | '\\' :: 'u' :: a :: b :: c :: d :: rest => do
    let unit ← Json.codeUnit? a b c d
    if Json.isSurrogate unit then
      match rest with
      | '\\' :: 'u' :: a :: b :: c :: d :: rest =>
        let low ← Json.codeUnit? a b c d
        let char ← Json.surrogatePair? unit low
        let (chars, rest) ← Json.readChars rest
        return (char :: chars, rest)
      | _ => none
    else
      let (chars, rest) ← Json.readChars rest
      return (Char.ofNat unit :: chars, rest)
  | '\\' :: c :: rest => do
    let char ← Json.shortEscape? c
    let (chars, rest) ← Json.readChars rest
    return (char :: chars, rest)
  | c :: rest =>
    if c.toNat < 0x20 then none
    else (Json.readChars rest).map fun (chars, rest) => (c :: chars, rest)
  | [] => none

/-- A string whose opening quote has been read. -/
def Json.readString (text : List Char) : Option (String × List Char) :=
  (Json.readChars text).map fun (chars, rest) => (String.ofList chars, rest)

/-! ## Numbers -/

/-- An integer that fits 64 bits, signed or unsigned; a negative zero is none. -/
def Json.fittingInteger? (negative : Bool) (magnitude : Nat) : Option Int :=
  if negative then
    if 0 < magnitude && magnitude ≤ Nat.pow 2 63 then some (-magnitude) else none
  else if magnitude < UInt64.size then some magnitude
  else none

/-- The digits after a point, of which there is at least one, and the characters left. -/
def Json.readFraction : List Char → Option (List Char × List Char)
  | '.' :: rest =>
    let digits := rest.takeWhile Char.isDigit
    if digits.isEmpty then none else some (digits, rest.dropWhile Char.isDigit)
  | text => some ([], text)

/-- The power of ten after an exponent mark, when there is one. -/
def Json.readPower (text : List Char) : Option (Option Int × List Char) :=
  match text with
  | [] => some (none, [])
  | mark :: rest =>
    if mark = 'e' || mark = 'E' then
      let (negative, rest) := match rest with
        | '-' :: rest => (true, rest)
        | '+' :: rest => (false, rest)
        | _ => (false, rest)
      let digits := rest.takeWhile Char.isDigit
      let power : Int := digitsValue digits
      if digits.isEmpty then none
      else some (some (if negative then -power else power), rest.dropWhile Char.isDigit)
    else some (none, text)

/-- The number with the given digits before and after the point; absent when it is beyond the
largest double. -/
def Json.number? (negative : Bool) (whole fraction : List Char) (power : Option Int) :
    Option Json.Number :=
  let digits := digitsValue (whole ++ fraction)
  let integer := if fraction.isEmpty && power.isNone then Json.fittingInteger? negative digits
    else none
  match integer with
  | some value => some (.integer value)
  | none =>
    let value := Double.ofDecimal negative digits (power.getD 0 - fraction.length)
    if value.isInfinite then none else some (.double value)

/-- A number: no zero stands before another whole digit. -/
def Json.readNumber (text : List Char) : Option (Json.Number × List Char) := do
  let (negative, text) := match text with
    | '-' :: rest => (true, rest)
    | _ => (false, text)
  let whole := text.takeWhile Char.isDigit
  if whole.isEmpty || whole.head? = some '0' && 1 < whole.length then none
  else
    let (fraction, rest) ← Json.readFraction (text.dropWhile Char.isDigit)
    let (power, rest) ← Json.readPower rest
    let number ← Json.number? negative whole fraction power
    return (number, rest)

/-! ## Documents -/

/-- Reads what is left of a fixed word such as `null`. -/
def Json.readWord (word : String) (document : Json) (text : List Char) :
    Option (Json × List Char) :=
  if word.toList.isPrefixOf text then some (document, text.drop word.length) else none

mutual

/-- One document, after blanks. -/
def Json.readDocument : Nat → List Char → Option (Json × List Char)
  | 0, _ => none
  | depth + 1, text =>
    match Json.skipBlanks text with
    | '"' :: rest => (Json.readString rest).map fun (text, rest) => (Json.string text, rest)
    | '[' :: rest =>
      match Json.skipBlanks rest with
      | ']' :: rest => some (.array [], rest)
      | rest => (Json.readItems depth rest).map fun (items, rest) => (Json.array items, rest)
    | '\x7b' :: rest =>
      match Json.skipBlanks rest with
      | '\x7d' :: rest => some (.object [], rest)
      | rest => (Json.readMembers depth rest).map fun (members, rest) =>
        (Json.ofMembers members, rest)
    | 'n' :: rest => Json.readWord "ull" .null rest
    | 't' :: rest => Json.readWord "rue" (.bool true) rest
    | 'f' :: rest => Json.readWord "alse" (.bool false) rest
    | rest => (Json.readNumber rest).map fun (value, rest) => (Json.number value, rest)

/-- The items of an array up to its closing bracket; there is at least one. -/
def Json.readItems : Nat → List Char → Option (List Json × List Char)
  | 0, _ => none
  | depth + 1, text => do
    let (item, rest) ← Json.readDocument depth text
    match Json.skipBlanks rest with
    | ',' :: rest =>
      let (items, rest) ← Json.readItems depth rest
      return (item :: items, rest)
    | ']' :: rest => return ([item], rest)
    | _ => none

/-- The members of an object up to its closing brace; there is at least one. -/
def Json.readMembers : Nat → List Char → Option (List (String × Json) × List Char)
  | 0, _ => none
  | depth + 1, text =>
    match Json.skipBlanks text with
    | '"' :: rest => do
      let (name, rest) ← Json.readString rest
      match Json.skipBlanks rest with
      | ':' :: rest =>
        let (value, rest) ← Json.readDocument depth rest
        match Json.skipBlanks rest with
        | ',' :: rest =>
          let (members, rest) ← Json.readMembers depth rest
          return ((name, value) :: members, rest)
        | '\x7d' :: rest => return ([(name, value)], rest)
        | _ => none
      | _ => none
    | _ => none

end

/-- Reads a text that is one document and nothing else but blanks. -/
def Json.read? (text : String) : Option Json := do
  let (document, rest) ← Json.readDocument (text.length + 1) text.toList
  if (Json.skipBlanks rest).isEmpty then some document else none

end SqlDriver
