import SqlDriver.Json.Reader

/-!
Universally unique identifiers: 128 bits, written as five groups of hexadecimal digits.
-/

namespace SqlDriver

/-- An identifier of 128 bits. -/
structure Uuid where
  value : BitVec 128
deriving DecidableEq, Repr

/-- Thirty-two hexadecimal digits in lower case. -/
def Uuid.digits (id : Uuid) : List Char :=
  (Nat.toDigits 16 id.value.toNat).leftpad 32 '0'

/-- The digits in groups of eight, four, four, four and twelve. -/
def Uuid.text (id : Uuid) : String :=
  let digits := id.digits
  let group (start count : Nat) : String := String.ofList ((digits.drop start).take count)
  "-".intercalate [group 0 8, group 8 4, group 12 4, group 16 4, group 20 12]

/-- The identifier that thirty-two hexadecimal digits of either case write. -/
def Uuid.ofDigits? (digits : List Char) : Option Uuid :=
  if digits.length ≠ 32 then none
  else (digits.mapM hexDigit?).map fun values =>
    ⟨BitVec.ofNat 128 (values.foldl (fun n d => 16 * n + d) 0)⟩

/-- Five groups joined by hyphens. -/
def Uuid.ofGroups? (text : List Char) : Option Uuid :=
  let hyphens := [8, 13, 18, 23]
  if text.length = 36 && hyphens.all (fun i => text[i]? = some '-') then
    Uuid.ofDigits? (text.take 8 ++ (text.drop 9).take 4 ++ (text.drop 14).take 4 ++
      (text.drop 19).take 4 ++ text.drop 24)
  else none

/-- Reads an identifier: its digits alone, its groups, or its groups in braces or after `urn:uuid:`
in either case. -/
def Uuid.ofText? (text : String) : Option Uuid :=
  let chars := text.toList
  if chars.length = 32 then Uuid.ofDigits? chars
  else if chars.length = 36 then Uuid.ofGroups? chars
  else if chars.length = 38 && chars.head? = some '\x7b' && chars.getLast? = some '\x7d' then
    Uuid.ofGroups? (chars.drop 1).dropLast
  else if chars.length = 45 && (chars.take 9).map Char.toLower = "urn:uuid:".toList then
    Uuid.ofGroups? (chars.drop 9)
  else none

end SqlDriver
