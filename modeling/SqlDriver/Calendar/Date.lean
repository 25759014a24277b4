import SqlDriver.Text.Blank
import SqlDriver.Double.Text

/-!
Days of the proleptic Gregorian calendar, with a year zero. A date is written as year, month and
day; a year outside 0 to 9999 carries its sign.
-/

namespace SqlDriver

def isLeapYear (year : Int) : Bool :=
  year % 4 = 0 && (year % 100 ≠ 0 || year % 400 = 0)

/-- The number of days of a month from 1 to 12. -/
def monthLength (year : Int) (month : Nat) : Nat :=
  if month = 2 then if isLeapYear year then 29 else 28
  else if month = 4 || month = 6 || month = 9 || month = 11 then 30
  else 31

/-- A day of the calendar. -/
structure Date where
  year : Int
  month : Nat
  day : Nat
  year_bounds : -262143 ≤ year ∧ year ≤ 262142
  month_bounds : 1 ≤ month ∧ month ≤ 12
  day_bounds : 1 ≤ day ∧ day ≤ monthLength year month
deriving DecidableEq, Repr

/-- The day of that year, month and day of the month, if there is one. -/
def Date.of? (year : Int) (month day : Nat) : Option Date :=
  if y : -262143 ≤ year ∧ year ≤ 262142 then
    if m : 1 ≤ month ∧ month ≤ 12 then
      if d : 1 ≤ day ∧ day ≤ monthLength year month then some ⟨year, month, day, y, m, d⟩
      else none
    else none
  else none

/-! ## Writing -/

/-- A number with zeros in front up to the given width. -/
def paddedNumber (width n : Nat) : String :=
  String.ofList ((Nat.toDigits 10 n).leftpad width '0')

/-- A year: four digits, with a sign when four digits cannot hold it. -/
def yearText (year : Int) : String :=
  if 0 ≤ year ∧ year ≤ 9999 then paddedNumber 4 year.natAbs
  else (if year < 0 then "-" else "+") ++ paddedNumber 4 year.natAbs

def Date.text (date : Date) : String :=
  yearText date.year ++ "-" ++ paddedNumber 2 date.month ++ "-" ++ paddedNumber 2 date.day

/-! ## Reading -/

/-- At least one and at most `width` digits. -/
def readDigits? (width : Nat) (text : List Char) : Option (Nat × List Char) :=
  let digits := (text.take width).takeWhile Char.isDigit
  if digits.isEmpty then none else some (digitsValue digits, text.drop digits.length)

/-- One or two digits, after white space. -/
def readPair? (text : List Char) : Option (Nat × List Char) :=
  readDigits? 2 (Text.skipBlanks text)

/-- A year, after white space: up to four digits, or a sign and any number of them. -/
def readYear? (text : List Char) : Option (Int × List Char) :=
  match Text.skipBlanks text with
  | '-' :: rest => (readDigits? rest.length rest).map fun (n, rest) => (-(n : Int), rest)
  | '+' :: rest => (readDigits? rest.length rest).map fun (n, rest) => ((n : Int), rest)
  | rest => (readDigits? 4 rest).map fun (n, rest) => ((n : Int), rest)

/-- A mark such as a hyphen, after white space. -/
def readMark? (mark : Char) (text : List Char) : Option (List Char) :=
  match Text.skipBlanks text with
  | c :: rest => if c = mark then some rest else none
  | [] => none

/-- A date at the front of a text, and the characters after it. -/
def Date.read? (text : List Char) : Option (Date × List Char) := do
  let (year, text) ← readYear? text
  let text ← readMark? '-' text
  let (month, text) ← readPair? text
  let text ← readMark? '-' text
  let (day, text) ← readPair? text
  let date ← Date.of? year month day
  return (date, text)

/-- Reads a text that is one date. -/
def Date.ofText? (text : String) : Option Date := do
  let (date, rest) ← Date.read? text.toList
  if (Text.skipBlanks rest).isEmpty then some date else none

end SqlDriver
