import SqlDriver.Calendar.Date

/-!
A time of day on a date, to the nanosecond and without a zone. The sixtieth second of any minute is
a leap second. Fractions are written with the fewest of three, six or nine digits that are exact.
-/

namespace SqlDriver

/-- A date and a time of day. -/
structure Timestamp where
  date : Date
  hour : Nat
  minute : Nat
  second : Nat
  nanosecond : Nat
  hour_lt : hour < 24
  minute_lt : minute < 60
  second_le : second ≤ 60
  nanosecond_lt : nanosecond < 1000000000
deriving DecidableEq, Repr

/-- The time of day on a date, if there is one. -/
def Timestamp.of? (date : Date) (hour minute second nanosecond : Nat) : Option Timestamp :=
  if h : hour < 24 ∧ minute < 60 ∧ second ≤ 60 ∧ nanosecond < 1000000000 then
    some ⟨date, hour, minute, second, nanosecond, h.1, h.2.1, h.2.2.1, h.2.2.2⟩
  else none

/-! ## Writing -/

/-- A fraction of a second, with its point; nothing for a whole second. -/
def fractionText (nanosecond : Nat) : String :=
  if nanosecond = 0 then ""
  else if nanosecond % 1000000 = 0 then "." ++ paddedNumber 3 (nanosecond / 1000000)
  else if nanosecond % 1000 = 0 then "." ++ paddedNumber 6 (nanosecond / 1000)
  else "." ++ paddedNumber 9 nanosecond

/-- Date and time with the given text between them. -/
def Timestamp.textWith (separator : String) (t : Timestamp) : String :=
  t.date.text ++ separator ++ paddedNumber 2 t.hour ++ ":" ++ paddedNumber 2 t.minute ++ ":" ++
    paddedNumber 2 t.second ++ fractionText t.nanosecond

/-- The form that a program reads, with a `T` between date and time. -/
def Timestamp.isoText (t : Timestamp) : String := t.textWith "T"

/-- The form for people, with a space between date and time. -/
def Timestamp.text (t : Timestamp) : String := t.textWith " "

/-! ## Reading -/

/-- A fraction of a second in nanoseconds; digits after the ninth are dropped. -/
def readNanoseconds? (text : List Char) : Option (Nat × List Char) :=
  match text with
  | '.' :: rest =>
    let digits := rest.takeWhile Char.isDigit
    if digits.isEmpty then none
    else
      let kept := digits.take 9
      some (digitsValue kept * Nat.pow 10 (9 - kept.length), rest.drop digits.length)
  | _ => some (0, text)

/-- Reads a text that is one timestamp. -/
def Timestamp.ofText? (text : String) : Option Timestamp := do
  let (date, text) ← Date.read? text.toList
  let text ← readMark? 'T' text
  let (hour, text) ← readPair? text
  let text ← readMark? ':' text
  let (minute, text) ← readPair? text
  let text ← readMark? ':' text
  let (second, text) ← readPair? text
  let (nanosecond, rest) ← readNanoseconds? text
  let time ← Timestamp.of? date hour minute second nanosecond
  if (Text.skipBlanks rest).isEmpty then some time else none

end SqlDriver
