import SqlDriver.Double.Shortest

/-!
Doubles as text. A `Double.Layout` fixes what a printer may choose: where positional writing ends,
whether a whole number keeps a fraction, which of two equally near decimals is written, and whether
a plus stands before an exponent. Reading accepts a sign, digits with an optional point and
exponent, and the names of the infinities and of NaN.
-/

namespace SqlDriver

/-- The choices of a printer of doubles. -/
structure Double.Layout where
  /-- The least and the greatest count of digits before the point that are written positionally;
  every number is when absent. -/
  positional : Option (Int × Int)
  /-- Whether a whole number is written with a zero after the point. -/
  keepsFraction : Bool
  /-- Which of two equally near shortest decimals is written. -/
  tie : Double.Tie
  /-- Whether a plus stands before an exponent that is not negative. -/
  signsExponent : Bool

/-- Plain text never has an exponent and drops an empty fraction. -/
def Double.Layout.plain : Double.Layout := ⟨none, false, .greater, false⟩

/-- Described text is positional from 0.0001 to below ten to the sixteenth. -/
def Double.Layout.described : Double.Layout := ⟨some (-3, 16), true, .greater, false⟩

/-- A number of a JSON document is positional from 0.00001 to below ten to the sixteenth, and its
exponent always has a sign. -/
def Double.Layout.json : Double.Layout := ⟨some (-4, 16), true, .even, true⟩

/-- A decimal with the point set after `point` of its digits. -/
def Double.Layout.positionalText (layout : Double.Layout) (digits : List Char) (point : Int) :
    List Char :=
  if point ≤ 0 then ['0', '.'] ++ List.replicate (-point).toNat '0' ++ digits
  else if digits.length ≤ point.toNat then
    digits ++ List.replicate (point.toNat - digits.length) '0' ++
      if layout.keepsFraction then ['.', '0'] else []
  else digits.take point.toNat ++ '.' :: digits.drop point.toNat

/-- A decimal with one digit before the point and a power of ten. -/
def Double.Layout.scientificText (layout : Double.Layout) (digits : List Char) (point : Int) :
    List Char :=
  let fraction := if digits.tail.isEmpty then [] else '.' :: digits.tail
  let sign := if layout.signsExponent && 0 < point then ['+'] else []
  digits.take 1 ++ fraction ++ 'e' :: sign ++ (toString (point - 1)).toList

/-- The magnitude of a finite double. -/
def Double.Layout.magnitudeText (layout : Double.Layout) (x : Double) : List Char :=
  if x.isZero then if layout.keepsFraction then ['0', '.', '0'] else ['0']
  else
    let d := x.shortest layout.tie
    let digits := Nat.toDigits 10 d.digits
    let point := d.exponent + digits.length
    let isPositional := match layout.positional with
      | none => true
      | some (low, high) => low ≤ point && point ≤ high
    if isPositional then layout.positionalText digits point
    else layout.scientificText digits point

/-- A double in the given layout. A NaN shows no sign. -/
def Double.Layout.text (layout : Double.Layout) (x : Double) : String :=
  if x.isNaN then "NaN"
  else
    let magnitude := if x.isInfinite then ['i', 'n', 'f'] else layout.magnitudeText x
    String.ofList (if x.negative then '-' :: magnitude else magnitude)

/-- The number that a list of decimal digits writes. -/
def digitsValue (digits : List Char) : Nat :=
  digits.foldl (fun n c => 10 * n + (c.toNat - '0'.toNat)) 0

/-- A decimal exponent after its mark: an optional sign and at least one digit. -/
def readExponent? (text : List Char) : Option Int :=
  let (negative, digits) := match text with
    | '-' :: rest => (true, rest)
    | '+' :: rest => (false, rest)
    | _ => (false, text)
  if digits.isEmpty || !digits.all Char.isDigit then none
  else some (if negative then -(digitsValue digits : Int) else digitsValue digits)

/-- An unsigned number: digits on at least one side of an optional point, then an optional
exponent. -/
def readMagnitude? (negative : Bool) (text : List Char) : Option Double :=
  let whole := text.takeWhile Char.isDigit
  let rest := text.dropWhile Char.isDigit
  let (fraction, rest) := match rest with
    | '.' :: rest => (rest.takeWhile Char.isDigit, rest.dropWhile Char.isDigit)
    | _ => ([], rest)
  let value (exponent : Int) : Double :=
    .ofDecimal negative (digitsValue (whole ++ fraction)) (exponent - fraction.length)
  if whole.isEmpty && fraction.isEmpty then none
  else match rest with
    | [] => some (value 0)
    | mark :: exponent =>
      if mark = 'e' || mark = 'E' then (readExponent? exponent).map value else none

/-- Reads a double; the names of the special values may be in either case. -/
def Double.ofText? (text : String) : Option Double :=
  let (negative, rest) := match text.toList with
    | '-' :: rest => (true, rest)
    | '+' :: rest => (false, rest)
    | chars => (false, chars)
  let name := String.ofList (rest.map Char.toLower)
  if name = "inf" || name = "infinity" then some (.infinity negative)
  else if name = "nan" then some (.nan negative)
  else readMagnitude? negative rest

end SqlDriver
