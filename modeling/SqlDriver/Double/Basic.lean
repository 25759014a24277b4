/-!
Binary64 numbers, kept as their 64 bits: a sign, eleven bits of exponent and fifty-two of fraction.
Everything here is exact arithmetic on natural numbers; `Double.ofRatio` is the one place where a
value is rounded, to the nearest double and from halfway to the even one.
-/

namespace SqlDriver

/-- A binary64 number by its bits. -/
structure Double where
  bits : UInt64
deriving DecidableEq, Repr, Inhabited

/-- The sign bit; it is set for the negative zero too. -/
def Double.negative (x : Double) : Bool :=
  Nat.pow 2 63 ≤ x.bits.toNat

/-- The eleven exponent bits. -/
def Double.exponentField (x : Double) : Nat :=
  x.bits.toNat / Nat.pow 2 52 % Nat.pow 2 11

/-- The fifty-two fraction bits. -/
def Double.fraction (x : Double) : Nat :=
  x.bits.toNat % Nat.pow 2 52

def Double.isNaN (x : Double) : Bool :=
  x.exponentField == 2047 && x.fraction != 0

def Double.isInfinite (x : Double) : Bool :=
  x.exponentField == 2047 && x.fraction == 0

def Double.isZero (x : Double) : Bool :=
  x.exponentField == 0 && x.fraction == 0

/-- The magnitude of a finite double is `mantissa * 2 ^ scale`. -/
def Double.mantissa (x : Double) : Nat :=
  if x.exponentField = 0 then x.fraction else Nat.pow 2 52 + x.fraction

/-- The power of two that the mantissa counts. -/
def Double.scale (x : Double) : Int :=
  max x.exponentField 1 - 1075

/-- Equality of numbers: the two zeros are one number, and a NaN equals nothing. -/
def Double.same (x y : Double) : Bool :=
  !x.isNaN && !y.isNaN && (x.bits == y.bits || x.isZero && y.isZero)

/-- The double of the given sign whose remaining 63 bits count `magnitude`. -/
def Double.ofMagnitude (negative : Bool) (magnitude : Nat) : Double :=
  ⟨UInt64.ofNat (magnitude + if negative then Nat.pow 2 63 else 0)⟩

def Double.zero (negative : Bool) : Double := .ofMagnitude negative 0

def Double.infinity (negative : Bool) : Double := .ofMagnitude negative (2047 * Nat.pow 2 52)

/-- The quiet NaN without payload. -/
def Double.nan (negative : Bool) : Double :=
  .ofMagnitude negative (2047 * Nat.pow 2 52 + Nat.pow 2 51)

/-- The greatest `e` with `2 ^ e ≤ num / den`, for positive `num` and `den`. -/
def floorLog2 (num den : Nat) : Int :=
  let e : Int := num.log2 - den.log2
  if den * Nat.pow 2 e.toNat ≤ num * Nat.pow 2 (-e).toNat then e else e - 1

/-- The natural number nearest to `num / den`, and the even one of two that are equally near. -/
def roundHalfEven (num den : Nat) : Nat :=
  let q := num / den
  let r := num % den
  if den < 2 * r ∨ 2 * r = den ∧ q % 2 = 1 then q + 1 else q

/-- The double nearest to `num / den`; from half an ulp beyond the largest one on, the infinity. -/
def Double.ofRatio (negative : Bool) (num den : Nat) : Double :=
  if num = 0 then .zero negative
  else
    let scale := max (floorLog2 num den - 52) (-1074)
    let mantissa := roundHalfEven (num * Nat.pow 2 (-scale).toNat) (den * Nat.pow 2 scale.toNat)
    .ofMagnitude negative
      (min ((scale + 1074).toNat * Nat.pow 2 52 + mantissa) (2047 * Nat.pow 2 52))

/-- The double nearest to `digits * 10 ^ exponent`. An exponent far outside the range of doubles is
answered without computing the power. -/
def Double.ofDecimal (negative : Bool) (digits : Nat) (exponent : Int) : Double :=
  if digits = 0 then .zero negative
  else if 400 < exponent then .infinity negative
  else if exponent + digits.log2 + 1 < -400 then .zero negative
  else .ofRatio negative (digits * Nat.pow 10 exponent.toNat) (Nat.pow 10 (-exponent).toNat)

end SqlDriver
