import SqlDriver.Double.Basic

/-!
The shortest decimal that reads back as a given double. The numbers that round to a double form an
interval around it; for one digit, two digits, and so on up to seventeen, the double's two
neighbours on that decimal grid are tried, and the first grid with a neighbour inside the interval
gives the answer. Which of two equally near neighbours that is lies with the caller.
-/

namespace SqlDriver

/-- The decimal `digits * 10 ^ exponent`. -/
structure Decimal where
  digits : Nat
  exponent : Int
deriving DecidableEq, Repr

/-- The same decimal without zeros at its end. -/
def Decimal.trim (d : Decimal) : Decimal :=
  if _h : d.digits ≠ 0 ∧ d.digits % 10 = 0 then Decimal.trim ⟨d.digits / 10, d.exponent + 1⟩ else d
termination_by d.digits
decreasing_by omega

/-- Which of two equally near neighbours is taken. -/
inductive Double.Tie where
  | greater
  | even
deriving DecidableEq, Repr

/-- The numbers `low .. high` that round to `value`, as multiples of one unit `num / den`. The ends
belong to it when `closed`. -/
structure RoundingInterval where
  low : Nat
  value : Nat
  high : Nat
  num : Nat
  den : Nat
  closed : Bool

/-- The interval of a finite double that is not zero, in quarters of its last place. Below a power
of two the neighbour is only half as far. -/
def Double.roundingInterval (x : Double) : RoundingInterval :=
  let value := 4 * x.mantissa
  { low := if x.fraction = 0 ∧ 1 < x.exponentField then value - 1 else value - 2
    value := value
    high := value + 2
    num := Nat.pow 2 (x.scale - 2).toNat
    den := Nat.pow 2 (2 - x.scale).toNat
    closed := x.mantissa % 2 == 0 }

/-- The number of digits before the decimal point; zero or negative for a number below one tenth.
The whole part of the binary logarithm, scaled to base ten and cut, is that of the decimal logarithm
or one below it. -/
def RoundingInterval.point (i : RoundingInterval) : Int :=
  let num := i.value * i.num
  let e := floorLog2 num i.den * 30103 / 100000 + 1
  if Nat.pow 10 e.toNat * i.den ≤ num * Nat.pow 10 (-e).toNat then e + 1 else e

/-- The neighbour of the value on the grid of multiples of `10 ^ exponent` that lies in the
interval, and the nearer of two. -/
def RoundingInterval.onGrid? (i : RoundingInterval) (tie : Double.Tie) (exponent : Int) :
    Option Decimal :=
  let step := Nat.pow 10 exponent.toNat * i.den
  let scaled (n : Nat) : Nat := n * i.num * Nat.pow 10 (-exponent).toNat
  let below := scaled i.value / step
  let inside (n : Nat) : Bool :=
    if i.closed then scaled i.low ≤ n * step && n * step ≤ scaled i.high
    else scaled i.low < n * step && n * step < scaled i.high
  let fromBelow := scaled i.value - below * step
  let toAbove := (below + 1) * step - scaled i.value
  let takesBelow :=
    fromBelow < toAbove || (fromBelow = toAbove && tie = .even && below % 2 = 0)
  if inside below && (takesBelow || !inside (below + 1)) then some ⟨below, exponent⟩
  else if inside (below + 1) then some ⟨below + 1, exponent⟩
  else none

/-- The shortest decimal that reads back as the double, for one that is finite and not zero. -/
def Double.shortest (x : Double) (tie : Double.Tie) : Decimal :=
  let interval := x.roundingInterval
  let grid (count : Nat) := interval.onGrid? tie (interval.point - (count + 1 : Nat))
  (((List.range 17).findSome? grid).getD ⟨0, 0⟩).trim

end SqlDriver
