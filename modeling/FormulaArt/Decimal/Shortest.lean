/-!
# Shortest decimals

The decimal with the fewest digits that still identifies a floating-point number, found by exact
arithmetic on naturals.

A positive finite number is `m * 2 ^ q`. The reals that round to it form an interval around it, ends
included exactly when `m` is even. Grids of one, two, three … significant digits are tried in turn;
on each grid only the two neighbours of the number matter, for if any point of the grid lies in the
interval, one of the two neighbours does.

## Main definitions

* `Binary` — a positive finite number as significand and exponent
* `Binary.identifies` — a decimal lies in the rounding interval of a number
* `Binary.shortest` — the shortest decimal, of two equally short ones the nearer
-/

namespace FormulaArt

/-- The number `digits * 10 ^ exponent`. -/
structure Decimal where
  /-- The significant digits, read as a natural number. -/
  digits : Nat
  /-- The power of ten that they are scaled by. -/
  exponent : Int
deriving Repr, DecidableEq

/-- Which of two equally near decimals is taken. -/
inductive Tie where
  /-- The one whose last digit is even. -/
  | toEven
  /-- The one farther from zero. -/
  | awayFromZero
deriving Repr, DecidableEq

namespace Decimal

/-- Move the zeros at the end of the digits into the exponent. -/
def stripZeros (d : Decimal) : Decimal :=
  if h : d.digits ≠ 0 ∧ d.digits % 10 = 0 then
    stripZeros ⟨d.digits / 10, d.exponent + 1⟩
  else
    d
termination_by d.digits
decreasing_by omega

end Decimal

/-- A positive finite floating-point number, `significand * 2 ^ exponent`. -/
structure Binary where
  /-- The significand, an integer below `2 ^ 53`. -/
  significand : Nat
  /-- The power of two that it is scaled by. -/
  exponent : Int
  /-- Whether the number below is half as far away as the number above. -/
  narrowBelow : Bool
deriving Repr, DecidableEq

namespace Binary

/-- The magnitude that the low 63 bits of a finite double encode. -/
def ofBits (bits : UInt64) : Binary :=
  let fraction := (bits &&& 0xFFFFFFFFFFFFF).toNat
  match ((bits >>> 52) &&& 0x7FF).toNat with
  | 0 => ⟨fraction, -1074, false⟩
  | biased => ⟨Nat.pow 2 52 + fraction, (biased : Int) - 1075, fraction == 0 && biased > 1⟩

/-- The order of `a * 10 ^ i` and `b * 2 ^ j`, by cross multiplication. -/
def compareScaled (a : Nat) (i : Int) (b : Nat) (j : Int) : Ordering :=
  compare (a * Nat.pow 10 i.toNat * Nat.pow 2 (-j).toNat) (b * Nat.pow 2 j.toNat * Nat.pow 10 (-i).toNat)

/-- Whether a decimal rounds to the number: it lies between the midpoints to the two neighbours, on
one of them only if the significand is even. -/
def identifies (x : Binary) (d : Decimal) : Bool :=
  let low := if x.narrowBelow then 4 * x.significand - 1 else 4 * x.significand - 2
  let high := 4 * x.significand + 2
  let ends := x.significand % 2 == 0
  let atLow := compareScaled d.digits d.exponent low (x.exponent - 2)
  let atHigh := compareScaled d.digits d.exponent high (x.exponent - 2)
  (atLow == .gt || (ends && atLow == .eq)) && (atHigh == .lt || (ends && atHigh == .eq))

/-- The least power of ten above the number. It is at most two away from what the binary length of
the number suggests. -/
def decimalLength (x : Binary) : Int :=
  let guess := (((x.significand.log2 : Int) + x.exponent) * 30103).fdiv 100000
  let above := [guess - 1, guess, guess + 1].find? fun k =>
    compareScaled 1 k x.significand x.exponent == .gt
  above.getD (guess + 2)

/-- The point of the grid of multiples of `10 ^ step` that identifies the number, if there is one:
one of the two points that the number lies between. -/
def onGrid? (x : Binary) (tie : Tie) (step : Int) : Option Decimal :=
  let numerator := x.significand * Nat.pow 2 x.exponent.toNat * Nat.pow 10 (-step).toNat
  let denominator := Nat.pow 2 (-x.exponent).toNat * Nat.pow 10 step.toNat
  let below := numerator / denominator
  let down : Decimal := ⟨below, step⟩
  let up : Decimal := ⟨below + 1, step⟩
  match x.identifies down, x.identifies up with
  | false, false => none
  | true, false => some down
  | false, true => some up
  | true, true =>
    match compare (2 * numerator) ((2 * below + 1) * denominator), tie with
    | .lt, _ => some down
    | .gt, _ => some up
    | .eq, .awayFromZero => some up
    | .eq, .toEven => some (if below % 2 == 0 then down else up)

/-- The number written out in full. -/
def exact (x : Binary) : Decimal :=
  if 0 ≤ x.exponent then ⟨x.significand * Nat.pow 2 x.exponent.toNat, 0⟩
  else ⟨x.significand * Nat.pow 5 (-x.exponent).toNat, x.exponent⟩

/-- The decimal with the fewest digits that identifies the number. Seventeen digits are enough for
every double; a number that needed more would be written out in full. -/
def shortest (x : Binary) (tie : Tie) : Decimal :=
  let length := x.decimalLength
  let found := (List.range 17).findSome? fun i => x.onGrid? tie (length - (i + 1 : Nat))
  (found.getD x.exact).stripZeros

end Binary

end FormulaArt
