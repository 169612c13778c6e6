/-!
# Scalars

The numbers a picture is computed with. Evaluating formulas, placing pixels and choosing brightness
levels are written once over `Scalar`, so that the same definitions run on 64-bit floating point and
can be read over other arithmetics, exact or rounded.

## Main definitions

* `Scalar` — the operations that pictures need, with no law attached
* the instance for `Float`, which the program runs on

## Design notes

Comparisons answer a `Bool` instead of being relations: floating point has values that compare with
nothing, and a rule such as "keep a value unless it lies below the bound" must say what happens to
them.
-/

namespace FormulaArt

/-- The numbers a picture is computed with. No law is assumed of any operation. -/
class Scalar (α : Type) extends Add α, Sub α, Mul α, Div α where
  /-- The number nearest to an integer. -/
  ofInt : Int → α
  pi : α
  sin : α → α
  cos : α → α
  tanh : α → α
  /-- The greatest integer that is not above a number. -/
  floor : α → α
  eq : α → α → Bool
  lt : α → α → Bool
  le : α → α → Bool
  /-- The integer part, held to 0 and 255 at the ends; 0 for what is not a number. -/
  toByte : α → UInt8

namespace Scalar

variable {α : Type} [Scalar α]

/-- A number held to the interval from `low` to `high`. A value that compares with neither bound
stays as it is. -/
@[inline] def clamp (low high v : α) : α :=
  let raised := if lt v low then low else v
  if lt high raised then high else raised

/-- One half. -/
@[inline] def half : α :=
  ofInt 1 / ofInt 2

/-- Half the sum of two numbers. -/
@[inline] def average (a b : α) : α :=
  (a + b) / ofInt 2

end Scalar

/-- Double precision floating point. -/
instance : Scalar Float where
  ofInt := Float.ofInt
  pi := 3.141592653589793
  sin := Float.sin
  cos := Float.cos
  tanh := Float.tanh
  floor := Float.floor
  eq := Float.beq
  lt := Float.lt
  le := Float.le
  toByte := Float.toUInt8

end FormulaArt
