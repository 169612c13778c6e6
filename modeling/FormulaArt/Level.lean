import FormulaArt.AffineMap

/-!
# Brightness levels

The value of a formula as one of 256 levels: the evaluation range is stretched onto the levels, and
the nearest level is taken, the higher one in the middle between two.

## Main definitions

* `stretched` — a value on the scale of the levels
* `nearest` — the whole number nearest to it
* `level` — that number, held to the levels there are
-/

namespace FormulaArt

namespace Level

variable {α : Type} [Scalar α]

/-- A value on the scale of the levels, on which the evaluation range runs from 0 to 255. -/
@[inline] def stretched (v : α) : α :=
  (v - evalMin) * (Scalar.ofInt 255 / (evalMax - evalMin))

/-- The whole number nearest to a value on the scale of the levels. It lies beyond the levels if the
value lies outside the evaluation range. -/
@[inline] def nearest (v : α) : α :=
  Scalar.floor (stretched v + Scalar.half)

end Level

/-- The level of a value. Values outside the evaluation range take the level at its end; what is not
a number takes level 0. -/
def level {α : Type} [Scalar α] (v : α) : UInt8 :=
  Scalar.toByte (Scalar.clamp (Scalar.ofInt 0) (Scalar.ofInt 255) (Level.nearest v))

end FormulaArt
