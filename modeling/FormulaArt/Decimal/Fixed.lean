import FormulaArt.Decimal.Layout

/-!
# Decimals with a fixed number of places

A finite number that is not negative, rounded to so many places after the point. It is rounded once,
on its exact value, so that what counts as a tie is decided by the number itself and not by its
shortest decimal.

## Main definitions

* `Binary.toPlaces` — the nearest decimal with so many places
* `Decimal.Layout.fixed` — a floating-point number as text with so many places
-/

namespace FormulaArt

/-- The nearest decimal with so many places after the point. -/
def Binary.toPlaces (x : Binary) (tie : Tie) (places : Nat) : Decimal :=
  let numerator := x.significand * Nat.pow 2 x.exponent.toNat * Nat.pow 10 places
  let denominator := Nat.pow 2 (-x.exponent).toNat
  let below := numerator / denominator
  let rest := numerator % denominator
  let up := denominator < 2 * rest ∨
    denominator = 2 * rest ∧ (tie = .awayFromZero ∨ below % 2 = 1)
  ⟨if up then below + 1 else below, -places⟩

/-- A finite number that is not negative as text with so many places after the point. -/
def Decimal.Layout.fixed (layout : Layout) (places : Nat) (v : Float) : String :=
  let d := (Binary.ofBits v.toBits).toPlaces layout.tie places
  layout.withPoint (Nat.toDigits 10 d.digits) d.exponent

end FormulaArt
