import FormulaArt.Decimal.Fixed
import Mathlib

/-!
# Rounding to a fixed number of places

A number written with so many places after the point is rounded to the nearest multiple of a power of
ten.  The multiple is found by a division of naturals, whose remainder says on which side of the midpoint
the number lies.  This module shows that no other multiple is nearer, and which one is taken if two are
equally near.

## Main definitions

* `Binary.value`, `Decimal.value` — the numbers that are written

## Main statements

* `Binary.scaled_eq_div` — a number in units of its last place, as a fraction of naturals
* `Binary.abs_scaled_sub_toPlaces_le` — the units are off by at most a half
* `Binary.toPlaces_nearest` — no other decimal with so many places is nearer

## Design notes

Everything is compared in units of the last place, where the decimals are the naturals.  The power of ten
cancels from a comparison of distances, and is put back in the main statement only.
-/

namespace FormulaArt

/-- The number that a decimal stands for. -/
def Decimal.value (d : Decimal) : ℚ :=
  d.digits * 10 ^ d.exponent

namespace Binary

/-- The number that a significand and an exponent stand for. -/
def value (x : Binary) : ℚ :=
  x.significand * 2 ^ x.exponent

/-! ### Units of the last place -/

/-- The units of a number, as the fraction that is rounded. -/
theorem scaled_eq_div (x : Binary) (places : ℕ) :
    x.value * 10 ^ places
      = ((x.significand * 2 ^ x.exponent.toNat * 10 ^ places : ℕ) : ℚ)
          / ((2 ^ (-x.exponent).toNat : ℕ) : ℚ) := by
  have power : (2 : ℚ) ^ x.exponent = 2 ^ x.exponent.toNat / 2 ^ (-x.exponent).toNat := by
    rw [← zpow_natCast, ← zpow_natCast, ← zpow_sub₀ two_ne_zero, Int.toNat_sub_toNat_neg]
  rw [value, power]
  push_cast
  ring

section Fractions

variable {a d r : ℕ}

/-- A fraction of naturals exceeds its whole part by what the remainder leaves. -/
theorem div_sub_div_eq (positive : 0 < d) : (a : ℚ) / d - (a / d : ℕ) = (a % d : ℕ) / d := by
  have nonzero : (d : ℚ) ≠ 0 := Nat.cast_ne_zero.mpr positive.ne'
  have parts : (d : ℚ) * (a / d : ℕ) + (a % d : ℕ) = a := by
    exact_mod_cast Nat.div_add_mod a d
  rw [eq_div_iff nonzero, sub_mul, div_mul_cancel₀ _ nonzero, ← parts]
  ring

theorem div_le_half_iff (positive : 0 < d) : (r : ℚ) / d ≤ 1 / 2 ↔ 2 * r ≤ d := by
  rw [div_le_div_iff₀ (Nat.cast_pos.mpr positive) two_pos, one_mul, mul_comm]
  exact_mod_cast Iff.rfl

theorem half_le_div_iff (positive : 0 < d) : 1 / 2 ≤ (r : ℚ) / d ↔ d ≤ 2 * r := by
  rw [div_le_div_iff₀ two_pos (Nat.cast_pos.mpr positive), one_mul, mul_comm]
  exact_mod_cast Iff.rfl

end Fractions

variable (x : Binary) (tie : Tie) (places : ℕ)

/-- The units that are taken: those below the number, or one more if the rest is more than a half, or is a
half and the tie goes up. -/
theorem exists_digits_toPlaces_eq :
    ∃ a d : ℕ, 0 < d ∧ x.value * 10 ^ places = a / d ∧
      (x.toPlaces tie places).digits
        = if d < 2 * (a % d) ∨ d = 2 * (a % d) ∧ (tie = .awayFromZero ∨ a / d % 2 = 1)
          then a / d + 1 else a / d :=
  ⟨_, _, Nat.two_pow_pos _, x.scaled_eq_div places, rfl⟩

/-- The units of a number are off by at most a half.  If they are off by a half, they are even, or above the
number if ties go away from zero. -/
theorem abs_scaled_sub_toPlaces_le :
    |x.value * 10 ^ places - (x.toPlaces tie places).digits| ≤ 1 / 2 ∧
      (|x.value * 10 ^ places - (x.toPlaces tie places).digits| = 1 / 2 →
        (tie = .toEven → (x.toPlaces tie places).digits % 2 = 0) ∧
        (tie = .awayFromZero → x.value * 10 ^ places < (x.toPlaces tie places).digits)) := by
  obtain ⟨a, d, positive, scaled, digits⟩ := x.exists_digits_toPlaces_eq tie places
  rw [scaled, digits]
  have rest := div_sub_div_eq (a := a) positive
  split
  · rename_i up
    have half : 1 / 2 ≤ ((a % d : ℕ) : ℚ) / d := (half_le_div_iff positive).mpr (by omega)
    have below : ((a % d : ℕ) : ℚ) / d < 1 := by
      rw [div_lt_one (Nat.cast_pos.mpr positive)]
      exact_mod_cast Nat.mod_lt a positive
    have off : |(a : ℚ) / d - ((a / d + 1 : ℕ) : ℚ)| = 1 - ((a % d : ℕ) : ℚ) / d := by
      push_cast
      rw [← rest, abs_of_nonpos (by linarith)]
      ring
    rw [off]
    refine ⟨by linarith, fun tied => ⟨?_, fun _ => ?_⟩⟩
    · rintro rfl
      have equal : 2 * (a % d) ≤ d := (div_le_half_iff positive).mp (by linarith)
      -- the tie has come from an odd number of units below
      rcases up with more | ⟨-, away | odd⟩
      · omega
      · cases away
      · omega
    · push_cast
      linarith
  · rename_i down
    have half : 2 * (a % d) ≤ d := by omega
    have off : |(a : ℚ) / d - ((a / d : ℕ) : ℚ)| = ((a % d : ℕ) : ℚ) / d := by
      rw [rest, abs_of_nonneg (by positivity)]
    rw [off]
    refine ⟨(div_le_half_iff positive).mpr half, fun tied => ?_⟩
    have equal : d = 2 * (a % d) := le_antisymm ((half_le_div_iff positive).mp tied.ge) half
    refine ⟨fun _ => ?_, fun away => absurd (.inr ⟨equal, .inl away⟩) down⟩
    by_contra odd
    exact down (.inr ⟨equal, .inr (by omega)⟩)

/-! ### Nearest decimals -/

/-- Among the naturals, one that is off by at most a half is the nearest, and one that is equally near is off by
a half, too. -/
theorem nearest_of_le_half {v : ℚ} {m : ℕ} (near : |v - m| ≤ 1 / 2) {n : ℕ} (other : n ≠ m) :
    |v - m| ≤ |v - n| ∧ (|v - m| = |v - n| → |v - m| = 1 / 2) := by
  have apart : (1 : ℚ) ≤ |(n : ℚ) - m| := by
    exact_mod_cast Int.one_le_abs (show (n : ℤ) - m ≠ 0 by omega)
  have sum : |(n : ℚ) - m| ≤ |v - n| + |v - m| := by
    rw [abs_sub_comm v n]
    exact abs_sub_le _ _ _
  exact ⟨by linarith, fun equal => by linarith⟩

/-- **The nearest decimal.**  A number is written with so many places as the decimal that is nearest to its exact
value.  If another one is equally near, the one whose last digit is even is taken, or the one above the number if
ties go away from zero. -/
theorem toPlaces_nearest (n : ℕ) :
    |x.value - (x.toPlaces tie places).value| ≤ |x.value - (⟨n, -places⟩ : Decimal).value| ∧
      (|x.value - (x.toPlaces tie places).value| = |x.value - (⟨n, -places⟩ : Decimal).value| →
        n ≠ (x.toPlaces tie places).digits →
          (tie = .toEven → (x.toPlaces tie places).digits % 2 = 0) ∧
          (tie = .awayFromZero → x.value < (x.toPlaces tie places).value)) := by
  have power : (0 : ℚ) < 10 ^ places := by positivity
  -- in units of the last place
  have scale (m : ℕ) : |x.value - (⟨m, -places⟩ : Decimal).value| * 10 ^ places
      = |x.value * 10 ^ places - m| := by
    rw [Decimal.value, zpow_neg, zpow_natCast, ← abs_of_pos power, ← abs_mul, abs_of_pos power, sub_mul,
      mul_assoc, inv_mul_cancel₀ power.ne', mul_one]
  obtain ⟨near, tied⟩ := x.abs_scaled_sub_toPlaces_le tie places
  have shape : x.toPlaces tie places = ⟨(x.toPlaces tie places).digits, -places⟩ := rfl
  generalize (x.toPlaces tie places).digits = m at *
  rw [shape]
  by_cases other : n = m
  · subst other
    exact ⟨le_rfl, fun _ different => absurd rfl different⟩
  obtain ⟨least, equal⟩ := nearest_of_le_half near other
  rw [← scale m, ← scale n] at least
  refine ⟨le_of_mul_le_mul_right least power, fun same _ => ?_⟩
  obtain ⟨even, above⟩ := tied (equal (by rw [← scale m, ← scale n, same]))
  refine ⟨even, fun away => ?_⟩
  have above := above away
  rw [← lt_div_iff₀ power] at above
  rwa [Decimal.value, zpow_neg, zpow_natCast, ← div_eq_mul_inv]

end Binary

end FormulaArt
