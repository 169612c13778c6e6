import FormulaArt.Scalar
import Mathlib

/-!
# Whole numbers as doubles

A whole number of at most 53 bits is a double without rounding: its bits are shifted up until they
fill the mantissa.  This module follows that through the packing and unpacking of `Float.Model`, and
concludes that a positive whole number of that size does not compare as equal to zero.  Beyond whole
numbers it says which number a double stands for, and when one positive double is not above another.

## Main definitions

* `Double.value?` — the number that a double stands for

## Main statements

* `Double.roundWithAccuracy_shiftLeft` — rounding gives up only zeros
* `Double.unpack_pack` — packing keeps a normal number
* `Double.unpack_mul_power` — the product with a power of two is exact
* `Double.unpack_ofInt` — the mantissa and the exponent of a whole number
* `Double.eq_zero_ofInt` — a positive whole number is not zero

## Design notes

Sizes are given by `Nat.log2`, in which the rounding of the model is written: a mantissa is normal
when its logarithm is 52.
-/

namespace FormulaArt

namespace Double

open Float.Model Float.Model.UnpackedFloat

/-! ### Shifts -/

theorem log2_shiftLeft {n : Nat} (nonzero : n ≠ 0) (k : Nat) :
    (n <<< k).log2 = n.log2 + k := by
  induction k with
  | zero => rfl
  | succ k ih =>
      have shifted : n <<< k ≠ 0 := by
        rw [Nat.shiftLeft_eq]
        exact Nat.mul_ne_zero nonzero (Nat.ne_of_gt (Nat.two_pow_pos k))
      rw [Nat.shiftLeft_succ, Nat.log2_two_mul shifted, ih]
      rfl

/-- Shifting zeros out of a mantissa leaves nothing behind in the residual bits. -/
theorem repeat_shiftRightOne (m k : Nat) :
    Nat.repeat ExtendedMantissa.shiftRightOne k ⟨m <<< k, false, false⟩ = ⟨m, false, false⟩ := by
  have step : ∀ j, ExtendedMantissa.shiftRightOne ⟨m <<< (j + 1), false, false⟩
      = ⟨m <<< j, false, false⟩ := by
    intro j
    have half : m <<< (j + 1) / 2 = m <<< j := by
      rw [Nat.shiftLeft_succ, Nat.mul_div_cancel_left _ (by decide)]
    have even : m <<< (j + 1) % 2 = 0 := by
      rw [Nat.shiftLeft_succ, Nat.mul_mod_right]
    rw [ExtendedMantissa.shiftRightOne, half, even]
    rfl
  have steps : ∀ i j, Nat.repeat ExtendedMantissa.shiftRightOne i ⟨m <<< (j + i), false, false⟩
      = ⟨m <<< j, false, false⟩ := by
    intro i
    induction i with
    | zero => intro j; rfl
    | succ i ih =>
        intro j
        have regroup : j + (i + 1) = j + 1 + i := by omega
        rw [Nat.repeat, regroup, ih (j + 1), step]
  simpa using steps k 0

theorem shiftToTargetExponent_shiftLeft {m : Nat} (normal : m.log2 = 52) {e : Int}
    (low : -1074 ≤ e) (k : Nat) :
    shiftToTargetExponent .binary64 (m <<< k) (e - k) .exact = (⟨m, false, false⟩, e) := by
  have nonzero : m ≠ 0 := by
    rintro rfl
    simp at normal
  have target : Format.binary64.targetExponent (totalExponent (m <<< k) (e - k)) = e := by
    simp only [Format.targetExponent, totalExponent, log2_shiftLeft nonzero, normal,
      Format.mantissaBits, Format.minExponent]
    omega
  have amount : (e - (e - (k : Int))).toNat = k := by omega
  have exponent : e - (k : Int) + (k : Int) = e := by omega
  rw [shiftToTargetExponent, target, shiftToExponent, amount, exponent]
  exact congrArg (·, e) (repeat_shiftRightOne m k)

/-- Rounding a normal mantissa with zeros behind it gives up the zeros and nothing else. -/
theorem roundWithAccuracy_shiftLeft (sign : Sign) {m : Nat} (normal : m.log2 = 52) {e : Int}
    (low : -1074 ≤ e) (k : Nat) (positive : 0 < m) :
    roundWithAccuracy .binary64 sign (m <<< k) (e - k) .exact = .finite sign m e positive := by
  have again : shiftToTargetExponent .binary64 m e .exact = (⟨m, false, false⟩, e) := by
    simpa using shiftToTargetExponent_shiftLeft normal low 0
  have rounded : ExtendedMantissa.roundedMantissa ⟨m, false, false⟩ = m := rfl
  simp only [roundWithAccuracy, shiftToTargetExponent_shiftLeft normal low k, rounded, again,
    dif_neg (Nat.ne_of_gt positive)]

/-! ### Packing -/

/-- A normal number of the range of doubles survives being packed. -/
theorem unpack_pack (sign : Sign) {m : Nat} (normal : m.log2 = 52) {e : Int} (low : -1074 ≤ e)
    (high : e ≤ 971) (positive : 0 < m) :
    (Float.Model.pack (.finite sign m e positive)).unpack = .finite sign m e positive := by
  obtain ⟨least, most⟩ := (Nat.log2_eq_iff (Nat.ne_of_gt positive)).mp normal
  have biased : (e + Format.binary64.exponentBias
      + Format.binary64.mantissaBitsWithoutImplicit).toNat = (e + 1075).toNat := by
    show (e + (1023 : Nat) + (52 : Nat)).toNat = (e + 1075).toNat
    omega
  have exponent : (BitVec.ofNat 11 (e + 1075).toNat).toNat = (e + 1075).toNat := by
    rw [BitVec.toNat_ofNat]
    exact Nat.mod_eq_of_lt (by omega)
  have notLast : BitVec.ofNat 11 (e + 1075).toNat ≠ -1#11 := by
    intro h
    have := congrArg BitVec.toNat h
    rw [exponent] at this
    change _ = 2047 at this
    omega
  have notFirst : BitVec.ofNat 11 (e + 1075).toNat ≠ 0#11 := by
    intro h
    have := congrArg BitVec.toNat h
    rw [exponent] at this
    change _ = 0 at this
    omega
  have mantissa : (1#1 ++ BitVec.ofNat 52 m).toNat = m := by
    rw [BitVec.toNat_append, ← Nat.shiftLeft_add_eq_or_of_lt (BitVec.isLt _), BitVec.toNat_ofNat]
    show 2 ^ 52 + m % 2 ^ 52 = m
    omega
  have inRange : ¬ 2 ^ Format.binary64.exponentBits ≤ (e + 1075).toNat + 1 := by
    show ¬ 2048 ≤ (e + 1075).toNat + 1
    omega
  show UnpackedFloat.unpack .binary64 (UnpackedFloat.pack .binary64 _) = _
  rw [UnpackedFloat.pack]
  simp only [biased, normal]
  rw [if_neg inRange, if_pos (by decide), UnpackedFloat.unpack]
  simp only [unpackMantissa_packComponents, unpackExponent_packComponents,
    unpackSign_packComponents, Sign.ofBitVec_toBitVec, if_neg notLast, if_neg notFirst, exponent,
    mantissa]
  congr 1
  show ((e + 1075).toNat : Int) - ((1023 : Nat) + (52 : Nat)) = e
  omega

/-! ### Whole numbers -/

/-- The bits of a whole number, moved up to fill a mantissa. -/
theorem log2_filled {n : Nat} (positive : 0 < n) (small : n.log2 ≤ 52) :
    (n <<< (52 - n.log2)).log2 = 52 := by
  rw [log2_shiftLeft (Nat.ne_of_gt positive)]
  omega

theorem round_exact {n : Nat} (positive : 0 < n) (small : n.log2 ≤ 52) :
    UnpackedFloat.round .binary64 .positive n 0
      = .finite .positive (n <<< (52 - n.log2)) (n.log2 - 52)
          (Nat.shiftLeft_pos_iff.mpr positive) := by
  have target : Format.binary64.targetExponent (totalExponent n 0) = (n.log2 : Int) - 52 := by
    simp only [Format.targetExponent, totalExponent, Format.mantissaBits, Format.minExponent]
    omega
  have amount : ((0 : Int) - ((n.log2 : Int) - 52)).toNat = 52 - n.log2 := by omega
  have exponent : (0 : Int) - ((52 - n.log2 : Nat) : Int) = (n.log2 : Int) - 52 := by omega
  simp only [UnpackedFloat.round, target, decreaseExponent, amount, exponent]
  simpa using roundWithAccuracy_shiftLeft .positive (log2_filled positive small)
    (e := (n.log2 : Int) - 52) (by omega) 0 (Nat.shiftLeft_pos_iff.mpr positive)

theorem unpack_ofNat {n : Nat} (positive : 0 < n) (small : n.log2 ≤ 52) :
    (Float.Model.ofNat n).unpack
      = .finite .positive (n <<< (52 - n.log2)) (n.log2 - 52)
          (Nat.shiftLeft_pos_iff.mpr positive) := by
  have sign : compare (n : Int) 0 = .gt := Int.compare_eq_gt.mpr (by omega)
  simp only [Float.Model.ofNat, UnpackedFloat.ofNat, UnpackedFloat.ofInt, UnpackedFloat.normalize,
    sign, Int.toNat_natCast, round_exact positive small]
  exact unpack_pack .positive (log2_filled positive small) (by omega) (by omega) _

/-- A power of two as a factor moves the exponent and leaves the mantissa as it is. -/
theorem unpack_mul_power {x y : Float} {m : Nat} (normal : m.log2 = 52) {e f : Int}
    (positive : 0 < m) (hx : x.toModel.unpack = .finite .positive m e positive)
    (hy : y.toModel.unpack = .finite .positive (1 <<< 52) f (by decide))
    (low : -1126 ≤ e + f) (high : e + f ≤ 919) :
    (x * y).toModel.unpack = .finite .positive m (e + f + 52) positive := by
  have mantissa : m * 1 <<< 52 = m <<< 52 := by
    rw [Nat.one_shiftLeft]
    exact (Nat.shiftLeft_eq _ 52).symm
  have exponent : e + f + 52 - (52 : Nat) = e + f := by omega
  have rounded := roundWithAccuracy_shiftLeft (.positive * .positive) normal (e := e + f + 52)
    (by omega) 52 positive
  rw [exponent] at rounded
  show (Float.Model.pack (UnpackedFloat.mul .binary64 x.toModel.unpack y.toModel.unpack)).unpack = _
  rw [hx, hy, UnpackedFloat.mul, mantissa, rounded]
  exact unpack_pack _ normal (by omega) (by omega) positive

/-- The double of a positive whole number of at most 53 bits: its bits fill the mantissa, and the
exponent says how far they were moved. -/
theorem unpack_ofInt {n : Nat} (positive : 0 < n) (small : n.log2 ≤ 52) :
    (Float.ofInt n).toModel.unpack
      = .finite .positive (n <<< (52 - n.log2)) (n.log2 - 52)
          (Nat.shiftLeft_pos_iff.mpr positive) := by
  have bound : n < 2 ^ 53 := (Nat.log2_lt (Nat.ne_of_gt positive)).mp (by omega)
  have word : n.toUInt64.toNat = n := by
    show n % 2 ^ 64 = n
    exact Nat.mod_eq_of_lt (by omega)
  -- a literal is the product of its digits with a power of ten, here with one
  have product : Float.ofInt n = n.toUInt64.toFloat * Float.ofBits 0x3FF0000000000000 := by
    show Float.ofScientific n false 0 = _
    rw [Float.ofScientific, dif_pos ⟨bound, by decide⟩]
    rfl
  have one : (Float.ofBits 0x3FF0000000000000).toModel.unpack
      = .finite .positive (1 <<< 52) (-52) (by decide) := by rfl
  have digits : n.toUInt64.toFloat.toModel.unpack
      = .finite .positive (n <<< (52 - n.log2)) (n.log2 - 52)
          (Nat.shiftLeft_pos_iff.mpr positive) := by
    show (Float.Model.ofNat n.toUInt64.toNat).unpack = _
    rw [word]
    exact unpack_ofNat positive small
  rw [product, unpack_mul_power (log2_filled positive small) _ digits one (by omega) (by omega)]
  congr 1
  omega

/-- A positive whole number of at most 53 bits does not compare as equal to zero. -/
theorem eq_zero_ofInt {n : Nat} (positive : 0 < n) (small : n.log2 ≤ 52) :
    Scalar.eq (Scalar.ofInt n : Float) (Scalar.ofInt 0) = false := by
  show UnpackedFloat.beq (Float.ofInt n).toModel.unpack (Float.ofInt 0).toModel.unpack = false
  rw [unpack_ofInt positive small]
  rfl

/-! ### Values -/

/-- The number that a double stands for, if it stands for one. -/
def value? (x : Float) : Option ℚ :=
  match x.toModel.unpack with
  | .finite sign m e _ => some (sign.apply m * 2 ^ e)
  | .zero _ => some 0
  | .infinity _ | .notANumber => none

/-- Positive numbers are compared by their exponents, and then by their mantissas. -/
theorem le_finite_iff {m m' : Nat} {e e' : Int} (positive : 0 < m) (positive' : 0 < m') :
    UnpackedFloat.le (.finite .positive m e positive) (.finite .positive m' e' positive') = true ↔
      e < e' ∨ e = e' ∧ m ≤ m' := by
  show ((compare e e').then (compare m m')).isLE = true ↔ _
  rw [Ordering.isLE_then_iff_or, Int.compare_eq_lt, Int.compare_eq_eq, Nat.isLE_compare]

end Double

end FormulaArt
