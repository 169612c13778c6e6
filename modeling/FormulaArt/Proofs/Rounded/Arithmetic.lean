import FormulaArt.AffineMap
import Mathlib

/-!
# Rounded arithmetic

Floating point read as rational arithmetic.  An operation finds its exact result and then rounds it, and
nothing is fixed about the rounding: it is part of an `Arithmetic`, as are the functions for which there
is no exact result to round.  Exact arithmetic is the case in which the rounding keeps everything.

## Main definitions

* `Arithmetic` — a rounding, and the functions that are not arithmetic
* `Rounded` — the numbers of an arithmetic, an instance of `Scalar`
* `Arithmetic.IsExact`, `Arithmetic.KeepsHalves`, `Arithmetic.KeepsIntegers`, `Arithmetic.IsPrecise`,
  `Arithmetic.HasUnitFunctions` — what may be asked of an arithmetic

## Main statements

* `Arithmetic.round_mem_Icc` — a monotone rounding does not leave an interval whose bounds it keeps

## Design notes

The four operations round.  Whole numbers, the floor, comparisons and the step to a byte are exact, as
they are in floating point for the numbers that pictures are made of.
-/

namespace FormulaArt

/-- A rational arithmetic with rounding. -/
structure Arithmetic where
  /-- What is made of the exact result of an operation. -/
  round : ℚ → ℚ
  /-- The number that stands for half a turn. -/
  pi : ℚ
  sin : ℚ → ℚ
  cos : ℚ → ℚ
  tanh : ℚ → ℚ

/-- A number of an arithmetic. -/
@[ext] structure Rounded (A : Arithmetic) where
  /-- The number itself. -/
  value : ℚ

namespace Rounded

variable {A : Arithmetic}

instance : Scalar (Rounded A) where
  add a b := ⟨A.round (a.value + b.value)⟩
  sub a b := ⟨A.round (a.value - b.value)⟩
  mul a b := ⟨A.round (a.value * b.value)⟩
  div a b := ⟨A.round (a.value / b.value)⟩
  ofInt n := ⟨n⟩
  pi := ⟨A.pi⟩
  sin a := ⟨A.sin a.value⟩
  cos a := ⟨A.cos a.value⟩
  tanh a := ⟨A.tanh a.value⟩
  floor a := ⟨⌊a.value⌋⟩
  eq a b := decide (a.value = b.value)
  lt a b := decide (a.value < b.value)
  le a b := decide (a.value ≤ b.value)
  toByte a := UInt8.ofNat (min ⌊a.value⌋₊ 255)

@[simp] theorem value_add (a b : Rounded A) : (a + b).value = A.round (a.value + b.value) := rfl

@[simp] theorem value_sub (a b : Rounded A) : (a - b).value = A.round (a.value - b.value) := rfl

@[simp] theorem value_mul (a b : Rounded A) : (a * b).value = A.round (a.value * b.value) := rfl

@[simp] theorem value_div (a b : Rounded A) : (a / b).value = A.round (a.value / b.value) := rfl

@[simp] theorem value_ofInt (n : ℤ) : (Scalar.ofInt n : Rounded A).value = n := rfl

@[simp] theorem value_floor (a : Rounded A) : (Scalar.floor a).value = ⌊a.value⌋ := rfl

@[simp] theorem value_evalMin : (evalMin : Rounded A).value = -1 := by
  simp [evalMin]

@[simp] theorem value_evalMax : (evalMax : Rounded A).value = 1 := by
  simp [evalMax]

theorem eq_iff (a b : Rounded A) : Scalar.eq a b = true ↔ a.value = b.value :=
  decide_eq_true_iff

theorem lt_iff (a b : Rounded A) : Scalar.lt a b = true ↔ a.value < b.value :=
  decide_eq_true_iff

/-- An extent that is not zero compares as different from zero. -/
theorem eq_extent_zero {extent : UInt32} (nonempty : extent ≠ 0) :
    Scalar.eq (Scalar.ofInt extent.toNat : Rounded A) (Scalar.ofInt 0) = false := by
  rw [Bool.eq_false_iff, Ne, eq_iff, value_ofInt, value_ofInt]
  intro zero
  exact nonempty (UInt32.toNat_inj.mp (by exact_mod_cast zero))

/-- A number held to an interval is raised to the lower bound and then lowered to the upper one. -/
theorem value_clamp (low high v : Rounded A) :
    (Scalar.clamp low high v).value = min (max v.value low.value) high.value := by
  have raised : (if Scalar.lt v low then low else v).value = max v.value low.value := by
    by_cases below : v.value < low.value
    · rw [if_pos ((lt_iff _ _).mpr below), max_eq_right below.le]
    · rw [if_neg (mt (lt_iff _ _).mp below), max_eq_left (not_lt.mp below)]
  rw [← raised, Scalar.clamp]
  by_cases above : high.value < (if Scalar.lt v low then low else v).value
  · rw [if_pos ((lt_iff _ _).mpr above), min_eq_right above.le]
  · rw [if_neg (mt (lt_iff _ _).mp above), min_eq_left (not_lt.mp above)]

/-- A number between the bounds is not changed by holding it to them. -/
theorem clamp_of_mem {low high v : Rounded A} (h : v.value ∈ Set.Icc low.value high.value) :
    Scalar.clamp low high v = v :=
  Rounded.ext (by rw [value_clamp, max_eq_left h.1, min_eq_left h.2])

/-- The byte of a whole number up to 255 is that number. -/
theorem toNat_toByte {a : Rounded A} {k : ℕ} (small : k ≤ 255) (h : a.value = k) :
    (Scalar.toByte a).toNat = k := by
  show (UInt8.ofNat (min ⌊a.value⌋₊ 255)).toNat = k
  rw [h, Nat.floor_natCast, min_eq_left small]
  exact UInt8.toNat_ofNat_of_lt' (Nat.lt_succ_of_le small)

end Rounded

namespace Arithmetic

variable {A : Arithmetic}

/-! ### What may be asked of an arithmetic -/

/-- The rounding keeps every number. -/
def IsExact (A : Arithmetic) : Prop :=
  ∀ x, A.round x = x

/-- The rounding keeps the multiples of one half up to 256. -/
def KeepsHalves (A : Arithmetic) : Prop :=
  ∀ n : ℤ, |n| ≤ 512 → A.round (n / 2) = n / 2

/-- The rounding keeps the whole numbers up to `2 ^ 32`. -/
def KeepsIntegers (A : Arithmetic) : Prop :=
  ∀ n : ℤ, |n| ≤ 2 ^ 32 → A.round n = n

/-- A rounded number differs from the exact one by at most `2 ^ -53` of it. -/
def IsPrecise (A : Arithmetic) : Prop :=
  ∀ x, |A.round x - x| ≤ |x| / 2 ^ 53

/-- The sine, the cosine and the hyperbolic tangent lie between -1 and 1. -/
structure HasUnitFunctions (A : Arithmetic) : Prop where
  sin_mem : ∀ x, A.sin x ∈ Set.Icc (-1) 1
  cos_mem : ∀ x, A.cos x ∈ Set.Icc (-1) 1
  tanh_mem : ∀ x, A.tanh x ∈ Set.Icc (-1) 1

theorem IsExact.monotone (exact : A.IsExact) : Monotone A.round := by
  intro x y h
  rwa [exact, exact]

theorem IsExact.keepsHalves (exact : A.IsExact) : A.KeepsHalves :=
  fun _ _ => exact _

/-! ### Intervals -/

/-- A number that is known as a multiple of one half is kept. -/
theorem KeepsHalves.round_eq (keeps : A.KeepsHalves) (n : ℤ) {x : ℚ} (half : x = n / 2)
    (small : |n| ≤ 512) : A.round x = x := by
  rw [half]
  exact keeps n small

theorem KeepsHalves.round_zero (keeps : A.KeepsHalves) : A.round 0 = 0 :=
  keeps.round_eq 0 (by norm_num) (by norm_num)

theorem KeepsHalves.round_two (keeps : A.KeepsHalves) : A.round 2 = 2 :=
  keeps.round_eq 4 (by norm_num) (by norm_num)

/-- A monotone rounding does not leave an interval whose bounds it keeps. -/
theorem round_mem_Icc (monotone : Monotone A.round) {a b x : ℚ} (ha : A.round a = a)
    (hb : A.round b = b) (h : x ∈ Set.Icc a b) : A.round x ∈ Set.Icc a b := by
  have mem := monotone.mapsTo_Icc h
  rwa [ha, hb] at mem

/-- A precise rounding changes a number that is not negative by a factor close to one. -/
theorem IsPrecise.round_mem_Icc (precise : A.IsPrecise) {x : ℚ} (nonneg : 0 ≤ x) :
    A.round x ∈ Set.Icc (x * (1 - 1 / 2 ^ 53)) (x * (1 + 1 / 2 ^ 53)) := by
  have error := precise x
  rw [abs_of_nonneg nonneg, abs_le] at error
  constructor
  · linarith [error.1]
  · linarith [error.2]

end Arithmetic

end FormulaArt
