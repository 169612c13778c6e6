import FormulaArt.Proofs.Grid
import FormulaArt.Proofs.Rounded.Nearest

/-!
# Pixels keep their order under rounding

The coordinate of a pixel is found in four steps: the width of the domain is divided by the extent, the
result multiplied by the index, the lower bound added, and all three of these are rounded.  On an axis of
nearly `2 ^ 32` pixels neighbours are only `2 ^ -31` apart.  That is still far more than what the roundings
can do, so that coordinates increase with the index, start at the lower bound and never reach the upper one.

## Main definitions

* `Arithmetic.pixelStep`, `Arithmetic.pixelDistance`, `Arithmetic.pixelPlace` — what is found after each of
  the three roundings

## Main statements

* `pixelCoordinate_rounded` — the coordinate of an index
* `Arithmetic.pixelDistance_add_le` — neighbours are apart before the lower bound is added
* `Arithmetic.pixelPlace_lt`, `Arithmetic.pixelPlace_lt_one` — and so are their places
* `pixelCoordinate_strictMono` — the order of the coordinates, and the places of a grid

## Design notes

The rounding is not asked to be monotone.  Precision alone keeps the indices apart, and the lower bound is
kept because it is a whole number.
-/

namespace FormulaArt

variable {A : Arithmetic}

namespace Arithmetic

/-! ### The three roundings -/

/-- The distance of neighbouring pixels on an axis of `n` pixels. -/
def pixelStep (A : Arithmetic) (n : ℕ) : ℚ :=
  A.round (2 / n)

/-- The distance of a pixel from the lower bound. -/
def pixelDistance (A : Arithmetic) (n i : ℕ) : ℚ :=
  A.round (A.pixelStep n * i)

/-- The place of a pixel. -/
def pixelPlace (A : Arithmetic) (n i : ℕ) : ℚ :=
  A.round (A.pixelDistance n i - 1)

/-- A number between -1 and 1 is rounded by at most `2 ^ -53`. -/
theorem IsPrecise.abs_round_sub_le (precise : A.IsPrecise) {x : ℚ} (h : |x| ≤ 1) :
    |A.round x - x| ≤ 1 / 2 ^ 53 :=
  (precise x).trans (div_le_div_of_nonneg_right h (by norm_num))

section Axis

variable (precise : A.IsPrecise) {n : ℕ} (small : n < 2 ^ 32)

include precise

theorem pixelStep_mem_Icc (n : ℕ) :
    A.pixelStep n ∈ Set.Icc ((2 / n : ℚ) * (1 - 1 / 2 ^ 53)) ((2 / n : ℚ) * (1 + 1 / 2 ^ 53)) :=
  precise.round_mem_Icc (by positivity)

theorem pixelStep_nonneg (n : ℕ) : 0 ≤ A.pixelStep n :=
  le_trans (mul_nonneg (by positivity) (by norm_num)) (pixelStep_mem_Icc precise n).1

theorem pixelDistance_mem_Icc (n i : ℕ) :
    A.pixelDistance n i
      ∈ Set.Icc (A.pixelStep n * i * (1 - 1 / 2 ^ 53)) (A.pixelStep n * i * (1 + 1 / 2 ^ 53)) :=
  precise.round_mem_Icc (mul_nonneg (pixelStep_nonneg precise n) i.cast_nonneg)

theorem pixelDistance_nonneg (n i : ℕ) : 0 ≤ A.pixelDistance n i := by
  refine le_trans ?_ (pixelDistance_mem_Icc precise n i).1
  exact mul_nonneg (mul_nonneg (pixelStep_nonneg precise n) i.cast_nonneg) (by norm_num)

include small

/-- Even on the longest axis the step is not much less than `2 ^ -31`. -/
theorem le_pixelStep (positive : 0 < n) : 1 / 2 ^ 31 * (1 - 1 / 2 ^ 53) ≤ A.pixelStep n := by
  have bound : (n : ℚ) ≤ 2 ^ 32 := by exact_mod_cast small.le
  have positive' : (0 : ℚ) < n := by exact_mod_cast positive
  have exact : (1 : ℚ) / 2 ^ 31 ≤ 2 / n := by
    rw [div_le_div_iff₀ (by norm_num) positive']
    linarith
  exact (mul_le_mul_of_nonneg_right exact (by norm_num)).trans (pixelStep_mem_Icc precise n).1

/-- The distances of two pixels differ by at least a good half of the least step. -/
theorem pixelDistance_add_le {i j : ℕ} (h : i < j) (inside : j < n) :
    A.pixelDistance n i + 1 / 2 ^ 32 ≤ A.pixelDistance n j := by
  have apart : (i : ℚ) + 1 ≤ j := by exact_mod_cast h
  have bound : (j : ℚ) ≤ 2 ^ 32 := by exact_mod_cast (inside.trans small).le
  have step := le_pixelStep precise small (Nat.zero_lt_of_lt inside)
  -- an index is less than `2 ^ 32`, so its rounding error is a small part of one step
  have errors : (1 : ℚ) - 1 / 2 ^ 20 ≤ j * (1 - 1 / 2 ^ 53) - i * (1 + 1 / 2 ^ 53) := by
    linarith
  calc A.pixelDistance n i + 1 / 2 ^ 32
      ≤ A.pixelStep n * i * (1 + 1 / 2 ^ 53) + 1 / 2 ^ 32 := by
        linarith [(pixelDistance_mem_Icc precise n i).2]
    _ ≤ A.pixelStep n * i * (1 + 1 / 2 ^ 53) + A.pixelStep n * (1 - 1 / 2 ^ 20) := by linarith
    _ ≤ A.pixelStep n * i * (1 + 1 / 2 ^ 53)
        + A.pixelStep n * (j * (1 - 1 / 2 ^ 53) - i * (1 + 1 / 2 ^ 53)) := by
        have scaled := mul_le_mul_of_nonneg_left errors (pixelStep_nonneg precise n)
        linarith
    _ = A.pixelStep n * j * (1 - 1 / 2 ^ 53) := by ring
    _ ≤ A.pixelDistance n j := (pixelDistance_mem_Icc precise n j).1

/-- The last pixel stays away from the upper bound by about a step. -/
theorem pixelDistance_le {i : ℕ} (inside : i < n) :
    A.pixelDistance n i ≤ 2 - 1 / 2 ^ 32 := by
  have last : (i : ℚ) ≤ n - 1 := by
    have : (i : ℚ) + 1 ≤ n := by exact_mod_cast inside
    linarith
  have positive : (0 : ℚ) < n := by exact_mod_cast Nat.zero_lt_of_lt inside
  have step := le_pixelStep precise small (Nat.zero_lt_of_lt inside)
  have all : A.pixelStep n * n ≤ 2 * (1 + 1 / 2 ^ 53) := by
    calc A.pixelStep n * n ≤ 2 / n * (1 + 1 / 2 ^ 53) * n :=
          mul_le_mul_of_nonneg_right (pixelStep_mem_Icc precise n).2 positive.le
      _ = 2 * (1 + 1 / 2 ^ 53) := by field_simp
  calc A.pixelDistance n i ≤ A.pixelStep n * i * (1 + 1 / 2 ^ 53) :=
        (pixelDistance_mem_Icc precise n i).2
    _ ≤ A.pixelStep n * (n - 1) * (1 + 1 / 2 ^ 53) := by
        have scaled := mul_le_mul_of_nonneg_left last (pixelStep_nonneg precise n)
        exact mul_le_mul_of_nonneg_right scaled (by norm_num)
    _ = A.pixelStep n * n * (1 + 1 / 2 ^ 53) - A.pixelStep n * (1 + 1 / 2 ^ 53) := by ring
    _ ≤ 2 - 1 / 2 ^ 32 := by linarith

theorem abs_pixelPlace_sub_le {i : ℕ} (inside : i < n) :
    |A.pixelPlace n i - (A.pixelDistance n i - 1)| ≤ 1 / 2 ^ 53 := by
  refine precise.abs_round_sub_le (abs_le.mpr ⟨?_, ?_⟩)
  · linarith [pixelDistance_nonneg precise n i]
  · linarith [pixelDistance_le precise small inside]

/-- Places increase with the index. -/
theorem pixelPlace_lt {i j : ℕ} (h : i < j) (inside : j < n) :
    A.pixelPlace n i < A.pixelPlace n j := by
  have apart := pixelDistance_add_le precise small h inside
  have error := (abs_le.mp (abs_pixelPlace_sub_le precise small (h.trans inside))).2
  have error' := (abs_le.mp (abs_pixelPlace_sub_le precise small inside)).1
  linarith

/-- No pixel reaches the upper bound. -/
theorem pixelPlace_lt_one {i : ℕ} (inside : i < n) : A.pixelPlace n i < 1 := by
  have away := pixelDistance_le precise small inside
  have error := (abs_le.mp (abs_pixelPlace_sub_le precise small inside)).2
  linarith

end Axis

/-! ### The ends of an axis -/

section Ends

variable (integers : A.KeepsIntegers)

include integers

/-- The first pixel lies on the lower bound. -/
theorem pixelPlace_zero (n : ℕ) : A.pixelPlace n 0 = -1 := by
  have zero : A.round 0 = 0 := by exact_mod_cast integers 0 (by norm_num)
  have lower : A.round (-1) = -1 := by exact_mod_cast integers (-1) (by norm_num)
  rw [pixelPlace, pixelDistance, Nat.cast_zero, mul_zero, zero, zero_sub, lower]

/-- Pixels lie in the evaluation domain, without its upper bound. -/
theorem pixelPlace_mem_Ico (precise : A.IsPrecise) {n i : ℕ} (small : n < 2 ^ 32) (inside : i < n) :
    A.pixelPlace n i ∈ Set.Ico (-1) 1 := by
  refine ⟨?_, pixelPlace_lt_one precise small inside⟩
  rw [← pixelPlace_zero integers n]
  rcases Nat.eq_zero_or_pos i with rfl | behind
  · exact le_rfl
  · exact (pixelPlace_lt precise small behind inside).le

end Ends

end Arithmetic

/-! ### Coordinates -/

/-- Indices, extents and the width of the domain are whole numbers, so that three roundings remain. -/
theorem pixelCoordinate_rounded (integers : A.KeepsIntegers) {extent : UInt32} (nonempty : extent ≠ 0)
    (i : UInt32) :
    (pixelCoordinate i extent : Except (Fault (Rounded A)) (Rounded A))
      = .ok ⟨A.pixelPlace extent.toNat i.toNat⟩ := by
  have whole (k : UInt32) : A.round k.toNat = k.toNat := by
    have small : |(k.toNat : ℤ)| ≤ 2 ^ 32 := by
      rw [Nat.abs_cast]
      exact_mod_cast k.toNat_lt.le
    exact_mod_cast integers k.toNat small
  have width : A.round (1 - -1) = 2 := by
    have two : A.round 2 = 2 := by exact_mod_cast integers 2 (by norm_num)
    rwa [show (1 : ℚ) - -1 = 2 by norm_num]
  rw [Grid.axisMap_apply, Grid.axisMap_of_apart (Rounded.eq_extent_zero nonempty)]
  refine congrArg Except.ok (Rounded.ext ?_)
  simp only [AffineMap.apply, Rounded.value_add, Rounded.value_mul, Rounded.value_div,
    Rounded.value_sub, Rounded.value_ofInt, Rounded.value_evalMin, Rounded.value_evalMax,
    Int.cast_natCast, Int.cast_zero, sub_zero, whole, width]
  rw [← sub_eq_add_neg]
  rfl

/-- **Pixel coordinates are ordered, distinct and half-open under rounding.**  Let operations round in any way
that keeps the whole numbers up to `2 ^ 32` and is precise to 53 bits.  Along an axis that is not empty every
index has a coordinate; index 0 has -1, coordinates of indices inside the extent increase, and they all lie
in `[-1, 1)`.  A size without an empty side has a grid, whose places, inside and outside, have the coordinates
of their column and row as components.  Along an empty axis no index has a coordinate. -/
theorem pixelCoordinate_strictMono (integers : A.KeepsIntegers) (precise : A.IsPrecise) :
    (∀ extent : UInt32, extent ≠ 0 → ∃ coordinate : UInt32 → ℚ,
      (∀ i, (pixelCoordinate i extent : Except (Fault (Rounded A)) _) = .ok ⟨coordinate i⟩) ∧
      coordinate 0 = -1 ∧
      (∀ i j, i < j → j < extent → coordinate i < coordinate j) ∧
      ∀ i < extent, coordinate i ∈ Set.Ico (-1) 1) ∧
    (∀ width height : UInt32, width ≠ 0 → height ≠ 0 →
      ∃ g : Grid (Rounded A), Grid.create width height = .ok g ∧
        ∀ i j, pixelCoordinate i width = .ok (g.coord i j).x ∧
          pixelCoordinate j height = .ok (g.coord i j).y) ∧
    ∀ i, (pixelCoordinate i 0 : Except (Fault (Rounded A)) (Rounded A))
      = .error (.degenerateInterval ⟨0⟩ ⟨0⟩) := by
  refine ⟨?_, ?_, ?_⟩
  · intro extent nonempty
    refine ⟨fun i => A.pixelPlace extent.toNat i.toNat, pixelCoordinate_rounded integers nonempty,
      Arithmetic.pixelPlace_zero integers _, ?_, ?_⟩
    · intro i j h inside
      exact Arithmetic.pixelPlace_lt precise extent.toNat_lt (UInt32.lt_iff_toNat_lt.mp h)
        (UInt32.lt_iff_toNat_lt.mp inside)
    · intro i inside
      exact Arithmetic.pixelPlace_mem_Ico integers precise extent.toNat_lt
        (UInt32.lt_iff_toNat_lt.mp inside)
  · intro width height hw hh
    obtain ⟨g, created⟩ : ∃ g : Grid (Rounded A), Grid.create width height = .ok g :=
      Grid.exists_create hw hh fun _ => Rounded.eq_extent_zero
    exact ⟨g, created, Grid.pixelCoordinate_coord created⟩
  · intro i
    have zero : Scalar.eq (Scalar.ofInt (0 : UInt32).toNat : Rounded A) (Scalar.ofInt 0) = true :=
      (Rounded.eq_iff _ _).mpr rfl
    rw [pixelCoordinate, remap, AffineMap.between, if_pos zero]
    rfl

/-- The last two pixels of the longest axis there is, with 53 bits. -/
theorem pixelCoordinate_strictMono_longest :
    (Arithmetic.binary.KeepsIntegers ∧ Arithmetic.binary.IsPrecise) ∧
    ∃ coordinate : UInt32 → ℚ,
      (∀ i, (pixelCoordinate i 4294967295 : Except (Fault (Rounded Arithmetic.binary)) _)
        = .ok ⟨coordinate i⟩) ∧
      coordinate 4294967293 < coordinate 4294967294 ∧ coordinate 4294967294 < 1 := by
  refine ⟨⟨Arithmetic.keepsIntegers_binary, Arithmetic.isPrecise_binary⟩, ?_⟩
  obtain ⟨coordinate, found, -, increasing, range⟩ :=
    (pixelCoordinate_strictMono Arithmetic.keepsIntegers_binary Arithmetic.isPrecise_binary).1
      4294967295 (by decide)
  exact ⟨coordinate, found, increasing _ _ (by decide) (by decide), (range _ (by decide)).2⟩

end FormulaArt
