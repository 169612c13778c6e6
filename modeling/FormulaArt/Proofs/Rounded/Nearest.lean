import FormulaArt.Proofs.Rounded.Arithmetic

/-!
# Rounding to 53 bits

The rounding of floating point without bounds on the exponent: a number lies between two neighbouring
powers of two, where the multiples of the `2 ^ -52`-th part of the lower one are kept, and every other
number goes to the nearest of them.  It has all the properties that are asked of an arithmetic.  With it
comes an arithmetic whose functions are those of the real numbers, cut off behind the point.

## Main definitions

* `Precision.spacing`, `Precision.nearest` — the distance of the numbers that are kept, and the rounding
* `Precision.Keeps` — the numbers that are kept around a number
* `Arithmetic.binary`, `Arithmetic.exact` — the arithmetic, and the one that does not round

## Main statements

* `Precision.Keeps.le_nearest`, `Precision.Keeps.nearest_le` — no number that is kept is passed over
* `Precision.monotone_nearest` — the rounding is monotone, also from one power of two to the next
* `Arithmetic.keepsHalves_binary`, `Arithmetic.keepsIntegers_binary`, `Arithmetic.isPrecise_binary`,
  `Arithmetic.hasUnitFunctions_binary`

## Design notes

In the middle between two numbers the greater one is taken, so that nothing depends on the parity of a
significand.
-/

namespace FormulaArt

namespace Precision

/-- The distance of neighbouring numbers of 53 bits at a number. -/
def spacing (x : ℚ) : ℚ :=
  2 ^ (Int.log 2 |x| - 52)

/-- The nearest number of 53 bits. -/
def nearest (x : ℚ) : ℚ :=
  round (x / spacing x) * spacing x

theorem spacing_pos (x : ℚ) : 0 < spacing x := by
  unfold spacing
  positivity

/-! ### Numbers that are kept -/

/-- The rounding of numbers around `x` keeps `z`, which is a multiple of the spacing there. -/
def Keeps (x z : ℚ) : Prop :=
  ∃ m : ℤ, z = m * spacing x

theorem Keeps.mul {x z : ℚ} (n : ℤ) (h : Keeps x z) : Keeps x (n * z) := by
  obtain ⟨m, rfl⟩ := h
  exact ⟨n * m, by push_cast; ring⟩

theorem Keeps.neg {x z : ℚ} (h : Keeps x z) : Keeps x (-z) := by
  simpa using h.mul (-1)

theorem keeps_zero (x : ℚ) : Keeps x 0 :=
  ⟨0, by simp⟩

/-- The powers of two that are not below the spacing are kept. -/
theorem keeps_two_zpow {x : ℚ} {k : ℤ} (h : Int.log 2 |x| - 52 ≤ k) : Keeps x (2 ^ k) := by
  obtain ⟨j, hj⟩ := Int.eq_ofNat_of_zero_le (sub_nonneg.mpr h)
  refine ⟨2 ^ j, ?_⟩
  rw [spacing, Int.cast_pow, Int.cast_ofNat, ← zpow_natCast, ← hj, ← zpow_add₀ (by norm_num)]
  congr 1
  omega

/-- A number that is kept is not passed over from above. -/
theorem Keeps.le_nearest {x z : ℚ} (h : Keeps x z) (below : z ≤ x) : z ≤ nearest x := by
  obtain ⟨m, rfl⟩ := h
  have scaled : (m : ℚ) ≤ x / spacing x := (le_div_iff₀ (spacing_pos x)).mpr below
  refine mul_le_mul_of_nonneg_right ?_ (spacing_pos x).le
  rw [round_eq, Int.cast_le, Int.le_floor]
  linarith

/-- A number that is kept is not passed over from below. -/
theorem Keeps.nearest_le {x z : ℚ} (h : Keeps x z) (above : x ≤ z) : nearest x ≤ z := by
  obtain ⟨m, rfl⟩ := h
  have scaled : x / spacing x ≤ m := (div_le_iff₀ (spacing_pos x)).mpr above
  refine mul_le_mul_of_nonneg_right ?_ (spacing_pos x).le
  rw [round_eq, Int.cast_le, ← Int.lt_add_one_iff, Int.floor_lt]
  push_cast
  linarith

theorem Keeps.nearest_eq {x : ℚ} (h : Keeps x x) : nearest x = x :=
  le_antisymm (h.nearest_le le_rfl) (h.le_nearest le_rfl)

/-! ### The rounding is monotone -/

/-- Where the spacing is the same, the rounding is that of whole numbers. -/
theorem nearest_le_nearest_of_log_eq {x y : ℚ} (same : Int.log 2 |x| = Int.log 2 |y|) (h : x ≤ y) :
    nearest x ≤ nearest y := by
  have spacings : spacing x = spacing y := by rw [spacing, spacing, same]
  have scaled : x / spacing y ≤ y / spacing y := div_le_div_of_nonneg_right h (spacing_pos y).le
  unfold nearest
  rw [spacings, round_eq, round_eq]
  refine mul_le_mul_of_nonneg_right ?_ (spacing_pos y).le
  exact_mod_cast Int.floor_mono (add_le_add_left scaled (1 / 2))

/-- Two numbers are rounded in order if a number between them is kept around both. -/
theorem nearest_le_nearest_of_between {x y z : ℚ} (hx : Keeps x z) (hy : Keeps y z) (below : x ≤ z)
    (above : z ≤ y) : nearest x ≤ nearest y :=
  (hx.nearest_le below).trans (hy.le_nearest above)

/-- A power of two separates numbers of different binary order. -/
theorem le_two_zpow_of_log_lt {a b : ℚ} (apart : Int.log 2 a < Int.log 2 b) :
    a ≤ 2 ^ Int.log 2 b :=
  calc a ≤ 2 ^ (Int.log 2 a + 1) := by exact_mod_cast (Int.lt_zpow_succ_log_self one_lt_two a).le
    _ ≤ 2 ^ Int.log 2 b := zpow_le_zpow_right₀ one_le_two (by omega)

theorem two_zpow_log_le {a : ℚ} (positive : 0 < a) : 2 ^ Int.log 2 a ≤ a := by
  exact_mod_cast Int.zpow_log_le_self one_lt_two positive

/-- The rounding is monotone.  Where the spacing changes between two numbers, there is a power of two
between them which is kept around both, or else zero. -/
theorem monotone_nearest : Monotone nearest := by
  intro x y h
  by_cases same : Int.log 2 |x| = Int.log 2 |y|
  · exact nearest_le_nearest_of_log_eq same h
  rcases lt_or_ge 0 x with positive | hx
  · have positive' : 0 < y := lt_of_lt_of_le positive h
    rw [abs_of_pos positive, abs_of_pos positive'] at same
    have apart : Int.log 2 x < Int.log 2 y :=
      lt_of_le_of_ne (Int.log_mono_right positive h) same
    have keptx : Keeps x (2 ^ Int.log 2 y) :=
      keeps_two_zpow (by rw [abs_of_pos positive]; omega)
    have kepty : Keeps y (2 ^ Int.log 2 y) :=
      keeps_two_zpow (by rw [abs_of_pos positive']; omega)
    exact nearest_le_nearest_of_between keptx kepty (le_two_zpow_of_log_lt apart)
      (two_zpow_log_le positive')
  rcases le_or_gt 0 y with hy | negative
  · exact nearest_le_nearest_of_between (keeps_zero x) (keeps_zero y) hx hy
  · have negative' : x < 0 := lt_of_le_of_lt h negative
    rw [abs_of_neg negative, abs_of_neg negative'] at same
    have apart : Int.log 2 (-y) < Int.log 2 (-x) :=
      lt_of_le_of_ne (Int.log_mono_right (neg_pos.mpr negative) (neg_le_neg h)) (Ne.symm same)
    have keptx : Keeps x (2 ^ Int.log 2 (-x)) :=
      keeps_two_zpow (by rw [abs_of_neg negative']; omega)
    have kepty : Keeps y (2 ^ Int.log 2 (-x)) :=
      keeps_two_zpow (by rw [abs_of_neg negative]; omega)
    refine nearest_le_nearest_of_between keptx.neg kepty.neg ?_ ?_
    · exact le_neg_of_le_neg (two_zpow_log_le (neg_pos.mpr negative'))
    · exact neg_le_of_neg_le (le_two_zpow_of_log_lt apart)

/-! ### The rounding is precise -/

/-- The multiples of one half are kept as long as they have at most 53 bits. -/
theorem nearest_half {n : ℤ} (small : |n| < 2 ^ 53) : nearest (n / 2) = n / 2 := by
  by_cases zero : n = 0
  · subst zero
    simp [nearest]
  have positive : (0 : ℚ) < |(n : ℚ) / 2| := by positivity
  have order : Int.log 2 |(n : ℚ) / 2| < 52 := by
    rw [← Int.lt_zpow_iff_log_lt one_lt_two positive, abs_div, abs_two, div_lt_iff₀ two_pos]
    have : |(n : ℚ)| < 2 ^ 53 := by exact_mod_cast small
    norm_num at this ⊢
    exact this
  have half : Keeps ((n : ℚ) / 2) (2 ^ (-1 : ℤ)) := keeps_two_zpow (by omega)
  have multiple := half.mul n
  rw [zpow_neg_one, ← div_eq_mul_inv] at multiple
  exact multiple.nearest_eq

/-- The rounding error is at most `2 ^ -53` of the number. -/
theorem abs_nearest_sub_le (x : ℚ) : |nearest x - x| ≤ |x| / 2 ^ 53 := by
  by_cases zero : x = 0
  · subst zero
    simp [nearest]
  have scaled : x / spacing x * spacing x = x := div_mul_cancel₀ x (spacing_pos x).ne'
  calc |nearest x - x| = |x / spacing x - round (x / spacing x)| * spacing x := by
        nth_rewrite 2 [← scaled]
        rw [nearest, ← sub_mul, abs_mul, abs_of_pos (spacing_pos x), abs_sub_comm]
    _ ≤ 1 / 2 * spacing x := mul_le_mul_of_nonneg_right (abs_sub_round _) (spacing_pos x).le
    _ = 2 ^ Int.log 2 |x| / 2 ^ 53 := by
        rw [spacing, zpow_sub₀ two_ne_zero]
        norm_num
        ring
    _ ≤ |x| / 2 ^ 53 :=
        div_le_div_of_nonneg_right (two_zpow_log_le (abs_pos.mpr zero)) (by norm_num)

/-! ### An arithmetic -/

/-- The value of a real function, cut off behind the 53rd place after the point. -/
noncomputable def cutOff (f : ℝ → ℝ) (x : ℚ) : ℚ :=
  ⌊f x * 2 ^ 53⌋ / 2 ^ 53

theorem cutOff_mem_Icc {f : ℝ → ℝ} (h : ∀ x, f x ∈ Set.Icc (-1) 1) (x : ℚ) :
    cutOff f x ∈ Set.Icc (-1) 1 := by
  have low : -2 ^ 53 ≤ ⌊f x * 2 ^ 53⌋ := by
    rw [Int.le_floor]
    push_cast
    linarith [(h x).1]
  have high : ⌊f x * 2 ^ 53⌋ ≤ 2 ^ 53 := by
    rw [← Int.lt_add_one_iff, Int.floor_lt]
    push_cast
    linarith [(h x).2]
  have low' : (-2 ^ 53 : ℚ) ≤ ⌊f x * 2 ^ 53⌋ := by exact_mod_cast low
  have high' : (⌊f x * 2 ^ 53⌋ : ℚ) ≤ 2 ^ 53 := by exact_mod_cast high
  constructor
  · rw [cutOff, le_div_iff₀ (by norm_num)]
    linarith
  · rw [cutOff, div_le_iff₀ (by norm_num)]
    linarith

end Precision

namespace Arithmetic

/-- Arithmetic with 53 bits.  Half a turn is the number of 53 bits nearest to it. -/
noncomputable def binary : Arithmetic where
  round := Precision.nearest
  pi := 884279719003555 / 281474976710656
  sin := Precision.cutOff Real.sin
  cos := Precision.cutOff Real.cos
  tanh := Precision.cutOff Real.tanh

/-- Arithmetic without rounding, with the same functions. -/
noncomputable def exact : Arithmetic :=
  { binary with round := id }

theorem isExact_exact : exact.IsExact := fun _ => rfl

theorem monotone_binary : Monotone binary.round := Precision.monotone_nearest

theorem keepsHalves_binary : binary.KeepsHalves := by
  intro n small
  exact Precision.nearest_half (lt_of_le_of_lt small (by norm_num))

theorem keepsIntegers_binary : binary.KeepsIntegers := by
  intro n small
  have kept := Precision.nearest_half (n := 2 * n) (by rw [abs_mul, abs_two]; omega)
  rw [Int.cast_mul, Int.cast_ofNat, mul_div_cancel_left₀ _ two_ne_zero] at kept
  exact kept

theorem isPrecise_binary : binary.IsPrecise := Precision.abs_nearest_sub_le

theorem hasUnitFunctions_binary : binary.HasUnitFunctions where
  sin_mem := Precision.cutOff_mem_Icc Real.sin_mem_Icc
  cos_mem := Precision.cutOff_mem_Icc Real.cos_mem_Icc
  tanh_mem := Precision.cutOff_mem_Icc fun x =>
    ⟨(Real.neg_one_lt_tanh x).le, (Real.tanh_lt_one x).le⟩

end Arithmetic

end FormulaArt
