import FormulaArt.Level
import FormulaArt.Proofs.Rounded.Nearest

/-!
# Levels under rounding

The level of a value is found in three rounded steps, which stretch the evaluation range onto the levels and
add one half, and then by a floor that is held to 0 and 255.  Every step is monotone, and at the ends of the
evaluation range all intermediate results are multiples of one half.  So the level grows with the value, has
the right ends and stays there outside the range, however operations round; and without rounding it is the
nearest level.

## Main definitions

* `Arithmetic.raised` — a value on the scale of the levels, one half up, as it is found

## Main statements

* `Arithmetic.monotone_raised`, `Arithmetic.raised_lower`, `Arithmetic.raised_upper` — its growth and its ends
* `Level.toNat_level` — the level as a floor held to its bounds
* `level_nearest_and_monotone` — the nearest level, its growth and its ends
-/

namespace FormulaArt

variable {A : Arithmetic}

namespace Arithmetic

/-- A value stretched onto the levels and raised by one half. -/
def raised (A : Arithmetic) (v : ℚ) : ℚ :=
  A.round (A.round (A.round (v + 1) * (255 / 2)) + 1 / 2)

theorem monotone_raised (monotone : Monotone A.round) : Monotone A.raised := by
  intro v w h
  have distance : A.round (v + 1) ≤ A.round (w + 1) := monotone (by linarith)
  have stretched : A.round (A.round (v + 1) * (255 / 2)) ≤ A.round (A.round (w + 1) * (255 / 2)) :=
    monotone (by linarith)
  exact monotone (by linarith)

/-- The lower end of the evaluation range is raised to one half. -/
theorem raised_lower (keeps : A.KeepsHalves) : A.raised (-1) = 1 / 2 := by
  have half : A.round (1 / 2) = 1 / 2 := keeps.round_eq 1 (by norm_num) (by norm_num)
  rw [raised, neg_add_cancel, keeps.round_zero, zero_mul, keeps.round_zero, zero_add, half]

/-- The upper end of the evaluation range is raised to one half above the last level. -/
theorem raised_upper (keeps : A.KeepsHalves) : A.raised 1 = 511 / 2 := by
  have last : A.round 255 = 255 := keeps.round_eq 510 (by norm_num) (by norm_num)
  have half : A.round (511 / 2) = 511 / 2 := keeps.round_eq 511 (by norm_num) (by norm_num)
  rw [raised, one_add_one_eq_two, keeps.round_two, mul_div_cancel₀ _ two_ne_zero, last]
  norm_num [half]

theorem IsExact.raised_eq (exact : A.IsExact) (v : ℚ) : A.raised v = 127.5 * (v + 1) + 1 / 2 := by
  rw [raised, exact, exact, exact]
  ring

/-- Values in the evaluation range come to lie on a level before they are held to the levels. -/
theorem floor_raised_mem_Icc (monotone : Monotone A.round) (keeps : A.KeepsHalves) {v : ℚ}
    (h : v ∈ Set.Icc (-1) 1) : ⌊A.raised v⌋ ∈ Set.Icc 0 255 := by
  have ends := (monotone_raised monotone).mapsTo_Icc h
  rw [raised_lower keeps, raised_upper keeps] at ends
  constructor
  · exact Int.floor_nonneg.mpr (by linarith [ends.1])
  · rw [← Int.lt_add_one_iff, Int.floor_lt]
    push_cast
    linarith [ends.2]

end Arithmetic

/-! ### The level of a value -/

/-- The evaluation range is two wide, and this is not lost by rounding. -/
theorem value_evalMax_sub_evalMin (keeps : A.KeepsHalves) : (evalMax - evalMin : Rounded A).value = 2 := by
  have exact : (1 : ℚ) - -1 = 2 := by norm_num
  rw [Rounded.value_sub, Rounded.value_evalMax, Rounded.value_evalMin, exact, keeps.round_two]

namespace Level

theorem value_nearest (keeps : A.KeepsHalves) (v : Rounded A) :
    (nearest v).value = ⌊A.raised v.value⌋ := by
  have scale : (Scalar.ofInt 255 / (evalMax - evalMin) : Rounded A).value = 255 / 2 := by
    rw [Rounded.value_div, value_evalMax_sub_evalMin keeps, Rounded.value_ofInt]
    exact keeps.round_eq 255 (by norm_num) (by norm_num)
  have half : (Scalar.half : Rounded A).value = 1 / 2 := by
    rw [Scalar.half, Rounded.value_div, Rounded.value_ofInt, Rounded.value_ofInt]
    exact keeps 1 (by norm_num)
  rw [nearest, Rounded.value_floor, Rounded.value_add, half, stretched, Rounded.value_mul, scale,
    Rounded.value_sub, Rounded.value_evalMin, sub_neg_eq_add]
  rfl

/-- The level of a value is a floor that is held to the levels there are. -/
theorem toNat_level (keeps : A.KeepsHalves) (v : Rounded A) :
    ((level v).toNat : ℤ) = min (max ⌊A.raised v.value⌋ 0) 255 := by
  obtain ⟨k, hk⟩ : ∃ k : ℕ, min (max ⌊A.raised v.value⌋ 0) 255 = k :=
    Int.eq_ofNat_of_zero_le (le_min (le_max_right _ _) (by norm_num))
  have small : k ≤ 255 := by
    have : (k : ℤ) ≤ 255 := hk ▸ min_le_right _ _
    exact_mod_cast this
  have held : (Scalar.clamp (Scalar.ofInt 0) (Scalar.ofInt 255) (nearest v)).value = k := by
    rw [Rounded.value_clamp, value_nearest keeps, Rounded.value_ofInt, Rounded.value_ofInt]
    exact_mod_cast hk
  rw [level, Rounded.toNat_toByte small held, hk]

/-- The level of a greater value is not lower. -/
theorem level_le_level (monotone : Monotone A.round) (keeps : A.KeepsHalves) {v w : Rounded A}
    (h : v.value ≤ w.value) : level v ≤ level w := by
  have floors : ⌊A.raised v.value⌋ ≤ ⌊A.raised w.value⌋ :=
    Int.floor_mono (A.monotone_raised monotone h)
  have levels : ((level v).toNat : ℤ) ≤ (level w).toNat := by
    rw [toNat_level keeps, toNat_level keeps]
    exact min_le_min_right _ (max_le_max_right _ floors)
  exact UInt8.le_iff_toNat_le.mpr (by exact_mod_cast levels)

/-- Up to the lower end of the evaluation range there is only the lowest level. -/
theorem level_of_le_lower (monotone : Monotone A.round) (keeps : A.KeepsHalves) {v : Rounded A}
    (h : v.value ≤ -1) : level v = 0 := by
  have lowest : ⌊A.raised v.value⌋ ≤ 0 := by
    rw [← Int.lt_add_one_iff, Int.floor_lt]
    have below := A.monotone_raised monotone h
    rw [A.raised_lower keeps] at below
    push_cast
    linarith
  have number : ((level v).toNat : ℤ) = 0 := by
    rw [toNat_level keeps, max_eq_right lowest, min_eq_left (by norm_num)]
  exact UInt8.toNat_inj.mp (by exact_mod_cast number)

/-- From the upper end of the evaluation range on there is only the highest level. -/
theorem level_of_upper_le (monotone : Monotone A.round) (keeps : A.KeepsHalves) {v : Rounded A}
    (h : 1 ≤ v.value) : level v = 255 := by
  have highest : 255 ≤ ⌊A.raised v.value⌋ := by
    rw [Int.le_floor]
    have above := A.monotone_raised monotone h
    rw [A.raised_upper keeps] at above
    push_cast
    linarith
  have number : ((level v).toNat : ℤ) = 255 := by
    rw [toNat_level keeps, min_eq_right (le_max_of_le_left highest)]
  exact UInt8.toNat_inj.mp (by exact_mod_cast number)

/-- Without rounding the level of a value in the evaluation range is the nearest one. -/
theorem eq_toNat_level_iff (exact : A.IsExact) {v : Rounded A} (h : v.value ∈ Set.Icc (-1) 1) (q : ℤ) :
    q = (level v).toNat ↔
      q - 1 / 2 ≤ 127.5 * (v.value + 1) ∧ 127.5 * (v.value + 1) < q + 1 / 2 := by
  have levels := A.floor_raised_mem_Icc exact.monotone exact.keepsHalves h
  rw [toNat_level exact.keepsHalves, max_eq_left levels.1, min_eq_left levels.2, eq_comm,
    Int.floor_eq_iff, exact.raised_eq]
  constructor
  · rintro ⟨low, high⟩
    exact ⟨by linarith, by linarith⟩
  · rintro ⟨low, high⟩
    exact ⟨by linarith, by linarith⟩

end Level

/-- **The level of a value is the nearest one, grows with the value and has fixed ends.**  Without rounding,
the level of a value between -1 and 1 is the only whole number that lies within one half of `127.5 * (v + 1)`,
the higher one where there are two; smaller values have level 0 and greater ones level 255.  With any
rounding that is monotone and keeps the multiples of one half up to 256, a greater value does not have a
lower level, -1 has level 0 and 1 has level 255. -/
theorem level_nearest_and_monotone :
    (∀ A : Arithmetic, A.IsExact → ∀ v : Rounded A,
      (v.value ∈ Set.Icc (-1) 1 → ∀ q : ℤ, q = (level v).toNat ↔
        q - 1 / 2 ≤ 127.5 * (v.value + 1) ∧ 127.5 * (v.value + 1) < q + 1 / 2) ∧
      (v.value < -1 → level v = 0) ∧
      (1 < v.value → level v = 255)) ∧
    ∀ A : Arithmetic, Monotone A.round → A.KeepsHalves →
      (∀ v w : Rounded A, v.value ≤ w.value → level v ≤ level w) ∧
      level (⟨-1⟩ : Rounded A) = 0 ∧
      level (⟨1⟩ : Rounded A) = 255 := by
  constructor
  · intro A exact v
    refine ⟨Level.eq_toNat_level_iff exact, ?_, ?_⟩
    · intro below
      exact Level.level_of_le_lower exact.monotone exact.keepsHalves below.le
    · intro above
      exact Level.level_of_upper_le exact.monotone exact.keepsHalves above.le
  · intro A monotone keeps
    refine ⟨?_, Level.level_of_le_lower monotone keeps le_rfl,
      Level.level_of_upper_le monotone keeps le_rfl⟩
    intro v w h
    exact Level.level_le_level monotone keeps h

/-- Zero lies in the middle between two levels and takes the higher one; with 53 bits, one third does not
have a lower level than 0.3. -/
theorem level_nearest_and_monotone_zero :
    (Arithmetic.exact.IsExact ∧ (0 : ℚ) ∈ Set.Icc (-1) 1 ∧
      Monotone Arithmetic.binary.round ∧ Arithmetic.binary.KeepsHalves) ∧
    (128 : ℤ) = (level (⟨0⟩ : Rounded Arithmetic.exact)).toNat ∧
    level (⟨3 / 10⟩ : Rounded Arithmetic.binary) ≤ level (⟨1 / 3⟩ : Rounded Arithmetic.binary) := by
  refine ⟨⟨Arithmetic.isExact_exact, by norm_num, Arithmetic.monotone_binary,
    Arithmetic.keepsHalves_binary⟩, ?_, ?_⟩
  · refine ((level_nearest_and_monotone.1 _ Arithmetic.isExact_exact ⟨0⟩).1 (by norm_num) 128).mpr ?_
    norm_num
  · exact (level_nearest_and_monotone.2 _ Arithmetic.monotone_binary
      Arithmetic.keepsHalves_binary).1 _ _ (by norm_num)

end FormulaArt
