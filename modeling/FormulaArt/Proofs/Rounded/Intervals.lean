import FormulaArt.Proofs.Rounded.Nearest

/-!
# Intervals carried onto each other without rounding

An affine map is known by its growth and by one image, and without rounding none of the two is lost.  So the
map that carries the bounds of one interval to those of another is undone by the map in the other direction,
and the way over an interval in between makes no difference.  Nothing of this depends on the order of the
bounds, or on whether a number lies between them.

## Main definitions

* `AffineMap.image` — the image of a number, in exact arithmetic

## Main statements

* `AffineMap.image_left`, `AffineMap.image_right`, `AffineMap.image_sub` — the bounds, and the growth
* `AffineMap.image_image` — two maps in a row
* `remap_of_apart`, `remap_eq_error_iff` — what becomes of a number, and when nothing does
* `remap_affine` — all of it together
-/

namespace FormulaArt

namespace AffineMap

/-! ### Numbers -/

/-- The number that `v` is carried to along with `a`, which is carried to `c`, and `b`, which is carried
to `d`. -/
def image (a b c d v : ℚ) : ℚ :=
  (d - c) / (b - a) * (v - a) + c

variable {a b c d : ℚ}

theorem image_left (a b c d : ℚ) : image a b c d a = c := by
  rw [image, sub_self, mul_zero, zero_add]

theorem image_right (apart : a ≠ b) (c d : ℚ) : image a b c d b = d := by
  rw [image, div_mul_cancel₀ _ (sub_ne_zero_of_ne apart.symm), sub_add_cancel]

/-- Differences are stretched by the same factor everywhere. -/
theorem image_sub (a b c d v w : ℚ) :
    image a b c d v - image a b c d w = (v - w) * (d - c) / (b - a) := by
  rw [image, image, mul_div_assoc]
  ring

/-- An interval that lies in between makes no difference, if it has a width. -/
theorem image_image (apart : c ≠ d) (a b e f v : ℚ) :
    image c d e f (image a b c d v) = image a b e f v := by
  have width : d - c ≠ 0 := sub_ne_zero_of_ne apart.symm
  have factor : (f - e) / (d - c) * ((d - c) / (b - a)) = (f - e) / (b - a) :=
    div_mul_div_cancel₀ width
  rw [image, image, add_sub_cancel_right, ← mul_assoc, factor, image]

/-- An interval is carried onto itself without any change. -/
theorem image_self (apart : a ≠ b) (v : ℚ) : image a b a b v = v := by
  rw [image, div_self (sub_ne_zero_of_ne apart.symm), one_mul, sub_add_cancel]

end AffineMap

variable {A : Arithmetic}

/-! ### What becomes of a number -/

/-- Nothing is carried out of an interval without a width, whatever operations do. -/
theorem remap_of_eq (v a c d : Rounded A) :
    (remap v a a c d : Except (Fault (Rounded A)) _) = .error (.degenerateInterval a a) := by
  rw [remap, AffineMap.between, if_pos ((Rounded.eq_iff a a).mpr rfl)]
  rfl

/-- Out of any other interval every number is carried to its image, if operations do not round. -/
theorem remap_of_apart (exact : A.IsExact) {a b : Rounded A} (apart : a ≠ b) (v c d : Rounded A) :
    (remap v a b c d : Except (Fault (Rounded A)) _)
      = .ok ⟨AffineMap.image a.value b.value c.value d.value v.value⟩ := by
  have different : Scalar.eq b a ≠ true := fun same =>
    apart (Rounded.ext ((Rounded.eq_iff b a).mp same).symm)
  rw [remap, AffineMap.between, if_neg different]
  refine congrArg Except.ok (Rounded.ext ?_)
  simp only [AffineMap.apply, Rounded.value_add, Rounded.value_mul, Rounded.value_div,
    Rounded.value_sub, exact _]
  rfl

/-- Only an interval without a width is refused, and the fault names its bounds. -/
theorem remap_eq_error_iff (exact : A.IsExact) (v a b c d : Rounded A) (fault : Fault (Rounded A)) :
    remap v a b c d = .error fault ↔ a = b ∧ fault = .degenerateInterval a b := by
  by_cases same : a = b
  · subst same
    rw [remap_of_eq, Except.error.injEq, and_iff_right rfl, eq_comm]
  · rw [remap_of_apart exact same]
    exact iff_of_false nofun fun h => same h.1

/-- **Carrying numbers between intervals is an invertible affine map.**  Let operations not round.  A number
is refused if and only if the bounds of the source interval are the same, and the fault names them.  Otherwise
all numbers have images, inside the interval and outside.  The bounds are carried to the bounds, reversed or
not, and the difference of two images is that of the numbers times the quotient of the widths, whose sign
says whether images grow, fall or are all the same.  If the target interval has a width too, the map in the
other direction leads back, and the way over the target interval to a third one is as good as the direct way. -/
theorem remap_affine (exact : A.IsExact) :
    (∀ (v a b c d : Rounded A) (fault : Fault (Rounded A)),
      remap v a b c d = .error fault ↔ a = b ∧ fault = .degenerateInterval a b) ∧
    ∀ a b c d : Rounded A, a ≠ b → ∃ f : Rounded A → Rounded A,
      (∀ v, (remap v a b c d : Except (Fault (Rounded A)) _) = .ok (f v)) ∧
      f a = c ∧ f b = d ∧
      (∀ v w, (f v).value - (f w).value
        = (v.value - w.value) * (d.value - c.value) / (b.value - a.value)) ∧
      (0 < (d.value - c.value) / (b.value - a.value) →
        ∀ v w, v.value < w.value → (f v).value < (f w).value) ∧
      ((d.value - c.value) / (b.value - a.value) < 0 →
        ∀ v w, v.value < w.value → (f w).value < (f v).value) ∧
      ((d.value - c.value) / (b.value - a.value) = 0 → ∀ v w, f v = f w) ∧
      (c ≠ d → ∀ v,
        (remap (f v) c d a b : Except (Fault (Rounded A)) _) = .ok v ∧
        ∀ e g, (remap (f v) c d e g : Except (Fault (Rounded A)) _) = remap v a b e g) := by
  refine ⟨remap_eq_error_iff exact, ?_⟩
  intro a b c d apart
  have different {x y : Rounded A} (h : x ≠ y) : x.value ≠ y.value := mt Rounded.ext h
  have growth (v w : Rounded A) :
      AffineMap.image a.value b.value c.value d.value v.value
          - AffineMap.image a.value b.value c.value d.value w.value
        = (v.value - w.value) * ((d.value - c.value) / (b.value - a.value)) := by
    rw [AffineMap.image_sub, mul_div_assoc]
  refine ⟨fun v => ⟨AffineMap.image a.value b.value c.value d.value v.value⟩,
    fun v => remap_of_apart exact apart v c d, ?_, ?_, ?_, ?_, ?_, ?_, ?_⟩
  · exact Rounded.ext (AffineMap.image_left _ _ _ _)
  · exact Rounded.ext (AffineMap.image_right (different apart) _ _)
  · exact fun v w => AffineMap.image_sub _ _ _ _ _ _
  · intro positive v w h
    refine sub_neg.mp ?_
    rw [growth]
    exact mul_neg_of_neg_of_pos (sub_neg.mpr h) positive
  · intro negative v w h
    refine sub_pos.mp ?_
    rw [growth]
    exact mul_pos_of_neg_of_neg (sub_neg.mpr h) negative
  · intro flat v w
    refine Rounded.ext (sub_eq_zero.mp ?_)
    rw [growth, flat, mul_zero]
  · intro wide v
    have onward (e g : Rounded A) := remap_of_apart exact wide
      ⟨AffineMap.image a.value b.value c.value d.value v.value⟩ e g
    simp only [AffineMap.image_image (different wide)] at onward
    refine ⟨?_, fun e g => ?_⟩
    · rw [onward, AffineMap.image_self (different apart)]
    · rw [onward, remap_of_apart exact apart]

/-- The interval from 2 down to -1, carried onto the one from 0 to 12, with a number that lies outside. -/
theorem remap_affine_reversed :
    (Arithmetic.exact.IsExact ∧ (⟨2⟩ : Rounded Arithmetic.exact) ≠ ⟨-1⟩ ∧
      (⟨0⟩ : Rounded Arithmetic.exact) ≠ ⟨12⟩) ∧
    ∃ image : Rounded Arithmetic.exact,
      remap ⟨5⟩ ⟨2⟩ ⟨-1⟩ ⟨0⟩ ⟨12⟩ = .ok image ∧ image.value = -12 ∧
      remap image ⟨0⟩ ⟨12⟩ ⟨2⟩ ⟨-1⟩ = .ok ⟨5⟩ := by
  have source : (⟨2⟩ : Rounded Arithmetic.exact) ≠ ⟨-1⟩ := by
    intro same
    exact absurd (congrArg Rounded.value same) (by norm_num)
  have target : (⟨0⟩ : Rounded Arithmetic.exact) ≠ ⟨12⟩ := by
    intro same
    exact absurd (congrArg Rounded.value same) (by norm_num)
  refine ⟨⟨Arithmetic.isExact_exact, source, target⟩, ?_⟩
  obtain ⟨f, carried, first, -, growth, -, -, -, back⟩ :=
    (remap_affine Arithmetic.isExact_exact).2 ⟨2⟩ ⟨-1⟩ ⟨0⟩ ⟨12⟩ source
  refine ⟨f ⟨5⟩, carried _, ?_, (back target ⟨5⟩).1⟩
  -- the number lies three above the first bound, and the interval is stretched to four times its width
  have distance := growth ⟨5⟩ ⟨2⟩
  rw [first] at distance
  norm_num at distance
  exact distance

end FormulaArt
