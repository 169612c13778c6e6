import FormulaArt.Channels
import FormulaArt.Proofs.Grid
import FormulaArt.Proofs.Rounded.Levels

/-!
# Values do not leave the evaluation range

Every operator carries numbers between -1 and 1 to numbers between -1 and 1, and a rounding that keeps
these bounds does not change that.  The places of a grid have such coordinates, and what a formula makes of
them is stretched onto the levels without passing their ends.  So the level of a pixel is found by
rounding alone, and is never held to 0 or 255.

## Main statements

* `Expr.eval_mem_Icc` — the value of a formula
* `Grid.exists_create_rounded` — the coordinates of a pixel
* `Level.exists_value_nearest_eq` — the nearest level of a value in the range
* `eval_mem_Icc_and_clamp_nearest` — the values and levels of all pixels

## Design notes

The bounds of each operation are multiples of one half, and a monotone rounding that keeps them needs
nothing else.  Only on the axes of a grid is this not enough: an extent may be a number that the rounding
changes, and it is the precision that keeps the last index from being rounded up to the extent.
-/

namespace FormulaArt

variable {A : Arithmetic}

section Range

variable (monotone : Monotone A.round) (keeps : A.KeepsHalves)

include monotone keeps

/-! ### The values of a formula -/

/-- A product or an average of numbers in the range is in the range. -/
theorem BinaryKind.apply_mem_Icc (kind : BinaryKind) {a b : Rounded A}
    (ha : a.value ∈ Set.Icc (-1) 1) (hb : b.value ∈ Set.Icc (-1) 1) :
    (kind.apply a b).value ∈ Set.Icc (-1) 1 := by
  have lower : A.round (-1) = -1 := keeps.round_eq (-2) (by norm_num) (by norm_num)
  have upper : A.round 1 = 1 := keeps.round_eq 2 (by norm_num) (by norm_num)
  cases kind with
  | product =>
      rw [apply, Rounded.value_mul]
      refine Arithmetic.round_mem_Icc monotone lower upper (abs_le.mp ?_)
      rw [abs_mul]
      exact mul_le_one₀ (abs_le.mpr ha) (abs_nonneg _) (abs_le.mpr hb)
  | average =>
      have sum : (a + b).value ∈ Set.Icc (-2) 2 := by
        rw [Rounded.value_add]
        refine Arithmetic.round_mem_Icc monotone ?_ ?_ ⟨?_, ?_⟩
        · exact keeps.round_eq (-4) (by norm_num) (by norm_num)
        · exact keeps.round_eq 4 (by norm_num) (by norm_num)
        · linarith [ha.1, hb.1]
        · linarith [ha.2, hb.2]
      rw [apply, Scalar.average, Rounded.value_div, Rounded.value_ofInt]
      refine Arithmetic.round_mem_Icc monotone lower upper ?_
      constructor
      · linarith [sum.1]
      · linarith [sum.2]

omit monotone keeps in
/-- A unary function of a number in the range is in the range.  It need not be monotone or precise. -/
theorem UnaryKind.apply_mem_Icc (functions : A.HasUnitFunctions) (kind : UnaryKind) {v : Rounded A}
    (h : v.value ∈ Set.Icc (-1) 1) : (kind.apply v).value ∈ Set.Icc (-1) 1 := by
  cases kind with
  | identity => exact h
  | cosPi => exact functions.cos_mem _
  | sinPi => exact functions.sin_mem _
  | tanh => exact functions.tanh_mem _

/-- The value of a formula at a point of the evaluation domain is in the evaluation range. -/
theorem Expr.eval_mem_Icc (functions : A.HasUnitFunctions) (e : Expr) {p : Point (Rounded A)}
    (hx : p.x.value ∈ Set.Icc (-1) 1) (hy : p.y.value ∈ Set.Icc (-1) 1) :
    (e.eval p).value ∈ Set.Icc (-1) 1 := by
  induction e with
  | coordinate axis =>
      cases axis with
      | x => exact hx
      | y => exact hy
  | unary kind child ih => exact kind.apply_mem_Icc functions ih
  | binary kind left right ihl ihr => exact kind.apply_mem_Icc monotone keeps ihl ihr

/-! ### The levels -/

/-- The whole number nearest to a stretched value in the range is a level. -/
theorem Level.exists_value_nearest_eq {v : Rounded A} (h : v.value ∈ Set.Icc (-1) 1) :
    ∃ k : ℕ, k ≤ 255 ∧ (nearest v).value = k := by
  have levels := A.floor_raised_mem_Icc monotone keeps h
  obtain ⟨k, floor⟩ := Int.eq_ofNat_of_zero_le levels.1
  have small := levels.2
  refine ⟨k, by omega, ?_⟩
  rw [Level.value_nearest keeps, floor, Int.cast_natCast]

/-! ### The coordinates -/

omit monotone keeps in
/-- The rounded scale of an axis carries no rounded index beyond the width of the evaluation domain.  Two
neighbouring numbers below `2 ^ 32` are so far apart that three precise roundings do not close the gap. -/
theorem Arithmetic.IsPrecise.round_mul_round_mem_Icc (precise : A.IsPrecise) {i n : ℕ} (inside : i < n)
    (small : n < 2 ^ 32) : A.round (2 / A.round n) * A.round i ∈ Set.Icc 0 2 := by
  have last : (i : ℚ) + 1 ≤ n := by exact_mod_cast inside
  have nonneg : (0 : ℚ) ≤ i := i.cast_nonneg
  have bound : (n : ℚ) ≤ 2 ^ 32 := by exact_mod_cast small.le
  have extent := precise.round_mem_Icc (x := n) (by linarith)
  have index := precise.round_mem_Icc nonneg
  have positive : 0 < A.round n := lt_of_lt_of_le (by linarith) extent.1
  have scale := precise.round_mem_Icc (x := 2 / A.round n) (by positivity)
  have index_nonneg : 0 ≤ A.round i := le_trans (by linarith) index.1
  have scale_nonneg : 0 ≤ A.round (2 / A.round n) := by
    refine le_trans ?_ scale.1
    exact mul_nonneg (by positivity) (by norm_num)
  -- all three errors together stay below the gap between the last index and the extent
  have gap : (1 + 1 / 2 ^ 53) * A.round i ≤ A.round n := by
    linarith [index.2, extent.1]
  refine ⟨mul_nonneg scale_nonneg index_nonneg, ?_⟩
  calc A.round (2 / A.round n) * A.round i
      ≤ 2 / A.round n * (1 + 1 / 2 ^ 53) * A.round i :=
        mul_le_mul_of_nonneg_right scale.2 index_nonneg
    _ = 2 * ((1 + 1 / 2 ^ 53) * A.round i / A.round n) := by ring
    _ ≤ 2 * 1 := by
        refine mul_le_mul_of_nonneg_left ?_ (by norm_num)
        exact (div_le_one positive).mpr gap
    _ = 2 := mul_one 2

/-- An axis that is not empty has a map, and this carries its indices into the evaluation domain. -/
theorem Grid.exists_axisMap_rounded (precise : A.IsPrecise) {extent : UInt32}
    (nonempty : extent ≠ 0) :
    ∃ f : AffineMap (Rounded A), axisMap extent = .ok f ∧
      ∀ i < extent, (f.apply (Scalar.ofInt i.toNat)).value ∈ Set.Icc (-1) 1 := by
  refine ⟨_, axisMap_of_apart (Rounded.eq_extent_zero nonempty), ?_⟩
  intro i inside
  have scaled := Arithmetic.round_mem_Icc monotone keeps.round_zero keeps.round_two
    (precise.round_mul_round_mem_Icc (UInt32.lt_iff_toNat_lt.mp inside) extent.toNat_lt)
  refine Arithmetic.round_mem_Icc monotone ?_ ?_ ?_
  · exact keeps.round_eq (-2) (by norm_num) (by norm_num)
  · exact keeps.round_eq 2 (by norm_num) (by norm_num)
  · rw [Rounded.value_evalMin, Rounded.value_mul, Rounded.value_div,
      value_evalMax_sub_evalMin keeps, Rounded.value_sub, Rounded.value_sub]
    simp only [Rounded.value_ofInt, Int.cast_natCast, Int.cast_zero, sub_zero]
    constructor
    · linarith [scaled.1]
    · linarith [scaled.2]

/-- A size without an empty side has a grid, all of whose places lie in the evaluation domain. -/
theorem Grid.exists_create_rounded (precise : A.IsPrecise) {width height : UInt32} (hw : width ≠ 0)
    (hh : height ≠ 0) :
    ∃ g : Grid (Rounded A), create width height = .ok g ∧
      ∀ p ∈ g.coords, p.x.value ∈ Set.Icc (-1) 1 ∧ p.y.value ∈ Set.Icc (-1) 1 := by
  obtain ⟨xMap, hx, columns⟩ := Grid.exists_axisMap_rounded monotone keeps precise hw
  obtain ⟨yMap, hy, rows⟩ := Grid.exists_axisMap_rounded monotone keeps precise hh
  refine ⟨⟨width, height, xMap, yMap⟩, create_eq_ok_iff.mpr ⟨⟨hw, hh⟩, hx, hy, rfl, rfl⟩, ?_⟩
  intro p member
  obtain ⟨x, y, inside, below, rfl⟩ := (mem_coords_iff _).mp member
  exact ⟨columns x inside, rows y below⟩

end Range

/-- **Values never leave the unit range.**  Let operations round in any way that is monotone, keeps the
multiples of one half up to 256 and is precise to 53 bits, and let the sine, the cosine and the hyperbolic
tangent be any functions with results between -1 and 1.  At a point with coordinates between -1 and 1 every
formula has a value between -1 and 1.  Every size without an empty side has a grid, and at each of its
pixels the level of each of three formulas is a whole number between 0 and 255 before it is held to these
bounds, which therefore changes nothing. -/
theorem eval_mem_Icc_and_clamp_nearest (monotone : Monotone A.round) (keeps : A.KeepsHalves)
    (precise : A.IsPrecise) (functions : A.HasUnitFunctions) :
    (∀ (e : Expr) (p : Point (Rounded A)), p.x.value ∈ Set.Icc (-1) 1 →
      p.y.value ∈ Set.Icc (-1) 1 → (e.eval p).value ∈ Set.Icc (-1) 1) ∧
    ∀ (trees : Channels Expr) (width height : UInt32), width ≠ 0 → height ≠ 0 →
      ∃ g : Grid (Rounded A), Grid.create width height = .ok g ∧
        ∀ p ∈ g.coords, ∀ c : Channel,
          (Level.nearest ((trees.get c).eval p)).value ∈ Set.Icc 0 255 ∧
          Scalar.clamp (Scalar.ofInt 0) (Scalar.ofInt 255) (Level.nearest ((trees.get c).eval p))
            = Level.nearest ((trees.get c).eval p) ∧
          ((level ((trees.get c).eval p)).toNat : ℚ)
            = (Level.nearest ((trees.get c).eval p)).value := by
  constructor
  · intro e p hx hy
    exact e.eval_mem_Icc monotone keeps functions hx hy
  · intro trees width height hw hh
    obtain ⟨g, created, places⟩ := Grid.exists_create_rounded monotone keeps precise hw hh
    refine ⟨g, created, ?_⟩
    intro p member c
    obtain ⟨hx, hy⟩ := places p member
    have value := (trees.get c).eval_mem_Icc monotone keeps functions hx hy
    obtain ⟨k, small, nearest⟩ := Level.exists_value_nearest_eq monotone keeps value
    have range : (Level.nearest ((trees.get c).eval p)).value ∈ Set.Icc 0 255 := by
      rw [nearest]
      exact ⟨k.cast_nonneg, by exact_mod_cast small⟩
    have unchanged : Scalar.clamp (Scalar.ofInt 0) (Scalar.ofInt 255)
        (Level.nearest ((trees.get c).eval p)) = Level.nearest ((trees.get c).eval p) :=
      Rounded.clamp_of_mem range
    refine ⟨range, unchanged, ?_⟩
    rw [level, unchanged, Rounded.toNat_toByte small nearest, nearest]

/-- Arithmetic with 53 bits, in a picture whose height does not divide the width of the domain evenly. -/
theorem eval_mem_Icc_and_clamp_nearest_binary :
    (Monotone Arithmetic.binary.round ∧ Arithmetic.binary.KeepsHalves ∧
      Arithmetic.binary.IsPrecise ∧ Arithmetic.binary.HasUnitFunctions) ∧
    ∃ g : Grid (Rounded Arithmetic.binary), Grid.create 2 3 = .ok g ∧
      ∀ p ∈ g.coords,
        (Level.nearest (Expr.eval (.binary .average (.coordinate .x)
          (.unary .cosPi (.binary .product (.coordinate .x) (.coordinate .y)))) p)).value
            ∈ Set.Icc 0 255 := by
  refine ⟨⟨Arithmetic.monotone_binary, Arithmetic.keepsHalves_binary,
    Arithmetic.isPrecise_binary, Arithmetic.hasUnitFunctions_binary⟩, ?_⟩
  obtain ⟨g, created, levels⟩ := (eval_mem_Icc_and_clamp_nearest Arithmetic.monotone_binary
    Arithmetic.keepsHalves_binary Arithmetic.isPrecise_binary
    Arithmetic.hasUnitFunctions_binary).2
      ⟨.binary .average (.coordinate .x)
        (.unary .cosPi (.binary .product (.coordinate .x) (.coordinate .y))),
        .coordinate .y, .unary .tanh (.coordinate .x)⟩ 2 3 (by decide) (by decide)
  exact ⟨g, created, fun p member => (levels p member .red).1⟩

end FormulaArt
