import FormulaArt.Proofs.Render.Picture
import FormulaArt.Proofs.Rounded.Arithmetic

/-!
# Pictures of higher resolution

Along an axis with `k` times as many pixels, every `k`-th pixel lies where a pixel lies on the shorter axis.
So a picture with `k` times as many columns and rows shows the smaller picture again, in every `k`-th column of
every `k`-th row, and may well be rendered by another strategy.

## Main definitions

* `PlacesExactly` — an arithmetic in which pixels are placed without rounding
* `Placed` — exact numbers beside scalars with any operations

## Main statements

* `PlacesExactly.pixelCoordinate_eq` — the coordinate of a pixel, as a quotient
* `coord_mul` — pixels of two grids at the same place
* `pixel_renderChannels_mul` — pixels of two pictures with the same colour

## Design notes

Only what places a pixel has to be exact.  Formulas use the same operations, but on places and on what they
make of them, and about these nothing is assumed.  Hence the addition, which is the last step to a place, may
lead out of the exact numbers.
-/

namespace FormulaArt

/-- Pixels are placed without rounding: some scalars are numbers, and on these the operations that place a
pixel are exact.  The last of them is the addition, after which a place need not be a number any more. -/
structure PlacesExactly {α : Type} [Scalar α] (number place : ℚ → α) : Prop where
  ofInt (n : ℤ) : Scalar.ofInt n = number n
  eq (a b : ℚ) : Scalar.eq (number a) (number b) = decide (a = b)
  sub (a b : ℚ) : number a - number b = number (a - b)
  div (a b : ℚ) : number a / number b = number (a / b)
  mul (a b : ℚ) : number a * number b = number (a * b)
  add (a b : ℚ) : number a + number b = place (a + b)

/-- If operations do not round, places are numbers like all others. -/
theorem Arithmetic.IsExact.placesExactly {A : Arithmetic} (exact : A.IsExact) :
    PlacesExactly (Rounded.mk (A := A)) Rounded.mk where
  ofInt _ := rfl
  eq _ _ := rfl
  sub _ _ := Rounded.ext (exact _)
  div _ _ := Rounded.ext (exact _)
  mul _ _ := Rounded.ext (exact _)
  add _ _ := Rounded.ext (exact _)

/-! ### Any operations on places -/

/-- Exact numbers, and beside them scalars, as which numbers can be read. -/
inductive Placed {β : Type} (read : ℚ → β) where
  | exact (q : ℚ)
  | value (v : β)

namespace Placed

variable {β : Type} {read : ℚ → β}

/-- A number as the scalar that it is read as. -/
def toScalar : Placed read → β
  | exact q => read q
  | value v => v

/-- An operation on numbers, and for everything else one on scalars. -/
def lift (onNumbers : ℚ → ℚ → ℚ) (onScalars : β → β → β) : Placed read → Placed read → Placed read
  | exact a, exact b => exact (onNumbers a b)
  | a, b => value (onScalars a.toScalar b.toScalar)

/-- Sums are no numbers any more, and so places have all the operations that the scalars have. -/
instance [Scalar β] : Scalar (Placed read) where
  add
    | exact a, exact b => value (read (a + b))
    | a, b => value (a.toScalar + b.toScalar)
  sub := lift (· - ·) (· - ·)
  mul := lift (· * ·) (· * ·)
  div := lift (· / ·) (· / ·)
  ofInt n := exact n
  pi := value Scalar.pi
  sin a := value (Scalar.sin a.toScalar)
  cos a := value (Scalar.cos a.toScalar)
  tanh a := value (Scalar.tanh a.toScalar)
  floor a := value (Scalar.floor a.toScalar)
  eq
    | exact a, exact b => decide (a = b)
    | a, b => Scalar.eq a.toScalar b.toScalar
  lt a b := Scalar.lt a.toScalar b.toScalar
  le a b := Scalar.le a.toScalar b.toScalar
  toByte a := Scalar.toByte a.toScalar

/-- Pixels are placed without rounding, whatever the operations on scalars are. -/
theorem placesExactly [Scalar β] :
    PlacesExactly (exact : ℚ → Placed read) (fun q => value (read q)) where
  ofInt _ := rfl
  eq _ _ := rfl
  sub _ _ := rfl
  div _ _ := rfl
  mul _ _ := rfl
  add _ _ := rfl

end Placed

/-! ### Multiples -/

/-- Factors of a product that fits into 32 bits are multiplied as natural numbers. -/
theorem toNat_mul_of_fits {a b : UInt32} (fits : a.toNat * b.toNat < 2 ^ 32) :
    (a * b).toNat = a.toNat * b.toNat := by
  rw [UInt32.toNat_mul, Nat.mod_eq_of_lt fits]

section Multiples

variable {k extent : UInt32} (positive : k ≠ 0) (fits : k.toNat * extent.toNat < 2 ^ 32)

include positive fits

/-- A multiple of an axis that is not empty is not empty. -/
theorem mul_extent_ne_zero (nonempty : extent ≠ 0) : k * extent ≠ 0 := by
  intro zero
  have product := toNat_mul_of_fits fits
  rw [zero] at product
  obtain h | h := Nat.mul_eq_zero.mp product.symm
  · exact positive (UInt32.toNat_inj.mp h)
  · exact nonempty (UInt32.toNat_inj.mp h)

/-- A pixel inside an axis has its multiple inside the multiple of the axis. -/
theorem mul_index_lt {i : UInt32} (inside : i < extent) :
    (k * i).toNat = k.toNat * i.toNat ∧ k * i < k * extent := by
  have some : 0 < k.toNat := Nat.pos_of_ne_zero fun h => positive (UInt32.toNat_inj.mp h)
  have below : k.toNat * i.toNat < k.toNat * extent.toNat :=
    Nat.mul_lt_mul_of_pos_left (UInt32.lt_iff_toNat_lt.mp inside) some
  have index := toNat_mul_of_fits (below.trans fits)
  refine ⟨index, UInt32.lt_iff_toNat_lt.mpr ?_⟩
  rwa [index, toNat_mul_of_fits fits]

end Multiples

/-! ### Places -/

section Places

variable {α : Type} [Scalar α] {number place : ℚ → α} (exact : PlacesExactly number place)

include exact

/-- An extent that is not zero compares as different from zero. -/
theorem PlacesExactly.eq_extent_zero {extent : UInt32} (nonempty : extent ≠ 0) :
    Scalar.eq (Scalar.ofInt extent.toNat : α) (Scalar.ofInt 0) = false := by
  rw [exact.ofInt, exact.ofInt, exact.eq, decide_eq_false_iff_not]
  intro zero
  exact nonempty (UInt32.toNat_inj.mp (by exact_mod_cast zero))

/-- The coordinate of a pixel depends on the quotient of its index and the extent, and on nothing else. -/
theorem PlacesExactly.pixelCoordinate_eq {extent : UInt32} (nonempty : extent ≠ 0) (i : UInt32) :
    (pixelCoordinate i extent : Except (Fault α) α)
      = .ok (place (2 * (i.toNat / extent.toNat) - 1)) := by
  have found : (((1 : ℤ) - (-1 : ℤ)) / ((extent.toNat : ℤ) - (0 : ℤ)) * ((i.toNat : ℤ) - (0 : ℤ))
      + (-1 : ℤ) : ℚ) = 2 * (i.toNat / extent.toNat) - 1 := by
    push_cast
    ring
  rw [Grid.axisMap_apply, Grid.axisMap_of_apart (exact.eq_extent_zero nonempty)]
  refine congrArg Except.ok ?_
  simp only [AffineMap.apply, evalMin, evalMax, exact.ofInt, exact.sub, exact.div, exact.mul, exact.add,
    found]

/-- The multiple of an index has the same coordinate along the multiple of the axis. -/
theorem PlacesExactly.pixelCoordinate_mul {k extent : UInt32} (positive : k ≠ 0)
    (fits : k.toNat * extent.toNat < 2 ^ 32) {i : UInt32} (inside : i < extent) :
    (pixelCoordinate (k * i) (k * extent) : Except (Fault α) α) = pixelCoordinate i extent := by
  have nonempty : extent ≠ 0 := by
    rintro rfl
    exact absurd inside UInt32.not_lt_zero
  have factor : (k.toNat : ℚ) ≠ 0 := by
    intro zero
    exact positive (UInt32.toNat_inj.mp (by exact_mod_cast zero))
  rw [exact.pixelCoordinate_eq (mul_extent_ne_zero positive fits nonempty),
    exact.pixelCoordinate_eq nonempty, (mul_index_lt positive fits inside).1, toNat_mul_of_fits fits,
    Nat.cast_mul, Nat.cast_mul, mul_div_mul_left _ _ factor]

/-- In the grid with `k` times as many columns and rows, every `k`-th place of every `k`-th row is a place of
the smaller grid. -/
theorem PlacesExactly.coord_mul {width height k : UInt32} (positive : k ≠ 0)
    (fitsWidth : k.toNat * width.toNat < 2 ^ 32) (fitsHeight : k.toNat * height.toNat < 2 ^ 32)
    {g fine : Grid α} (created : Grid.create width height = .ok g)
    (createdFine : Grid.create (k * width) (k * height) = .ok fine) {x y : UInt32} (hx : x < width)
    (hy : y < height) : fine.coord (k * x) (k * y) = g.coord x y := by
  obtain ⟨column, row⟩ := Grid.pixelCoordinate_coord created x y
  obtain ⟨column', row'⟩ := Grid.pixelCoordinate_coord createdFine (k * x) (k * y)
  rw [exact.pixelCoordinate_mul positive fitsWidth hx, column] at column'
  rw [exact.pixelCoordinate_mul positive fitsHeight hy, row] at row'
  show Point.mk (fine.coord (k * x) (k * y)).x (fine.coord (k * x) (k * y)).y = g.coord x y
  rw [← Except.ok.inj column', ← Except.ok.inj row']

end Places

/-! ### Pictures -/

/-- The pixels of a frame are the colours of the formulas at the places of its grid. -/
theorem pixel_sequentialBytes {α : Type} [Scalar α] {width height : UInt32} {g : Grid α}
    (created : Grid.create width height = .ok g) (trees : Channels Expr) {x y : UInt32} (hx : x < width)
    (hy : y < height) :
    (Frame.mk width height (sequentialBytes g trees)).pixel x y = .found (trees.color (g.coord x y)) := by
  obtain ⟨-, -, -, rfl, rfl⟩ := Grid.create_eq_ok_iff.mp created
  refine Frame.pixel_eq_found hx hy ?_
  rw [Frame.pixels, toList_sequentialBytes, Rgb.ofBytes_flatMap_toBytes, List.getElem?_map,
    g.getElem?_coords hx hy]
  rfl

/-- **Higher resolution refines the same picture.**  Let pixels be placed without rounding, and let formulas
be evaluated with any operations.  Three formulas are rendered at two sizes, of which one has `k` times as many
columns and rows, with any accepted options and on any machines that start the pools of threads asked for.
Both renders return a frame, and every pixel of the smaller one is found in the larger one, in the `k`-fold
column and row. -/
theorem pixel_renderChannels_mul {α : Type} [Scalar α] {number place : ℚ → α}
    (exact : PlacesExactly number place) (trees : Channels Expr) {width height k : UInt32}
    (hw : width ≠ 0) (hh : height ≠ 0) (positive : k ≠ 0)
    (fitsWidth : k.toNat * width.toNat < 2 ^ 32) (fitsHeight : k.toNat * height.toNat < 2 ^ 32)
    (machine machine' : Machine) {options options' : RenderOptions} (accepted : options.threads ≠ some 0)
    (accepted' : options'.threads ≠ some 0)
    (starts : options.PoolStarts machine (width.toNat * height.toNat))
    (starts' : options'.PoolStarts machine' ((k * width).toNat * (k * height).toNat)) :
    ∃ (frame fine : Frame) (stats stats' : RenderStats),
      (renderChannels machine trees width height options : Except (Fault α) _) = .ok (frame, stats) ∧
      (renderChannels machine' trees (k * width) (k * height) options' : Except (Fault α) _)
        = .ok (fine, stats') ∧
      ∀ x y, x < width → y < height → ∃ color : Rgb,
        frame.pixel x y = .found color ∧ fine.pixel (k * x) (k * y) = .found color := by
  obtain ⟨g, created⟩ : ∃ g : Grid α, Grid.create width height = .ok g :=
    Grid.exists_create hw hh fun _ => exact.eq_extent_zero
  obtain ⟨g', created'⟩ : ∃ g' : Grid α, Grid.create (k * width) (k * height) = .ok g' :=
    Grid.exists_create (mul_extent_ne_zero positive fitsWidth hw)
      (mul_extent_ne_zero positive fitsHeight hh) fun _ => exact.eq_extent_zero
  refine ⟨_, _, _, _, renderChannels_of_create machine trees accepted starts created,
    renderChannels_of_create machine' trees accepted' starts' created', ?_⟩
  intro x y hx hy
  refine ⟨_, pixel_sequentialBytes created trees hx hy, ?_⟩
  rw [pixel_sequentialBytes created' trees (mul_index_lt positive fitsWidth hx).2
    (mul_index_lt positive fitsHeight hy).2,
    exact.coord_mul positive fitsWidth fitsHeight created created' hx hy]

/-- A picture of two columns and one row, and the one with 64 times as many columns and rows, which is large
enough for the other strategy.  Places are read as doubles, and formulas have the operations of doubles. -/
theorem pixel_renderChannels_mul_large :
    ((2 : UInt32) ≠ 0 ∧ (1 : UInt32) ≠ 0 ∧ (64 : UInt32) ≠ 0 ∧
      (64 : UInt32).toNat * (2 : UInt32).toNat < 2 ^ 32 ∧
      (64 : UInt32).toNat * (1 : UInt32).toNat < 2 ^ 32 ∧
      (none : Option UInt64) ≠ some 0 ∧ (some 2 : Option UInt64) ≠ some 0) ∧
    ∃ (read : ℚ → Float) (frame fine : Frame) (stats stats' : RenderStats) (color : Rgb),
      PlacesExactly (Placed.exact : ℚ → Placed read) (fun q => .value (read q)) ∧
      (renderChannels { workers := 1, schedule := [] }
          ⟨.coordinate .x, .coordinate .y, .unary .cosPi (.coordinate .y)⟩ 2 1 {}
        : Except (Fault (Placed read)) _) = .ok (frame, stats) ∧
      (renderChannels { workers := 8, schedule := [.blue, .red] }
          ⟨.coordinate .x, .coordinate .y, .unary .cosPi (.coordinate .y)⟩ 128 64 { threads := some 2 }
        : Except (Fault (Placed read)) _) = .ok (fine, stats') ∧
      frame.pixel 1 0 = .found color ∧ fine.pixel 64 0 = .found color := by
  refine ⟨⟨by decide, by decide, by decide, by decide, by decide, by decide, by decide⟩,
    fun q => Float.ofInt q.num / Float.ofInt q.den, ?_⟩
  obtain ⟨frame, fine, stats, stats', rendered, rendered', pixels⟩ :=
    pixel_renderChannels_mul (α := Placed fun q => Float.ofInt q.num / Float.ofInt q.den)
      Placed.placesExactly ⟨.coordinate .x, .coordinate .y, .unary .cosPi (.coordinate .y)⟩
      (by decide : (2 : UInt32) ≠ 0) (by decide : (1 : UInt32) ≠ 0) (by decide : (64 : UInt32) ≠ 0)
      (by decide) (by decide) { workers := 1, schedule := [] } { workers := 8, schedule := [.blue, .red] }
      (by decide : ({} : RenderOptions).threads ≠ some 0)
      (by decide : ({ threads := some 2 } : RenderOptions).threads ≠ some 0)
      (RenderOptions.poolStarts_of_all fun _ => rfl) (RenderOptions.poolStarts_of_all fun _ => rfl)
  obtain ⟨color, here, there⟩ := pixels 1 0 (by decide) (by decide)
  exact ⟨frame, fine, stats, stats', color, Placed.placesExactly, rendered, rendered', here, there⟩

end FormulaArt
