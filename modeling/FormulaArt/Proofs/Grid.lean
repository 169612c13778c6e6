import FormulaArt.Grid
import FormulaArt.Proofs.Double

/-!
# Grids in row order

`Grid.coords` is a list of rows; `Grid.point` finds the `k`-th place by division.  This module shows
that the two agree, so that a place can be looked up by column and row, and that each place is the
pair of the coordinates which `pixelCoordinate` gives for its column and its row.

## Main statements

* `Grid.create_eq_ok_iff` — what a created grid is made of
* `Grid.exists_create` — when a size has a grid
* `Grid.exists_create_double` — over doubles, every size without an empty side has a grid
* `Grid.coords_eq_map_point` — the rows, one after the other, are the points in order
* `Grid.getElem?_coords`, `Grid.mem_coords_iff` — the place at the position of a pixel
* `Grid.pixelCoordinate_coord` — its components

## Design notes

Whether the map of an axis exists depends on the comparison of two scalars, about which nothing is
assumed here.  The statements therefore start from a grid that was created, and so hold over every
arithmetic.
-/

namespace FormulaArt

/-- The entries of a table, row by row, are numbered by division with the width of a row. -/
theorem flatMap_range_map {β : Type} (rows width : Nat) (f : Nat → Nat → β) :
    ((List.range rows).flatMap fun j => (List.range width).map fun i => f i j)
      = (List.range (rows * width)).map fun k => f (k % width) (k / width) := by
  induction rows with
  | zero => simp
  | succ rows ih =>
      -- the last row goes on with the numbers where the rows before it end
      have last : ((List.range width).map fun i => f i rows)
          = (List.range width).map
              ((fun k => f (k % width) (k / width)) ∘ (rows * width + ·)) := by
        refine List.map_congr_left fun i member => ?_
        have below : i < width := List.mem_range.mp member
        have positive : 0 < width := Nat.lt_of_le_of_lt (Nat.zero_le i) below
        show f i rows = f ((rows * width + i) % width) ((rows * width + i) / width)
        rw [Nat.mul_comm rows width, Nat.mul_add_mod, Nat.mod_eq_of_lt below,
          Nat.mul_add_div positive, Nat.div_eq_of_lt below, Nat.add_zero]
      rw [List.range_succ, List.flatMap_append, ih, Nat.succ_mul, List.range_add,
        List.map_append, List.map_map, ← last, List.flatMap_singleton]

/-- The number of an entry of a table lies below the number of entries. -/
theorem position_lt {rows width i j : Nat} (hi : i < width) (hj : j < rows) :
    j * width + i < width * rows :=
  calc
    j * width + i < j * width + width := Nat.add_lt_add_left hi _
    _ = (j + 1) * width := (Nat.succ_mul _ _).symm
    _ ≤ rows * width := Nat.mul_le_mul_right _ hj
    _ = width * rows := Nat.mul_comm _ _

namespace Grid

variable {α : Type} [Scalar α]

/-! ### Created grids -/

theorem axisMap_apply (extent index : UInt32) :
    (pixelCoordinate index extent : Except (Fault α) α)
      = (axisMap extent).map fun f => f.apply (Scalar.ofInt index.toNat) := rfl

/-- A grid is created for a size without an empty side, if both axes have a map; it consists of that
size and those maps. -/
theorem create_eq_ok_iff {width height : UInt32} {g : Grid α} :
    create width height = .ok g ↔
      (width ≠ 0 ∧ height ≠ 0) ∧ axisMap width = .ok g.xMap ∧ axisMap height = .ok g.yMap ∧
        g.width = width ∧ g.height = height := by
  unfold create
  by_cases empty : width = 0 ∨ height = 0
  · rw [if_pos empty]
    constructor
    · intro h
      cases h
    · rintro ⟨⟨hw, hh⟩, -⟩
      exact absurd empty (by simp [hw, hh])
  · rw [if_neg empty]
    rw [not_or] at empty
    cases hx : (axisMap width : Except (Fault α) (AffineMap α)) with
    | error e => simp [bind, Except.bind]
    | ok xMap =>
        cases hy : (axisMap height : Except (Fault α) (AffineMap α)) with
        | error e => simp [bind, Except.bind]
        | ok yMap =>
            cases g with
            | mk w h x y =>
                simp only [bind, Except.bind, pure, Except.pure, Except.ok.injEq, Grid.mk.injEq]
                constructor
                · rintro ⟨rfl, rfl, rfl, rfl⟩
                  exact ⟨empty, rfl, rfl, rfl, rfl⟩
                · rintro ⟨-, rfl, rfl, rfl, rfl⟩
                  exact ⟨rfl, rfl, rfl, rfl⟩

/-- An axis has no map only if its bounds compare as equal. -/
theorem kind_of_axisMap_eq_error {extent : UInt32} {fault : Fault α}
    (failed : axisMap extent = .error fault) : fault.kind = .degenerateInterval := by
  unfold axisMap AffineMap.between at failed
  split at failed
  · cases failed
    rfl
  · cases failed

/-- A grid is not created for want of a size or of a map. -/
theorem kind_of_create_eq_error {width height : UInt32} {fault : Fault α}
    (failed : create width height = .error fault) :
    fault.kind = .dimensions ∨ fault.kind = .degenerateInterval := by
  unfold create at failed
  split at failed
  · cases failed
    exact .inl rfl
  · refine .inr ?_
    cases hx : (axisMap width : Except (Fault α) (AffineMap α)) with
    | error cause =>
        rw [hx] at failed
        cases failed
        exact kind_of_axisMap_eq_error hx
    | ok xMap =>
        cases hy : (axisMap height : Except (Fault α) (AffineMap α)) with
        | error cause =>
            rw [hx, hy] at failed
            cases failed
            exact kind_of_axisMap_eq_error hy
        | ok yMap =>
            rw [hx, hy] at failed
            cases failed

/-- The components of a place of a created grid, inside the grid or outside, are the coordinates of
its column and of its row. -/
theorem pixelCoordinate_coord {width height : UInt32} {g : Grid α}
    (created : create width height = .ok g) (x y : UInt32) :
    pixelCoordinate x width = .ok (g.coord x y).x ∧
      pixelCoordinate y height = .ok (g.coord x y).y := by
  obtain ⟨-, hx, hy, -, -⟩ := create_eq_ok_iff.mp created
  rw [axisMap_apply, axisMap_apply, hx, hy]
  exact ⟨rfl, rfl⟩

/-- An axis has a map if its extent compares as different from zero. -/
theorem axisMap_of_apart {extent : UInt32}
    (apart : Scalar.eq (Scalar.ofInt extent.toNat : α) (Scalar.ofInt 0) = false) :
    axisMap extent = .ok ⟨Scalar.ofInt 0, evalMin,
      (evalMax - evalMin) / (Scalar.ofInt extent.toNat - Scalar.ofInt 0 : α)⟩ := by
  rw [axisMap, AffineMap.between, apart]
  rfl

/-- If extents compare as different from zero, every size without an empty side has a grid. -/
theorem exists_create {width height : UInt32} (hw : width ≠ 0) (hh : height ≠ 0)
    (apart : ∀ extent : UInt32, extent ≠ 0 →
      Scalar.eq (Scalar.ofInt extent.toNat : α) (Scalar.ofInt 0) = false) :
    ∃ g : Grid α, create width height = .ok g :=
  ⟨⟨width, height, _, _⟩, create_eq_ok_iff.mpr ⟨⟨hw, hh⟩, axisMap_of_apart (apart width hw),
    axisMap_of_apart (apart height hh), rfl, rfl⟩⟩

/-- Over doubles every size without an empty side has a grid. -/
theorem exists_create_double {width height : UInt32} (hw : width ≠ 0) (hh : height ≠ 0) :
    ∃ g : Grid Float, create width height = .ok g := by
  refine exists_create hw hh ?_
  intro extent nonempty
  have nonzero : extent.toNat ≠ 0 := fun h => nonempty (UInt32.toNat_inj.mp h)
  have small : extent.toNat.log2 < 53 :=
    (Nat.log2_lt nonzero).mpr (Nat.lt_trans extent.toNat_lt (by decide))
  exact Double.eq_zero_ofInt (Nat.pos_of_ne_zero nonzero) (Nat.le_of_lt_succ small)

/-! ### The order of the places -/

/-- The rows, one after the other, are the points in order. -/
theorem coords_eq_map_point (g : Grid α) : g.coords = (List.range g.size).map g.point := by
  rw [size, Nat.mul_comm]
  exact flatMap_range_map g.height.toNat g.width.toNat
    fun i j => g.coord (UInt32.ofNat i) (UInt32.ofNat j)

@[simp] theorem length_coords (g : Grid α) : g.coords.length = g.size := by
  rw [coords_eq_map_point, List.length_map, List.length_range]

omit [Scalar α] in
/-- The position of a pixel in row order lies below the number of pixels. -/
theorem position_lt_size (g : Grid α) {x y : UInt32} (hx : x < g.width) (hy : y < g.height) :
    y.toNat * g.width.toNat + x.toNat < g.size :=
  position_lt (UInt32.lt_iff_toNat_lt.mp hx) (UInt32.lt_iff_toNat_lt.mp hy)

/-- The point at the position of a pixel is the place of that pixel. -/
theorem point_position (g : Grid α) {x : UInt32} (hx : x < g.width) (y : UInt32) :
    g.point (y.toNat * g.width.toNat + x.toNat) = g.coord x y := by
  have column : x.toNat < g.width.toNat := UInt32.lt_iff_toNat_lt.mp hx
  have positive : 0 < g.width.toNat := Nat.lt_of_le_of_lt (Nat.zero_le _) column
  rw [point, Nat.mul_comm, Nat.mul_add_mod, Nat.mod_eq_of_lt column, Nat.mul_add_div positive,
    Nat.div_eq_of_lt column, Nat.add_zero, UInt32.ofNat_toNat, UInt32.ofNat_toNat]

/-- The place of a pixel stands at the position of the pixel. -/
theorem getElem?_coords (g : Grid α) {x y : UInt32} (hx : x < g.width) (hy : y < g.height) :
    g.coords[y.toNat * g.width.toNat + x.toNat]? = some (g.coord x y) := by
  rw [coords_eq_map_point, List.getElem?_map, List.getElem?_range (g.position_lt_size hx hy),
    Option.map_some, point_position g hx y]

/-- The places are those of the pixels inside the grid. -/
theorem mem_coords_iff (g : Grid α) {p : Point α} :
    p ∈ g.coords ↔ ∃ x y, x < g.width ∧ y < g.height ∧ g.coord x y = p := by
  simp only [coords, row, List.mem_flatMap, List.mem_map, List.mem_range]
  constructor
  · rintro ⟨j, hj, i, hi, rfl⟩
    refine ⟨UInt32.ofNat i, UInt32.ofNat j, ?_, ?_, rfl⟩
    · rwa [UInt32.lt_iff_toNat_lt, UInt32.toNat_ofNat_of_lt' (Nat.lt_trans hi g.width.toNat_lt)]
    · rwa [UInt32.lt_iff_toNat_lt, UInt32.toNat_ofNat_of_lt' (Nat.lt_trans hj g.height.toNat_lt)]
  · rintro ⟨x, y, hx, hy, rfl⟩
    refine ⟨y.toNat, UInt32.lt_iff_toNat_lt.mp hy, x.toNat, UInt32.lt_iff_toNat_lt.mp hx, ?_⟩
    rw [UInt32.ofNat_toNat, UInt32.ofNat_toNat]

/-! ### The values of a formula -/

@[simp] theorem size_evaluate (g : Grid α) (e : Expr) : (g.evaluate e).size = g.size := by
  rw [evaluate, List.size_toArray, List.length_map, length_coords]

/-- The value at the position of a pixel is the value of the formula at its place. -/
theorem getElem?_evaluate (g : Grid α) (e : Expr) {x y : UInt32} (hx : x < g.width)
    (hy : y < g.height) :
    (g.evaluate e)[y.toNat * g.width.toNat + x.toNat]? = some (e.eval (g.coord x y)) := by
  rw [evaluate, List.getElem?_toArray, List.getElem?_map, getElem?_coords g hx hy,
    Option.map_some]

end Grid

/-- The values of a formula over a size are its values over the grid of that size. -/
theorem evaluateGrid_of_create {α : Type} [Scalar α] (e : Expr) {width height : UInt32}
    {g : Grid α} (created : Grid.create width height = .ok g) :
    evaluateGrid e width height = .ok (g.evaluate e) := by
  rw [evaluateGrid, created]
  rfl

end FormulaArt
