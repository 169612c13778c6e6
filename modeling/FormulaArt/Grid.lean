import FormulaArt.AffineMap
import FormulaArt.Expr.Basic

/-!
# Pixel grids

A rectangle of pixels laid over the evaluation domain: each axis has its own affine map from pixel
indices to coordinates, resolved once for the grid.

## Main definitions

* `Grid.create` — the grid of a size; neither side may be empty
* `Grid.coord` — the place of a pixel
* `Grid.coords` — the places of all pixels, row by row
* `Grid.point` — the place of the pixel that is `k`-th in that order
* `Grid.evaluate` — the values of a formula at all pixels
-/

namespace FormulaArt

/-- A rectangle of pixels over the evaluation domain. -/
structure Grid (α : Type) where
  width : UInt32
  height : UInt32
  /-- From column indices to horizontal coordinates. -/
  xMap : AffineMap α
  /-- From row indices to vertical coordinates. -/
  yMap : AffineMap α

namespace Grid

variable {α : Type} [Scalar α]

/-- The map of an axis of `extent` pixels. -/
def axisMap (extent : UInt32) : Except (Fault α) (AffineMap α) :=
  AffineMap.between (Scalar.ofInt 0) (Scalar.ofInt extent.toNat) evalMin evalMax

/-- The grid of a size. -/
def create (width height : UInt32) : Except (Fault α) (Grid α) :=
  if width = 0 ∨ height = 0 then
    .error (.dimensions width height)
  else do
    let xMap ← axisMap width
    let yMap ← axisMap height
    return { width, height, xMap, yMap }

/-- The number of pixels. -/
def size (g : Grid α) : Nat :=
  g.width.toNat * g.height.toNat

/-- Whether there are no pixels. -/
def isEmpty (g : Grid α) : Bool :=
  g.size == 0

/-- The place of the pixel in column `i` and row `j`, which may lie outside the grid. -/
@[specialize] def coord (g : Grid α) (i j : UInt32) : Point α where
  x := g.xMap.apply (Scalar.ofInt i.toNat)
  y := g.yMap.apply (Scalar.ofInt j.toNat)

/-- The places of the pixels of one row, from left to right. -/
@[specialize] def row (g : Grid α) (j : UInt32) : List (Point α) :=
  (List.range g.width.toNat).map fun i => g.coord (UInt32.ofNat i) j

/-- The places of all pixels, row by row. -/
@[specialize] def coords (g : Grid α) : List (Point α) :=
  (List.range g.height.toNat).flatMap fun j => g.row (UInt32.ofNat j)

/-- The place of the pixel that is `k`-th in row order. -/
def point (g : Grid α) (k : Nat) : Point α :=
  g.coord (UInt32.ofNat (k % g.width.toNat)) (UInt32.ofNat (k / g.width.toNat))

/-- The places of the first pixels in row order, without listing the others. -/
def firstCoords (g : Grid α) (n : Nat) : List (Point α) :=
  (List.range (min n g.size)).map g.point

/-- The values of a formula at all pixels, row by row. -/
@[specialize] def evaluate (g : Grid α) (e : Expr) : Array α :=
  (g.coords.map e.eval).toArray

end Grid

/-- The values of a formula over a grid of a size, row by row. -/
@[specialize] def evaluateGrid {α : Type} [Scalar α] (e : Expr) (width height : UInt32) :
    Except (Fault α) (Array α) :=
  (Grid.create width height).map fun g => g.evaluate e

end FormulaArt
