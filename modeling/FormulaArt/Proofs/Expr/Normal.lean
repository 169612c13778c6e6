import FormulaArt.Proofs.Expr.Measures

/-!
# Normal formulas

The formulas that a builder can make out of operators on pairs.  In them a coordinate is never a
formula by itself: it is what a unary operator reads of the point, or it is one of the two that a
binary operator reads, the horizontal one on the left and the vertical one on the right.

## Main definitions

* `Expr.IsNormal` — the normal formulas

## Main statements

* `Expr.IsNormal.leaf`, `Expr.IsNormal.compose` — both ways of applying an operator make them
-/

namespace FormulaArt

namespace Expr

/-- A formula whose coordinates occur only as what an operator reads of the point. -/
inductive IsNormal : Expr → Prop
  | unaryCoordinate (kind : UnaryKind) (axis : Axis) : IsNormal (unary kind (coordinate axis))
  | binaryCoordinates (kind : BinaryKind) :
      IsNormal (binary kind (coordinate .x) (coordinate .y))
  | unary (kind : UnaryKind) {child : Expr} (h : IsNormal child) : IsNormal (unary kind child)
  | binary (kind : BinaryKind) {left right : Expr} (hl : IsNormal left) (hr : IsNormal right) :
      IsNormal (binary kind left right)

namespace IsNormal

theorem leaf (op : Operator) : IsNormal (Expr.leaf op) := by
  cases op with
  | unary kind axis => exact unaryCoordinate kind axis
  | binary kind => exact binaryCoordinates kind

theorem compose (op : Operator) {left right : Expr} (hl : IsNormal left) (hr : IsNormal right) :
    IsNormal (Expr.compose op left right) := by
  match op with
  | .unary kind .x => exact unary kind hl
  | .unary kind .y => exact unary kind hr
  | .binary kind => exact binary kind hl hr

/-- A normal formula has an operator on every way. -/
theorem one_le_minDepth {e : Expr} (h : IsNormal e) : 1 ≤ e.minDepth := by
  cases h with
  | unaryCoordinate => exact Nat.le_add_right 1 _
  | binaryCoordinates => exact Nat.le_add_right 1 _
  | unary => exact Nat.le_add_right 1 _
  | binary => exact Nat.le_add_right 1 _

theorem one_le_depth {e : Expr} (h : IsNormal e) : 1 ≤ e.depth :=
  Nat.le_trans h.one_le_minDepth e.minDepth_le_depth

end IsNormal

end Expr

end FormulaArt
