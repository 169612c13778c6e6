import FormulaArt.Expr.Operator

/-!
# Formulas

A formula is a tree over the two coordinates of a point. The builder thinks of a formula as operators
that act on pairs; `leaf` and `compose` turn that picture into trees, in which the half of a pair
that a unary operator does not read is left out.

## Main definitions

* `Expr` — formulas
* `Expr.leaf`, `Expr.compose` — an operator on the point itself, and on a pair of formulas
* `Expr.eval` — the value of a formula at a point
* `Expr.depth`, `Expr.minDepth`, `Expr.nodeCount` — its measures
* `Expr.pathLengths` — the number of operators on each way from the root to a coordinate
-/

namespace FormulaArt

/-- A formula. -/
inductive Expr where
  | coordinate (axis : Axis)
  | unary (kind : UnaryKind) (child : Expr)
  | binary (kind : BinaryKind) (left right : Expr)
deriving Repr, DecidableEq

namespace Expr

/-- An operator applied to the point. -/
def leaf : Operator → Expr
  | .unary kind axis => unary kind (coordinate axis)
  | .binary kind => binary kind (coordinate .x) (coordinate .y)

/-- An operator applied to the pair of two formulas. A unary operator keeps the formula that its axis
selects and drops the other, which could never influence the value. -/
def compose (op : Operator) (left right : Expr) : Expr :=
  match op with
  | .unary kind .x => unary kind left
  | .unary kind .y => unary kind right
  | .binary kind => binary kind left right

/-- The value of a formula at a point. -/
@[specialize] def eval {α : Type} [Scalar α] (e : Expr) (p : Point α) : α :=
  match e with
  | coordinate axis => p.component axis
  | unary kind child => kind.apply (child.eval p)
  | binary kind left right => kind.apply (left.eval p) (right.eval p)

/-- The number of operators on the longest way from the root to a coordinate. -/
def depth : Expr → Nat
  | coordinate _ => 0
  | unary _ child => 1 + child.depth
  | binary _ left right => 1 + max left.depth right.depth

/-- The number of operators on the shortest way from the root to a coordinate. -/
def minDepth : Expr → Nat
  | coordinate _ => 0
  | unary _ child => 1 + child.minDepth
  | binary _ left right => 1 + min left.minDepth right.minDepth

/-- The number of nodes, coordinates included. -/
def nodeCount : Expr → Nat
  | coordinate _ => 1
  | unary _ child => 1 + child.nodeCount
  | binary _ left right => 1 + left.nodeCount + right.nodeCount

/-- For each way from the root to a coordinate, from left to right, the number of operators on it. -/
def pathLengths : Expr → List Nat
  | coordinate _ => [0]
  | unary _ child => child.pathLengths.map (· + 1)
  | binary _ left right => (left.pathLengths ++ right.pathLengths).map (· + 1)

@[simp] theorem eval_leaf {α : Type} [Scalar α] (op : Operator) (p : Point α) :
    (leaf op).eval p = op.apply p := by
  cases op <;> rfl

@[simp] theorem eval_compose {α : Type} [Scalar α] (op : Operator) (left right : Expr)
    (p : Point α) : (compose op left right).eval p = op.apply ⟨left.eval p, right.eval p⟩ := by
  match op with
  | .unary _ .x | .unary _ .y | .binary _ => rfl

end Expr

end FormulaArt
