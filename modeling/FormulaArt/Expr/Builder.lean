import FormulaArt.Expr.Basic
import FormulaArt.Fault
import FormulaArt.Random.Source

/-!
# Building random formulas

The builder grows a formula from the root. At each node it draws an operator, and then decides
whether to go on: it must as long as some way is still too short, it may not at the greatest depth,
and in between a coin decides. A unary operator reads one of the two formulas below it, yet both are
grown, so that the draws do not depend on which operator was drawn.

## Main definitions

* `DepthRange` — the least and the greatest number of operators on a way to a coordinate
* `Expr.grow` — the recursion, on bounds that are at least one
* `Expr.build` — the builder: it refuses a range that is upside down as given, and only then raises
  both bounds to at least one

## Design notes

The recursion is on the greatest depth alone. The least depth sinks with it until it reaches one and
then stays there.
-/

namespace FormulaArt

/-- The number of operators that a way from the root to a coordinate may have. -/
structure DepthRange where
  min : Int32
  max : Int32
deriving Repr, DecidableEq

namespace DepthRange

/-- The least depth, raised to at least one. -/
def least (range : DepthRange) : Nat :=
  (Max.max 1 range.min.toInt).toNat

/-- The greatest depth, raised to at least one. -/
def greatest (range : DepthRange) : Nat :=
  (Max.max 1 range.max.toInt).toNat

end DepthRange

namespace Expr

variable {σ : Type} [RandomSource σ]

/-- Draw an operator. -/
def drawOperator : ExceptT StrayIndex (StateM σ) Operator :=
  Operator.ofIndex <$> RandomSource.pick Operator.count

/-- Decide whether to go on below a node that is not at the greatest depth: it is settled while the
least depth is not reached, and a coin decides afterwards. -/
def goesOn (least : Nat) : StateM σ Bool :=
  if 1 < least then pure true else RandomSource.coin

/-- The least depth that is left one node further down. -/
def leastBelow (least : Nat) : Nat :=
  max (least - 1) 1

/-- Grow a formula all of whose ways have between `least` and `greatest` operators. An index outside
the table of operators ends the growth where it is drawn. -/
def grow (least : Nat) : Nat → ExceptT StrayIndex (StateM σ) Expr
  | 0 => leaf <$> drawOperator
  | 1 => leaf <$> drawOperator
  | greatest + 2 => do
    let op ← drawOperator
    if ← (goesOn least : StateM σ Bool) then
      let left ← grow (leastBelow least) (greatest + 1)
      let right ← grow (leastBelow least) (greatest + 1)
      return compose op left right
    else
      return leaf op

/-- Build a random formula within a range of depths. A range that is upside down is refused before
anything is drawn. -/
def build {α : Type} (range : DepthRange) : ExceptT (Fault α) (StateM σ) Expr := do
  if range.max < range.min then
    throw (.depthRange range.min range.max)
  (grow range.least range.greatest).adapt .strayIndex

end Expr

end FormulaArt
