import FormulaArt.Proofs.Builder.Growth

/-!
# Formulas without the halves that nothing reads

A builder draws operators on pairs and puts one below the other.  Written down as it is drawn, this is
a tree in which every inner operator has two trees below it, whichever of them it reads.  The formula
of such a tree leaves out what a unary operator does not read.  This module shows that nothing is lost
by that: the formula has the value of the tree, and leaving out happens after the draws, so that a
builder of formulas draws exactly what a builder of trees draws.

## Main definitions

* `PairTree` — operators on pairs, with both halves of every pair
* `PairTree.eval` — the value of a tree, in which every operator acts on a pair
* `PairTree.grow`, `PairTree.build` — the builder that keeps both halves
* `PairTree.toExpr` — the formula of a tree

## Main statements

* `PairTree.eval_toExpr` — the formula has the value of the tree
* `PairTree.map_toExpr_build` — building a formula is building a tree and taking its formula
* `PairTree.exists_build_eval_eq` — both builders return, with equal values and equal final states

## Design notes

The two builders are compared as actions on the source and not through their results.  The equation
therefore holds with any source, one that strays from the table of operators included, in which case
both builders stop at the same draw.
-/

namespace FormulaArt

/-- Operators on pairs, one below the other. -/
inductive PairTree where
  /-- An operator on the point. -/
  | leaf (op : Operator)
  /-- An operator on the pair of what two trees stand for. -/
  | node (op : Operator) (left right : PairTree)
deriving Repr, DecidableEq

namespace PairTree

/-! ### Trees and their formulas -/

/-- The value of a tree at a point.  Every operator is applied to a pair: at the bottom to the point,
and above to the values on the left and on the right. -/
def eval {α : Type} [Scalar α] (t : PairTree) (p : Point α) : α :=
  match t with
  | leaf op => op.apply p
  | node op left right => op.apply ⟨left.eval p, right.eval p⟩

/-- The formula of a tree, in which a unary operator keeps only the half that it reads. -/
def toExpr : PairTree → Expr
  | leaf op => Expr.leaf op
  | node op left right => Expr.compose op left.toExpr right.toExpr

/-- The formula of a tree has the value of the tree, over any scalars. -/
theorem eval_toExpr {α : Type} [Scalar α] (t : PairTree) (p : Point α) :
    t.toExpr.eval p = t.eval p := by
  induction t with
  | leaf op => rw [toExpr, eval, Expr.eval_leaf]
  | node op left right ihl ihr => rw [toExpr, eval, Expr.eval_compose, ihl, ihr]

/-! ### The two builders -/

section Build

variable {σ : Type} [RandomSource σ]

/-- Grow a tree all of whose ways have between `least` and `greatest` operators, with the draws of
`Expr.grow`. -/
def grow (least : Nat) : Nat → ExceptT StrayIndex (StateM σ) PairTree
  | 0 => leaf <$> Expr.drawOperator
  | 1 => leaf <$> Expr.drawOperator
  | greatest + 2 => do
    let op ← Expr.drawOperator
    if ← (Expr.goesOn least : StateM σ Bool) then
      let left ← grow (Expr.leastBelow least) (greatest + 1)
      let right ← grow (Expr.leastBelow least) (greatest + 1)
      return node op left right
    else
      return leaf op

/-- Build a random tree within a range of depths, which is refused if it is upside down. -/
def build {α : Type} (range : DepthRange) : ExceptT (Fault α) (StateM σ) PairTree := do
  if range.max < range.min then
    throw (.depthRange range.min range.max)
  (grow range.least range.greatest).adapt .strayIndex

/-- Growing a formula is growing a tree and taking its formula. -/
theorem map_toExpr_grow (least greatest : Nat) :
    (toExpr <$> grow least greatest : ExceptT StrayIndex (StateM σ) Expr)
      = Expr.grow least greatest := by
  induction least, greatest using Expr.grow.induct with
  | case1 least | case2 least =>
      rw [grow, Expr.grow, Functor.map_map]
      rfl
  | case3 least greatest ih =>
      rw [grow, Expr.grow, map_bind]
      refine bind_congr fun op => ?_
      rw [map_bind]
      refine bind_congr fun on => ?_
      -- both builders have drawn the same so far, and now go on or stop alike
      cases on with
      | false => rfl
      | true =>
          rw [if_pos rfl, if_pos rfl, ← ih, map_bind, bind_map_left]
          refine bind_congr fun left => ?_
          rw [map_bind, bind_map_left]
          rfl

/-- Building a formula is building a tree and taking its formula, with any source and any range. -/
theorem map_toExpr_build {α : Type} (range : DepthRange) :
    (toExpr <$> build range : ExceptT (Fault α) (StateM σ) Expr) = Expr.build range := by
  rw [build, Expr.build]
  split
  · rfl
  · rw [← map_toExpr_grow, adapt_map]

/-- A build within a range that is not upside down is the growth between its raised bounds. -/
theorem build_of_le {α : Type} {range : DepthRange} (ordered : range.min ≤ range.max) {s s' : σ}
    {t : PairTree}
    (run : (grow range.least range.greatest : ExceptT StrayIndex (StateM σ) PairTree) s
      = (.ok t, s')) :
    (build range : ExceptT (Fault α) (StateM σ) PairTree) s = (.ok t, s') := by
  rw [build, if_neg (Int32.not_lt.mpr ordered)]
  exact run_adapt_of_ok Fault.strayIndex run

/-- **What no operator reads has no influence.**  Within a range that is not upside down, with any
source in the table, the builder of formulas and the builder that keeps both halves of every pair both
return, the formula has the value of the tree at every point, over any scalars, and both builders leave
the source in the same state. -/
theorem exists_build_eval_eq {α : Type} {range : DepthRange} (ordered : range.min ≤ range.max) {s : σ}
    (inTable : RandomSource.InTable s) :
    ∃ (e : Expr) (t : PairTree) (s' : σ),
      (Expr.build range : ExceptT (Fault α) (StateM σ) Expr) s = (.ok e, s') ∧
      (build range : ExceptT (Fault α) (StateM σ) PairTree) s = (.ok t, s') ∧
      ∀ {β : Type} [Scalar β] (p : Point β), e.eval p = t.eval p := by
  obtain ⟨e, s', built, -⟩ := Expr.exists_build (α := α) ordered inTable
  -- the formula is that of a tree, which the other builder returns from the same draws
  rw [← map_toExpr_build] at built
  obtain ⟨t, drawn, rfl⟩ := of_run_map_eq_ok built
  rw [map_toExpr_build] at built
  exact ⟨t.toExpr, t, s', built, drawn, fun p => t.eval_toExpr p⟩

end Build

/-- A range whose least depth is negative, and a source whose coins and operators are read off three
words. -/
theorem exists_build_eval_eq_of_tape :
    ∃ (e : Expr) (t : PairTree) (s' : Tape),
      (Expr.build ⟨-3, 4⟩ : ExceptT (Fault Float) (StateM Tape) Expr)
          (Tape.ofArray #[11068046444225730969, 9223372036854775808, 0]) = (.ok e, s') ∧
      (build ⟨-3, 4⟩ : ExceptT (Fault Float) (StateM Tape) PairTree)
          (Tape.ofArray #[11068046444225730969, 9223372036854775808, 0]) = (.ok t, s') ∧
      ∀ p : Point Float, e.eval p = t.eval p := by
  obtain ⟨e, t, s', built, drawn, values⟩ :=
    @exists_build_eval_eq Tape _ Float ⟨-3, 4⟩ (by decide) _
      (Tape.inTable (Tape.ofArray #[11068046444225730969, 9223372036854775808, 0]))
  exact ⟨e, t, s', built, drawn, fun p => values p⟩

end PairTree

end FormulaArt
