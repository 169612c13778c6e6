import FormulaArt.Proofs.Builder.PairTree
import Mathlib.Algebra.Order.Ring.Nat

/-!
# The calls of the recursion

The builder counts with natural numbers.  A builder that counts with machine integers subtracts one from both
bounds at each level, and what it passes on is right only if neither subtraction wraps around.  This module
writes down such a recursion, which returns a record of all its calls, and shows that it is the recursion of
the builder: it draws the same, and the operators on record are those of the formula that is built.  What there
is to say about the recursion can then be read off the record: what each call receives, how deeply calls are
nested, and how many there are.

## Main definitions

* `DepthRange.IsProper`, `DepthRange.below` — the bounds that calls receive, and those that they pass on
* `Calls` — a call with its bounds, its operator and the calls that it makes
* `Calls.grow` — the recursion on machine integers
* `Calls.IsFrom` — the records that the recursion can leave, whatever the answers

## Main statements

* `Calls.map_operators_grow` — without the bounds it is the recursion that keeps both halves of every pair
* `Calls.isFrom_of_grow` — what is recorded
* `Calls.IsFrom.isProper`, `Calls.IsFrom.max_lt` — what calls receive and pass on
* `Calls.IsFrom.nesting_le`, `Calls.IsFrom.length_received_lt` — how deeply they are nested, and how many
  there are
* `Calls.exists_build_eq_of_calls` — all of it, for a build

## Design notes

A call draws one operator, so the operators of the calls, put one below the other as the calls are, form the
tree of the builder that keeps both halves (`PairTree`).  A formula would not do in its place, since it drops
halves, and with them calls.

The recursion ends because the greatest depth falls, which needs nothing but that it is above one where calls
are made.  That the bounds stay in order is an invariant of its own: the least depth stops falling at one,
while the greatest goes on.
-/

namespace FormulaArt

/-! ### Bounds as machine integers -/

namespace DepthRange

/-- The bounds are at least one, and in order. -/
structure IsProper (bounds : DepthRange) : Prop where
  one_le_min : 1 ≤ bounds.min
  min_le_max : bounds.min ≤ bounds.max

/-- The bounds that are passed on.  The subtractions are those of machine integers and may wrap around. -/
def below (bounds : DepthRange) : DepthRange where
  min := Max.max 1 (bounds.min - 1)
  max := bounds.max - 1

/-- From one on, machine integers have a number before them. -/
theorem toInt_sub_one {n : Int32} (positive : 1 ≤ n) : (n - 1).toInt = n.toInt - 1 := by
  have small := n.toInt_lt
  rw [one_le_iff_toInt] at positive
  rw [Int32.toInt_sub, Int32.toInt_one]
  exact Int.bmod_eq_of_le (by omega) (by omega)

theorem isProper_raised {range : DepthRange} (ordered : range.min ≤ range.max) :
    range.raised.IsProper :=
  ⟨range.one_le_min_raised, min_raised_le_max_raised ordered⟩

section Below

variable {bounds : DepthRange}

theorem IsProper.one_le_max (proper : bounds.IsProper) : 1 ≤ bounds.max :=
  Int32.le_trans proper.one_le_min proper.min_le_max

theorem toInt_max_below (deep : 1 < bounds.max) : bounds.below.max.toInt = bounds.max.toInt - 1 :=
  toInt_sub_one (Int32.le_of_lt deep)

theorem toInt_min_below (proper : bounds.IsProper) :
    bounds.below.min.toInt = Max.max 1 (bounds.min.toInt - 1) := by
  rw [below, toInt_max_one, toInt_sub_one proper.one_le_min]

/-- The greatest depth that is passed on is smaller. -/
theorem max_below_lt (deep : 1 < bounds.max) : bounds.below.max < bounds.max := by
  rw [Int32.lt_iff_toInt_lt, toInt_max_below deep]
  omega

/-- Proper bounds are passed on as proper bounds. -/
theorem IsProper.below (proper : bounds.IsProper) (deep : 1 < bounds.max) :
    bounds.below.IsProper := by
  have ordered := Int32.le_iff_toInt_le.mp proper.min_le_max
  constructor
  · rw [one_le_iff_toInt, toInt_min_below proper]
    exact Int.le_max_left _ _
  · rw [Int32.le_iff_toInt_le, toInt_min_below proper, toInt_max_below deep]
    rw [one_lt_iff_toInt] at deep
    omega

/-- Where calls are made, the greatest depth that is allowed falls by one. -/
theorem greatest_below (deep : 1 < bounds.max) : bounds.greatest = bounds.below.greatest + 1 := by
  have smaller := toInt_max_below deep
  rw [one_lt_iff_toInt] at deep
  rw [greatest, greatest, smaller]
  omega

/-- The least depth that is allowed falls by one, down to one. -/
theorem least_below (proper : bounds.IsProper) :
    bounds.below.least = Expr.leastBelow bounds.least := by
  have positive := one_le_iff_toInt.mp proper.one_le_min
  rw [least, least, Expr.leastBelow, toInt_min_below proper]
  omega

theorem one_lt_least_iff : 1 < bounds.least ↔ 1 < bounds.min := by
  rw [one_lt_iff_toInt, least]
  omega

theorem greatest_of_not_deep (shallow : ¬ 1 < bounds.max) : bounds.greatest = 1 := by
  rw [one_lt_iff_toInt] at shallow
  rw [greatest]
  omega

end Below

end DepthRange

/-! ### Calls -/

/-- A call with the bounds that it receives, the operator that it draws, and the calls that it makes. -/
inductive Calls where
  /-- A call that makes no others. -/
  | last (bounds : DepthRange) (op : Operator)
  /-- A call that makes two others, one after the other. -/
  | split (bounds : DepthRange) (op : Operator) (first second : Calls)
deriving Repr, DecidableEq

namespace Calls

/-- The operators that are drawn, one below the other as the calls are. -/
def operators : Calls → PairTree
  | last _ op => .leaf op
  | split _ op first second => .node op first.operators second.operators

/-- The bounds that the outermost call receives. -/
def bounds : Calls → DepthRange
  | last bounds _ => bounds
  | split bounds _ _ _ => bounds

/-- The bounds that the calls receive, in the order in which the calls are made. -/
def received : Calls → List DepthRange
  | last bounds _ => [bounds]
  | split bounds _ first second => bounds :: (first.received ++ second.received)

/-- For each call that is made by another one, the bounds of its caller and its own. -/
def passed : Calls → List (DepthRange × DepthRange)
  | last .. => []
  | split bounds _ first second =>
    (bounds, first.bounds) :: (bounds, second.bounds) :: (first.passed ++ second.passed)

/-- The number of calls that are under way at the same time, at most. -/
def nesting : Calls → Nat
  | last .. => 1
  | split _ _ first second => 1 + max first.nesting second.nesting

/-- The calls that the recursion can make when it starts with some bounds. -/
inductive IsFrom : Calls → DepthRange → Prop
  | last (bounds : DepthRange) (op : Operator) : IsFrom (last bounds op) bounds
  | split {bounds : DepthRange} (op : Operator) {first second : Calls} (deep : 1 < bounds.max)
      (hl : IsFrom first bounds.below) (hr : IsFrom second bounds.below) :
      IsFrom (split bounds op first second) bounds

namespace IsFrom

variable {calls : Calls} {start : DepthRange}

theorem bounds_eq (h : calls.IsFrom start) : calls.bounds = start := by
  cases h with
  | last => rfl
  | split => rfl

/-- From proper bounds on, all calls receive proper bounds. -/
theorem isProper (h : calls.IsFrom start) (proper : start.IsProper) {bounds : DepthRange}
    (member : bounds ∈ calls.received) : bounds.IsProper := by
  induction h with
  | last =>
      rw [received, List.mem_singleton] at member
      rw [member]
      exact proper
  | split op deep _ _ ihl ihr =>
      rw [received, List.mem_cons, List.mem_append] at member
      rcases member with rfl | member | member
      · exact proper
      · exact ihl (proper.below deep) member
      · exact ihr (proper.below deep) member

/-- A call receives a smaller greatest depth than its caller. -/
theorem max_lt (h : calls.IsFrom start) {caller callee : DepthRange}
    (member : (caller, callee) ∈ calls.passed) : callee.max < caller.max := by
  induction h with
  | last => cases member
  | split op deep hl hr ihl ihr =>
      simp only [passed, List.mem_cons, List.mem_append, Prod.mk.injEq] at member
      rcases member with ⟨rfl, rfl⟩ | ⟨rfl, rfl⟩ | member | member
      · rw [hl.bounds_eq]
        exact DepthRange.max_below_lt deep
      · rw [hr.bounds_eq]
        exact DepthRange.max_below_lt deep
      · exact ihl member
      · exact ihr member

/-- Calls are nested as deeply as the greatest depth allows, at most. -/
theorem nesting_le (h : calls.IsFrom start) : calls.nesting ≤ start.greatest := by
  induction h with
  | last bounds op => exact bounds.one_le_greatest
  | split op deep _ _ ihl ihr =>
      have falls := DepthRange.greatest_below deep
      rw [nesting]
      omega

/-- One level further up there are twice as many calls, and one more, at most. -/
theorem length_received_lt (h : calls.IsFrom start) :
    calls.received.length < 2 ^ start.greatest := by
  induction h with
  | last bounds op => exact Nat.one_lt_two_pow (Nat.ne_of_gt bounds.one_le_greatest)
  | split op deep _ _ ihl ihr =>
      rw [DepthRange.greatest_below deep, pow_succ, received, List.length_cons, List.length_append]
      omega

end IsFrom

/-! ### The recursion -/

section Grow

variable {σ : Type} [RandomSource σ]

/-- Grow within bounds that are machine integers, and return the calls. -/
def grow (bounds : DepthRange) : ExceptT StrayIndex (StateM σ) Calls := do
  let op ← Expr.drawOperator
  if _ : 1 < bounds.max then
    if ← (if 1 < bounds.min then pure true else RandomSource.coin : StateM σ Bool) then
      let first ← grow bounds.below
      let second ← grow bounds.below
      return split bounds op first second
    else
      return last bounds op
  else
    return last bounds op
termination_by bounds.greatest
decreasing_by
  all_goals
    have := DepthRange.greatest_below ‹1 < bounds.max›
    omega

/-- From proper bounds on, the recursion on machine integers draws what the builder draws that keeps both halves
of every pair, with any source, and its calls draw the operators which that one returns. -/
theorem map_operators_grow {bounds : DepthRange} (proper : bounds.IsProper) :
    (operators <$> grow bounds : ExceptT StrayIndex (StateM σ) PairTree)
      = PairTree.grow bounds.least bounds.greatest := by
  induction bounds using grow.induct with
  | case1 bounds ih =>
      rw [grow, map_bind]
      by_cases deep : 1 < bounds.max
      · -- one level of both recursions: the bounds that they pass on are the same
        have positive := DepthRange.one_le_greatest bounds.below
        obtain ⟨n, falls⟩ : ∃ n, bounds.below.greatest = n + 1 := Nat.exists_eq_add_of_le' positive
        have below : (operators <$> grow bounds.below : ExceptT StrayIndex (StateM σ) PairTree)
            = PairTree.grow (Expr.leastBelow bounds.least) (n + 1) := by
          rw [ih deep (proper.below deep), DepthRange.least_below proper, falls]
        rw [DepthRange.greatest_below deep, falls, PairTree.grow]
        refine bind_congr fun op => ?_
        simp only [dif_pos deep, Expr.goesOn, DepthRange.one_lt_least_iff, map_bind]
        refine bind_congr fun on => ?_
        cases on with
        | false => rfl
        | true =>
            rw [if_pos rfl, if_pos rfl, ← below, map_bind, bind_map_left]
            refine bind_congr fun first => ?_
            rw [map_bind, bind_map_left]
            rfl
      · rw [DepthRange.greatest_of_not_deep deep, PairTree.grow, map_eq_pure_bind]
        refine bind_congr fun op => ?_
        simp only [dif_neg deep]
        rfl

/-- Whatever a source answers, what is returned are calls from the bounds given. -/
theorem isFrom_of_grow {bounds : DepthRange} {s s' : σ} {calls : Calls}
    (run : (grow bounds : ExceptT StrayIndex (StateM σ) Calls) s = (.ok calls, s')) :
    calls.IsFrom bounds := by
  induction bounds using grow.induct generalizing s s' calls with
  | case1 bounds ih =>
      rw [grow] at run
      obtain ⟨op, t, -, run⟩ := of_run_bind_eq_ok run
      split at run
      · rename_i deep
        obtain ⟨on, u, -, run⟩ := of_run_bind_eq_ok run
        cases on with
        | false =>
            cases run
            exact .last bounds op
        | true =>
            obtain ⟨first, v, runl, run⟩ := of_run_bind_eq_ok run
            obtain ⟨second, w, runr, run⟩ := of_run_bind_eq_ok run
            cases run
            exact .split op deep (ih deep runl) (ih deep runr)
      · cases run
        exact .last bounds op

/-- Within a range that is not upside down, with a source in the table, the recursion on machine integers
returns, and so do both builders, with the operators of its calls and with their formula. -/
theorem exists_grow_raised {α : Type} {range : DepthRange} (ordered : range.min ≤ range.max) {s : σ}
    (inTable : RandomSource.InTable s) :
    ∃ (calls : Calls) (s' : σ),
      (grow range.raised : ExceptT StrayIndex (StateM σ) Calls) s = (.ok calls, s') ∧
      (PairTree.build range : ExceptT (Fault α) (StateM σ) PairTree) s = (.ok calls.operators, s') ∧
      (Expr.build range : ExceptT (Fault α) (StateM σ) Expr) s
        = (.ok calls.operators.toExpr, s') := by
  obtain ⟨answers, e, s', -, run, -⟩ :=
    (Expr.growth range.least range.greatest).exists_perform_eq inTable
  have built := Expr.build_of_le (α := α) ordered run
  have same := map_operators_grow (σ := σ) (DepthRange.isProper_raised ordered)
  rw [range.least_raised, range.greatest_raised] at same
  -- the formula is that of a tree of operators, and the tree is that of some calls
  rw [Expr.perform_growth, ← PairTree.map_toExpr_grow] at run
  obtain ⟨t, drawn, rfl⟩ := of_run_map_eq_ok run
  have kept := PairTree.build_of_le (α := α) ordered drawn
  rw [← same] at drawn
  obtain ⟨calls, made, rfl⟩ := of_run_map_eq_ok drawn
  exact ⟨calls, s', made, kept, built⟩

/-- **The recursion of a build ends, and no subtraction wraps around.**  Within any range that is not upside
down, with any source in the table, the recursion on machine integers starts from the raised bounds and
returns.  The operators of its calls are those that the build draws, with the same source left, and the formula
is theirs.  Every one of the calls receives bounds that are at least one and in order, from which one can be
subtracted without wrapping around, and a smaller greatest depth than its caller.  There are no more calls under
way at the same time than the greatest depth of the range, raised to at least one, and no more calls in all than
one less than the power of two with this exponent. -/
theorem exists_build_eq_of_calls {α : Type} {range : DepthRange} (ordered : range.min ≤ range.max)
    {s : σ} (inTable : RandomSource.InTable s) :
    ∃ (calls : Calls) (s' : σ),
      (grow range.raised : ExceptT StrayIndex (StateM σ) Calls) s = (.ok calls, s') ∧
      (PairTree.build range : ExceptT (Fault α) (StateM σ) PairTree) s = (.ok calls.operators, s') ∧
      (Expr.build range : ExceptT (Fault α) (StateM σ) Expr) s
        = (.ok calls.operators.toExpr, s') ∧
      calls.bounds = range.raised ∧
      (∀ bounds ∈ calls.received, 1 ≤ bounds.min ∧ bounds.min ≤ bounds.max ∧
        (bounds.min - 1).toInt = bounds.min.toInt - 1 ∧
        (bounds.max - 1).toInt = bounds.max.toInt - 1) ∧
      (∀ caller callee, (caller, callee) ∈ calls.passed → callee.max < caller.max) ∧
      calls.nesting ≤ Max.max 1 range.max.toInt ∧
      calls.received.length ≤ 2 ^ (Max.max 1 range.max.toInt).toNat - 1 := by
  obtain ⟨calls, s', made, kept, built⟩ := exists_grow_raised (α := α) ordered inTable
  have fromRaised := isFrom_of_grow made
  have nested := fromRaised.nesting_le
  have few := fromRaised.length_received_lt
  rw [range.greatest_raised] at nested few
  refine ⟨calls, s', made, kept, built, fromRaised.bounds_eq, ?_, ?_, ?_, Nat.le_sub_one_of_lt few⟩
  · intro bounds member
    have proper := fromRaised.isProper (DepthRange.isProper_raised ordered) member
    exact ⟨proper.one_le_min, proper.min_le_max, DepthRange.toInt_sub_one proper.one_le_min,
      DepthRange.toInt_sub_one proper.one_le_max⟩
  · intro caller callee member
    exact fromRaised.max_lt member
  · rw [← range.cast_greatest]
    exact Int.ofNat_le.mpr nested

/-- The least of all machine integers as the least depth: no call subtracts from it. -/
theorem exists_build_eq_of_calls_of_seed :
    (-2147483648 : Int32) ≤ 3 ∧ RandomSource.InTable (SplitMix.ofSeed 42) ∧
    ∃ (calls : Calls) (s' : SplitMix),
      (grow ⟨1, 3⟩ : ExceptT StrayIndex (StateM SplitMix) Calls) (SplitMix.ofSeed 42)
        = (.ok calls, s') ∧
      (Expr.build ⟨-2147483648, 3⟩ : ExceptT (Fault Float) (StateM SplitMix) Expr)
        (SplitMix.ofSeed 42) = (.ok calls.operators.toExpr, s') ∧
      (∀ bounds ∈ calls.received, 1 ≤ bounds.min ∧ bounds.min ≤ bounds.max) ∧
      calls.nesting ≤ 3 ∧ calls.received.length ≤ 7 := by
  have ordered : (⟨-2147483648, 3⟩ : DepthRange).min ≤ (⟨-2147483648, 3⟩ : DepthRange).max := by
    decide
  have inTable := SplitMix.inTable (SplitMix.ofSeed 42)
  obtain ⟨calls, s', made, -, built, -, sound, -, nested, few⟩ :=
    exists_build_eq_of_calls (α := Float) ordered inTable
  refine ⟨ordered, inTable, calls, s', made, built, ?_, Int.ofNat_le.mp nested, few⟩
  intro bounds member
  obtain ⟨positive, between, -⟩ := sound bounds member
  exact ⟨positive, between⟩

end Grow

end Calls

end FormulaArt
