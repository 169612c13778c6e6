import FormulaArt.Proofs.Builder.Dialogue
import FormulaArt.Proofs.Expr.Measures
import FormulaArt.Proofs.Expr.Normal

/-!
# What the builder grows

The recursion of the builder is written down once more as a dialogue, `Expr.growth`, and held with a
source it is the recursion itself.  What a dialogue returns can be followed without a source, so that
one induction over the greatest depth settles the bounds and the form of all formulas at once.

## Main definitions

* `Expr.decision`, `Expr.decided` — whether to go on, as a dialogue, and the answers to it
* `Expr.growth` — the builder as a dialogue

## Main statements

* `Expr.perform_growth` — held with a source, the dialogue is the recursion of the builder
* `Expr.returns_growth_iff` — one level of the recursion
* `Expr.of_returns_growth` — what is grown is normal and keeps to both bounds
* `Expr.exists_build_eq` — a build within an ordered range succeeds and keeps to the range

## Design notes

In the recursion the least depth may sink to one but not below, while the greatest depth may not sink
below the least.  The induction therefore carries both `1 ≤ least` and `least ≤ greatest`.
-/

namespace FormulaArt

namespace Expr

/-- The decision whether to go on, as a dialogue. -/
def decision (least : Nat) : Dialogue Bool :=
  if 1 < least then .done true else .coin .done

/-- The answers that decide so: none when it is settled. -/
def decided (least : Nat) (on : Bool) : List Answer :=
  if 1 < least then [] else [.coin on]

/-- The growth of a formula, as a dialogue. -/
def growth (least : Nat) : Nat → Dialogue Expr
  | 0 => .operator fun op => .done (leaf op)
  | 1 => .operator fun op => .done (leaf op)
  | greatest + 2 => .operator fun op =>
      (decision least).bind fun on =>
        if on then
          (growth (leastBelow least) (greatest + 1)).bind fun left =>
            (growth (leastBelow least) (greatest + 1)).bind fun right =>
              .done (compose op left right)
        else
          .done (leaf op)

/-! ### The dialogue and the recursion -/

section Perform

variable {σ : Type} [RandomSource σ]

theorem perform_decision (least : Nat) :
    ((decision least).perform : ExceptT StrayIndex (StateM σ) Bool)
      = liftM (goesOn least : StateM σ Bool) := by
  rw [decision, goesOn]
  split
  · rfl
  · exact bind_pure _

/-- Held with a source, the dialogue is the recursion of the builder. -/
theorem perform_growth (least greatest : Nat) :
    ((growth least greatest).perform : ExceptT StrayIndex (StateM σ) Expr)
      = grow least greatest := by
  induction least, greatest using growth.induct with
  | case1 | case2 =>
      rw [grow, map_eq_pure_bind]
      rfl
  | case3 least greatest ih =>
      rw [growth, Dialogue.perform, grow]
      refine bind_congr fun op => ?_
      rw [Dialogue.perform_bind, perform_decision]
      -- both sides have asked the same so far, and now go on or stop alike
      refine bind_congr fun on => ?_
      cases on with
      | false => rfl
      | true =>
          rw [if_pos rfl, if_pos rfl, Dialogue.perform_bind, ih]
          refine bind_congr fun left => ?_
          rw [Dialogue.perform_bind, ih]
          rfl

end Perform

/-! ### What the dialogue returns -/

/-- To stop, the least depth must have been reached. -/
theorem returns_decision_iff {least : Nat} {answers : List Answer} {on : Bool} :
    (decision least).Returns answers on ↔ (on = false → least ≤ 1) ∧ answers = decided least on := by
  rw [decision, decided]
  split
  · rename_i short
    rw [Dialogue.returns_done_iff]
    constructor
    · rintro ⟨rfl, rfl⟩
      exact ⟨Bool.noConfusion, rfl⟩
    · rintro ⟨stop, rfl⟩
      cases on with
      | true => exact ⟨rfl, rfl⟩
      | false => exact absurd (stop rfl) (Nat.not_le_of_lt short)
  · rename_i long
    rw [Dialogue.returns_coin_iff]
    constructor
    · rintro ⟨heads, _, rfl, ⟨⟩⟩
      exact ⟨fun _ => Nat.le_of_not_lt long, rfl⟩
    · rintro ⟨_, rfl⟩
      exact ⟨on, [], rfl, .done on⟩

/-- At the greatest depth an operator is put on the point. -/
theorem returns_growth_one_iff {least : Nat} {answers : List Answer} {e : Expr} :
    (growth least 1).Returns answers e ↔ ∃ op, answers = [.operator op] ∧ e = leaf op := by
  rw [growth, Dialogue.returns_operator_iff]
  simp only [Dialogue.returns_done_iff]
  constructor
  · rintro ⟨op, _, rfl, rfl, rfl⟩
    exact ⟨op, rfl, rfl⟩
  · rintro ⟨op, rfl, rfl⟩
    exact ⟨op, [], rfl, rfl, rfl⟩

/-- Above the greatest depth an operator is put on two formulas that were grown one after the other,
or on the point. -/
theorem returns_growth_iff {least greatest : Nat} {answers : List Answer} {e : Expr} :
    (growth least (greatest + 2)).Returns answers e ↔
      ∃ op, (∃ first rest left right,
          (growth (leastBelow least) (greatest + 1)).Returns first left ∧
          (growth (leastBelow least) (greatest + 1)).Returns rest right ∧
          answers = .operator op :: (decided least true ++ (first ++ rest)) ∧
          e = compose op left right) ∨
        (least ≤ 1 ∧ answers = [.operator op, .coin false] ∧ e = leaf op) := by
  rw [growth, Dialogue.returns_operator_iff]
  refine exists_congr fun op => ?_
  simp only [Dialogue.returns_bind_iff, returns_decision_iff]
  constructor
  · rintro ⟨_, rfl, choice, rest, on, rfl, ⟨stop, rfl⟩, h⟩
    cases on with
    | false =>
        obtain ⟨rfl, rfl⟩ := Dialogue.returns_done_iff.mp h
        rw [decided, if_neg (Nat.not_lt_of_le (stop rfl))]
        exact Or.inr ⟨stop rfl, rfl, rfl⟩
    | true =>
        obtain ⟨first, _, left, rfl, hl, h⟩ := Dialogue.returns_bind_iff.mp h
        obtain ⟨rest, _, right, rfl, hr, h⟩ := Dialogue.returns_bind_iff.mp h
        obtain ⟨rfl, rfl⟩ := Dialogue.returns_done_iff.mp h
        rw [List.append_nil]
        exact Or.inl ⟨first, rest, left, right, hl, hr, rfl, rfl⟩
  · rintro (⟨first, rest, left, right, hl, hr, rfl, rfl⟩ | ⟨reached, rfl, rfl⟩)
    · refine ⟨_, rfl, _, _, true, rfl, ⟨Bool.noConfusion, rfl⟩, ?_⟩
      refine Dialogue.returns_bind_iff.mpr ⟨first, rest, left, rfl, hl, ?_⟩
      refine Dialogue.returns_bind_iff.mpr ⟨rest, [], right, (List.append_nil rest).symm, hr, ?_⟩
      exact .done _
    · refine ⟨[.coin false], rfl, [.coin false], [], false, rfl, ⟨fun _ => reached, ?_⟩, .done _⟩
      rw [decided, if_neg (Nat.not_lt_of_le reached)]

/-! ### The bounds and the form of what is grown -/

/-- Whatever the answers, what is grown is normal and keeps to both bounds. -/
theorem of_returns_growth {least greatest : Nat} {answers : List Answer} {e : Expr}
    (positive : 1 ≤ least) (ordered : least ≤ greatest)
    (h : (growth least greatest).Returns answers e) :
    e.IsNormal ∧ least ≤ e.minDepth ∧ e.depth ≤ greatest := by
  induction least, greatest using growth.induct generalizing answers e with
  | case1 => omega
  | case2 least =>
      obtain ⟨op, rfl, rfl⟩ := returns_growth_one_iff.mp h
      rw [minDepth_leaf, depth_leaf]
      exact ⟨.leaf op, ordered, Nat.le_refl 1⟩
  | case3 least greatest ih =>
      obtain ⟨op, ⟨first, rest, left, right, hl, hr, rfl, rfl⟩ | ⟨reached, rfl, rfl⟩⟩ :=
        returns_growth_iff.mp h
      -- the bounds below an operator are still positive and in order
      · have positive' : 1 ≤ leastBelow least := Nat.le_max_right _ _
        have ordered' : leastBelow least ≤ greatest + 1 := by
          rw [leastBelow]
          omega
        obtain ⟨nl, lowl, highl⟩ := ih positive' ordered' hl
        obtain ⟨nr, lowr, highr⟩ := ih positive' ordered' hr
        have low := le_minDepth_compose op left right
        have high := depth_compose_le op left right
        rw [leastBelow] at lowl lowr
        refine ⟨.compose op nl nr, ?_, ?_⟩
        · omega
        · omega
      · rw [minDepth_leaf, depth_leaf]
        exact ⟨.leaf op, reached, by omega⟩

end Expr

/-! ### Builds within a range -/

namespace DepthRange

theorem cast_least (range : DepthRange) : (range.least : Int) = Max.max 1 range.min.toInt :=
  Int.toNat_of_nonneg (by omega)

theorem cast_greatest (range : DepthRange) : (range.greatest : Int) = Max.max 1 range.max.toInt :=
  Int.toNat_of_nonneg (by omega)

theorem one_le_least (range : DepthRange) : 1 ≤ range.least := by
  have := range.cast_least
  omega

theorem one_le_greatest (range : DepthRange) : 1 ≤ range.greatest := by
  have := range.cast_greatest
  omega

/-- A range that is not upside down stays so when its bounds are raised. -/
theorem least_le_greatest {range : DepthRange} (ordered : range.min ≤ range.max) :
    range.least ≤ range.greatest := by
  have := Int32.le_iff_toInt_le.mp ordered
  have := range.cast_least
  have := range.cast_greatest
  omega

/-- The range with both bounds raised to at least one, as machine integers. -/
def raised (range : DepthRange) : DepthRange where
  min := Max.max 1 range.min
  max := Max.max 1 range.max

theorem one_le_iff_toInt {n : Int32} : 1 ≤ n ↔ 1 ≤ n.toInt :=
  Int32.le_iff_toInt_le

theorem one_lt_iff_toInt {n : Int32} : 1 < n ↔ 1 < n.toInt :=
  Int32.lt_iff_toInt_lt

theorem toInt_max_one (n : Int32) : (Max.max 1 n).toInt = Max.max 1 n.toInt := by
  show (if 1 ≤ n then n else 1).toInt = Max.max 1 n.toInt
  split
  · rename_i above
    rw [one_le_iff_toInt] at above
    omega
  · rename_i below
    rw [one_le_iff_toInt] at below
    rw [Int32.toInt_one]
    omega

/-- Raising the bounds of a range leaves the depths that it allows. -/
@[simp] theorem least_raised (range : DepthRange) : range.raised.least = range.least := by
  simp [least, raised, toInt_max_one]

@[simp] theorem greatest_raised (range : DepthRange) : range.raised.greatest = range.greatest := by
  simp [greatest, raised, toInt_max_one]

theorem one_le_min_raised (range : DepthRange) : 1 ≤ range.raised.min := by
  rw [one_le_iff_toInt, raised, toInt_max_one]
  exact Int.le_max_left _ _

/-- Raising the bounds of a range does not turn it upside down. -/
theorem min_raised_le_max_raised {range : DepthRange} (ordered : range.min ≤ range.max) :
    range.raised.min ≤ range.raised.max := by
  rw [Int32.le_iff_toInt_le] at ordered
  rw [Int32.le_iff_toInt_le, raised, toInt_max_one, toInt_max_one]
  omega

/-- The bounds of a range on all ways of a formula, in terms of its depths. -/
theorem forall_pathLengths_iff {range : DepthRange} {e : Expr} :
    (∀ n ∈ e.pathLengths, Max.max 1 range.min.toInt ≤ n ∧ n ≤ Max.max 1 range.max.toInt) ↔
      range.least ≤ e.minDepth ∧ e.depth ≤ range.greatest := by
  rw [← range.cast_least, ← range.cast_greatest]
  simp only [Int.ofNat_le]
  exact Expr.forall_pathLengths_iff

end DepthRange

namespace Expr

variable {σ : Type} [RandomSource σ] {α : Type}

/-- A build within a range that is not upside down is the growth between its raised bounds. -/
theorem build_of_le {range : DepthRange} (ordered : range.min ≤ range.max) {s s' : σ} {e : Expr}
    (run : ((growth range.least range.greatest).perform
      : ExceptT StrayIndex (StateM σ) Expr) s = (.ok e, s')) :
    (build range : ExceptT (Fault α) (StateM σ) Expr) s = (.ok e, s') := by
  have upright : ¬ range.max < range.min := Int32.not_lt.mpr ordered
  rw [perform_growth] at run
  rw [build, if_neg upright]
  exact run_adapt_of_ok Fault.strayIndex run

/-- A range that is upside down is refused as it was given, before anything is drawn. -/
theorem build_of_lt {range : DepthRange} (upsideDown : range.max < range.min) (s : σ) :
    (build range : ExceptT (Fault α) (StateM σ) Expr) s
      = (.error (.depthRange range.min range.max), s) := by
  rw [build, if_pos upsideDown]
  rfl

/-- A build within a range that is not upside down gives a formula, and leaves a source whose draws lie
in the table. -/
theorem exists_build {range : DepthRange} (ordered : range.min ≤ range.max) {s : σ}
    (inTable : RandomSource.InTable s) :
    ∃ e s', (build range : ExceptT (Fault α) (StateM σ) Expr) s = (.ok e, s') ∧
      RandomSource.InTable s' := by
  obtain ⟨-, e, s', -, run, still⟩ :=
    (growth range.least range.greatest).exists_perform_eq inTable
  exact ⟨e, s', build_of_le ordered run, still⟩

/-- A build within a range that is not upside down succeeds with any source in the table.  Every way
from the root to a coordinate has as many operators as the range allows after its bounds are raised to
at least one, the depths lie in the same bounds, and the formula is normal. -/
theorem exists_build_eq {range : DepthRange} (ordered : range.min ≤ range.max) {s : σ}
    (inTable : RandomSource.InTable s) :
    ∃ e s', (build range : ExceptT (Fault α) (StateM σ) Expr) s = (.ok e, s') ∧
      (∀ n ∈ e.pathLengths,
        Max.max 1 range.min.toInt ≤ n ∧ (n : Int) ≤ Max.max 1 range.max.toInt) ∧
      Max.max 1 range.min.toInt ≤ e.minDepth ∧ (e.depth : Int) ≤ Max.max 1 range.max.toInt ∧
      e.IsNormal := by
  obtain ⟨answers, e, s', returns, run, _⟩ :=
    (growth range.least range.greatest).exists_perform_eq inTable
  obtain ⟨normal, low, high⟩ :=
    of_returns_growth range.one_le_least (DepthRange.least_le_greatest ordered) returns
  have ways := DepthRange.forall_pathLengths_iff.mpr ⟨low, high⟩
  exact ⟨e, s', build_of_le ordered run, ways, (ways _ e.minDepth_mem_pathLengths).1,
    (ways _ e.depth_mem_pathLengths).2, normal⟩

/-- A range whose least depth is negative, with the default generator. -/
theorem exists_build_eq_of_seed :
    ∃ e s', (build ⟨-3, 4⟩ : ExceptT (Fault Float) (StateM SplitMix) Expr) (SplitMix.ofSeed 42)
        = (.ok e, s') ∧
      (∀ n ∈ e.pathLengths, 1 ≤ (n : Int) ∧ (n : Int) ≤ 4) ∧
      1 ≤ (e.minDepth : Int) ∧ (e.depth : Int) ≤ 4 ∧ e.IsNormal :=
  @exists_build_eq SplitMix _ Float ⟨-3, 4⟩ (by decide) _ (SplitMix.inTable _)

end Expr

end FormulaArt
