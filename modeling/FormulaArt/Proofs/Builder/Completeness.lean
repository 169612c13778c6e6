import FormulaArt.Proofs.Builder.Growth
import FormulaArt.Proofs.Builder.Replay

/-!
# Every normal formula can be built

The bounds and the normal form are all that restricts the builder: each normal formula whose ways keep
to the bounds is grown from some answers, and written on a tape these answers make the builder return
it.

## Main statements

* `Expr.exists_returns_growth` — every normal formula within the bounds is grown from some answers
* `Expr.exists_returns_growth_iff` — these are exactly the formulas that are grown
* `Expr.exists_words_build_eq` — words from which the builder builds a given normal formula

## Design notes

A unary operator on a formula is drawn with the first axis, so that the formula is what is grown on the
left.  On the right anything will do, and a dialogue always returns something
(`Dialogue.exists_returns`); how long that takes is of no concern here.
-/

namespace FormulaArt

/-- Whatever is asked can be answered. -/
theorem Dialogue.exists_returns {β : Type} (d : Dialogue β) : ∃ answers b, d.Returns answers b := by
  induction d with
  | done result => exact ⟨[], result, .done result⟩
  | operator next ih =>
      obtain ⟨answers, b, h⟩ := ih (.binary .product)
      exact ⟨_, b, .operator h⟩
  | coin next ih =>
      obtain ⟨answers, b, h⟩ := ih false
      exact ⟨_, b, .coin h⟩

namespace Expr

/-- An operator on the point is grown as soon as the least depth is reached. -/
theorem exists_returns_leaf {least greatest : Nat} (op : Operator) (reached : least ≤ 1) :
    ∃ answers, (growth least (greatest + 1)).Returns answers (leaf op) := by
  cases greatest with
  | zero => exact ⟨_, returns_growth_one_iff.mpr ⟨op, rfl, rfl⟩⟩
  | succ greatest => exact ⟨_, returns_growth_iff.mpr ⟨op, Or.inr ⟨reached, rfl, rfl⟩⟩⟩

/-- An operator on two formulas that can be grown below it can be grown. -/
theorem exists_returns_compose {least greatest : Nat} (op : Operator) {left right : Expr}
    {first rest : List Answer}
    (hl : (growth (leastBelow least) (greatest + 1)).Returns first left)
    (hr : (growth (leastBelow least) (greatest + 1)).Returns rest right) :
    ∃ answers, (growth least (greatest + 2)).Returns answers (compose op left right) :=
  ⟨_, returns_growth_iff.mpr ⟨op, Or.inl ⟨first, rest, left, right, hl, hr, rfl, rfl⟩⟩⟩

/-- The least depth that is left below an operator is no more than what a formula there has. -/
theorem leastBelow_le {least : Nat} {child : Expr} (normal : child.IsNormal)
    (low : least ≤ 1 + child.minDepth) : leastBelow least ≤ child.minDepth := by
  have := normal.one_le_minDepth
  rw [leastBelow]
  omega

/-- Every normal formula all of whose ways keep to the bounds is grown from some answers. -/
theorem exists_returns_growth {least greatest : Nat} {e : Expr} (normal : e.IsNormal)
    (low : least ≤ e.minDepth) (high : e.depth ≤ greatest) :
    ∃ answers, (growth least greatest).Returns answers e := by
  induction normal generalizing least greatest with
  | unaryCoordinate kind axis =>
      obtain ⟨n, rfl⟩ : ∃ n, greatest = n + 1 := Nat.exists_eq_add_of_le' high
      exact exists_returns_leaf (.unary kind axis) low
  | binaryCoordinates kind =>
      obtain ⟨n, rfl⟩ : ∃ n, greatest = n + 1 := Nat.exists_eq_add_of_le' high
      exact exists_returns_leaf (.binary kind) low
  | @unary kind child h ih =>
      rw [minDepth] at low
      rw [depth] at high
      have deep := h.one_le_depth
      obtain ⟨n, rfl⟩ : ∃ n, greatest = n + 2 := ⟨greatest - 2, by omega⟩
      have below : ∃ answers, (growth (leastBelow least) (n + 1)).Returns answers child :=
        ih (leastBelow_le h low) (by omega)
      obtain ⟨first, hl⟩ := below
      -- the formula on the right is dropped, so any will do
      obtain ⟨rest, right, hr⟩ := (growth (leastBelow least) (n + 1)).exists_returns
      exact exists_returns_compose (.unary kind .x) hl hr
  | @binary kind left right nl nr ihl ihr =>
      rw [minDepth] at low
      rw [depth] at high
      have deep := nl.one_le_depth
      obtain ⟨n, rfl⟩ : ∃ n, greatest = n + 2 := ⟨greatest - 2, by omega⟩
      have belowl : ∃ answers, (growth (leastBelow least) (n + 1)).Returns answers left :=
        ihl (leastBelow_le nl (by omega)) (by omega)
      have belowr : ∃ answers, (growth (leastBelow least) (n + 1)).Returns answers right :=
        ihr (leastBelow_le nr (by omega)) (by omega)
      obtain ⟨first, hl⟩ := belowl
      obtain ⟨rest, hr⟩ := belowr
      exact exists_returns_compose (.binary kind) hl hr

/-- The formulas that are grown are the normal ones that keep to the bounds. -/
theorem exists_returns_growth_iff {least greatest : Nat} {e : Expr} (positive : 1 ≤ least)
    (ordered : least ≤ greatest) :
    (∃ answers, (growth least greatest).Returns answers e) ↔
      e.IsNormal ∧ least ≤ e.minDepth ∧ e.depth ≤ greatest := by
  constructor
  · rintro ⟨answers, h⟩
    exact of_returns_growth positive ordered h
  · rintro ⟨normal, low, high⟩
    exact exists_returns_growth normal low high

variable {α : Type}

/-- Every normal formula whose ways all have as many operators as a range allows, after its bounds are
raised to at least one, is what the builder returns from some raw words.  Each of the words is read. -/
theorem exists_words_build_eq {range : DepthRange} (ordered : range.min ≤ range.max) {e : Expr}
    (normal : e.IsNormal)
    (ways : ∀ n ∈ e.pathLengths,
      Max.max 1 range.min.toInt ≤ n ∧ (n : Int) ≤ Max.max 1 range.max.toInt) :
    ∃ words : Array UInt64,
      (build range : ExceptT (Fault α) (StateM Tape) Expr) (Tape.ofArray words)
        = (.ok e, (Tape.ofArray words).skip words.size) := by
  obtain ⟨low, high⟩ := DepthRange.forall_pathLengths_iff.mp ways
  obtain ⟨answers, returns⟩ := exists_returns_growth normal low high
  exact ⟨(answers.map Answer.word).toArray, build_of_le ordered (Dialogue.perform_ofArray returns)⟩

/-- A formula whose ways have two, three and three operators, within the range from two to three. -/
theorem exists_words_build_eq_three_ways :
    ∃ words : Array UInt64,
      (build ⟨2, 3⟩ : ExceptT (Fault Float) (StateM Tape) Expr) (Tape.ofArray words)
        = (.ok (binary .average (unary .sinPi (coordinate .y))
              (unary .tanh (binary .product (coordinate .x) (coordinate .y)))),
            (Tape.ofArray words).skip words.size) :=
  exists_words_build_eq (by decide)
    (.binary .average (.unaryCoordinate .sinPi .y)
      (.unary .tanh (.binaryCoordinates .product)))
    (by decide)

end Expr

end FormulaArt
