import FormulaArt.Proofs.Builder.Completeness
import Mathlib.Algebra.Order.Ring.Nat

/-!
# How many words a build reads

A build reads a word for each operator and for each coin that is tossed, those of the halves that unary
operators drop included, and no word for a decision that the least depth settles.  The fewest words are read
when every coin ends a way as soon as one is tossed, and the most when none does.  What is read decides what
is built and where the reading ends, so that nothing which has been read can be the beginning of something
else that is read.

## Main definitions

* `Expr.Draws` — the numbers of answers that lead a growth to its end

## Main statements

* `Dialogue.exists_reads` — a dialogue reads the words of its answers, and they decide it
* `Expr.bounds_of_draws` — the least and the greatest number of answers
* `Expr.draws_fewest`, `Expr.draws_most` — both occur
* `Expr.exists_build_reads` — the words that a build reads

## Design notes

The bounds are exponential sums.  In the inductions both depths are shifted by one, and what the bounds
subtract stands on the other side, so that one level of the recursion doubles both sides.
-/

namespace FormulaArt

/-! ### Words and what they decide -/

namespace Tape

/-- Fewer words of what lies ahead are the first of them. -/
theorem ahead_eq_take (tape : Tape) {m n : Nat} (h : m ≤ n) :
    tape.ahead m = (tape.ahead n).take m := by
  rw [ahead, ahead, ← List.map_take, List.take_range, Nat.min_eq_left h]

theorem length_ahead (tape : Tape) (n : Nat) : (tape.ahead n).length = n := by
  rw [ahead, List.length_map, List.length_range]

end Tape

/-- On a tape a dialogue returns what some answers lead to, and is done after as many words.  Any other
tape that starts with these words leads it to the same result, and is left after the same words. -/
theorem Dialogue.exists_reads {β : Type} (d : Dialogue β) (tape : Tape) :
    ∃ answers b, d.Returns answers b ∧
      ∀ tape' : Tape, tape'.ahead answers.length = tape.ahead answers.length →
        (d.perform : ExceptT StrayIndex (StateM Tape) β) tape'
          = (.ok b, tape'.skip answers.length) := by
  obtain ⟨answers, b, h, ahead⟩ := d.exists_returns_ahead tape
  exact ⟨answers, b, h, fun tape' same => perform_of_ahead h (same ▸ ahead)⟩

/-! ### The number of answers -/

namespace Expr

/-- Some answers lead a growth to its end, and there are so many of them. -/
def Draws (least greatest n : Nat) : Prop :=
  ∃ answers e, (growth least greatest).Returns answers e ∧ answers.length = n

theorem draws_one_iff {least n : Nat} : Draws least 1 n ↔ n = 1 := by
  constructor
  · rintro ⟨answers, e, h, rfl⟩
    obtain ⟨op, rfl, -⟩ := returns_growth_one_iff.mp h
    rfl
  · rintro rfl
    exact ⟨_, _, returns_growth_one_iff.mpr ⟨.binary .product, rfl, rfl⟩, rfl⟩

/-- Where the least depth is reached, a coin is tossed, and two halves are grown if it says so. -/
theorem draws_reached_iff {greatest n : Nat} :
    Draws 1 (greatest + 2) n ↔
      n = 2 ∨ ∃ a b, Draws 1 (greatest + 1) a ∧ Draws 1 (greatest + 1) b ∧ n = 2 + a + b := by
  constructor
  · rintro ⟨answers, e, h, rfl⟩
    obtain ⟨op, ⟨first, rest, left, right, hl, hr, rfl, -⟩ | ⟨-, rfl, -⟩⟩ := returns_growth_iff.mp h
    · refine .inr ⟨_, _, ⟨first, left, hl, rfl⟩, ⟨rest, right, hr, rfl⟩, ?_⟩
      rw [List.length_cons, List.length_append, List.length_append]
      show 1 + (first.length + rest.length) + 1 = _
      omega
    · exact .inl rfl
  · rintro (rfl | ⟨_, _, ⟨first, left, hl, rfl⟩, ⟨rest, right, hr, rfl⟩, rfl⟩)
    · exact ⟨_, _, returns_growth_iff.mpr ⟨.binary .product, .inr ⟨Nat.le_refl 1, rfl, rfl⟩⟩, rfl⟩
    · refine ⟨_, _, returns_growth_iff.mpr
        ⟨.binary .product, .inl ⟨first, rest, left, right, hl, hr, rfl, rfl⟩⟩, ?_⟩
      rw [List.length_cons, List.length_append, List.length_append]
      show 1 + (first.length + rest.length) + 1 = _
      omega

/-- Above the least depth two halves are grown without a coin. -/
theorem draws_above_iff {least greatest n : Nat} :
    Draws (least + 2) (greatest + 2) n ↔
      ∃ a b, Draws (least + 1) (greatest + 1) a ∧ Draws (least + 1) (greatest + 1) b ∧
        n = 1 + a + b := by
  have settled : decided (least + 2) true = [] := if_pos (by omega)
  have below : leastBelow (least + 2) = least + 1 := by
    rw [leastBelow]
    omega
  constructor
  · rintro ⟨answers, e, h, rfl⟩
    obtain ⟨op, ⟨first, rest, left, right, hl, hr, rfl, -⟩ | ⟨reached, -, -⟩⟩ :=
      returns_growth_iff.mp h
    · rw [below] at hl hr
      refine ⟨_, _, ⟨first, left, hl, rfl⟩, ⟨rest, right, hr, rfl⟩, ?_⟩
      rw [settled, List.nil_append, List.length_cons, List.length_append]
      omega
    · omega
  · rintro ⟨_, _, ⟨first, left, hl, rfl⟩, ⟨rest, right, hr, rfl⟩, rfl⟩
    rw [← below] at hl hr
    refine ⟨_, _, returns_growth_iff.mpr
      ⟨.binary .product, .inl ⟨first, rest, left, right, hl, hr, rfl, rfl⟩⟩, ?_⟩
    rw [settled, List.nil_append, List.length_cons, List.length_append]
    omega

/-! ### The fewest and the most draws -/

/-- One more than the fewest draws between two depths, which count from zero. -/
def fewest (least greatest : Nat) : Nat :=
  2 ^ (least + 1) + (if least < greatest then 2 ^ least else 0)

theorem fewest_zero_succ (greatest : Nat) : fewest 0 (greatest + 1) = 3 := by
  rw [fewest, if_pos (Nat.succ_pos greatest)]
  rfl

theorem fewest_succ_succ (least greatest : Nat) :
    fewest (least + 1) (greatest + 1) = 2 * fewest least greatest := by
  simp only [fewest, Nat.succ_lt_succ_iff, pow_succ, Nat.mul_add, mul_ite, Nat.mul_zero]
  simp only [Nat.mul_comm]

/-- The most draws up to a depth, which counts from zero, with one more and with those that a greater least
depth saves. -/
def most (greatest : Nat) : Nat :=
  2 ^ (greatest + 1) + 2 ^ greatest

theorem most_succ (greatest : Nat) : most (greatest + 1) = 2 * most greatest := by
  rw [most, most, pow_succ, pow_succ]
  omega

theorem three_le_most (greatest : Nat) : 3 ≤ most greatest := by
  have positive : 1 ≤ 2 ^ greatest := Nat.one_le_two_pow
  rw [most, pow_succ]
  omega

/-- Neither fewer words are read than a formula of the least depth takes nor more than one of the greatest
depth does. -/
theorem bounds_of_draws {least greatest n : Nat} (ordered : least ≤ greatest)
    (h : Draws (least + 1) (greatest + 1) n) :
    fewest least greatest ≤ n + 1 ∧ n + 2 ^ least + 1 ≤ most greatest := by
  induction greatest generalizing least n with
  | zero =>
      obtain rfl : least = 0 := Nat.le_zero.mp ordered
      obtain rfl := draws_one_iff.mp h
      decide
  | succ greatest ih =>
      rw [most_succ]
      cases least with
      | zero =>
          rw [fewest_zero_succ]
          obtain rfl | ⟨a, b, ha, hb, rfl⟩ := draws_reached_iff.mp h
          · have := three_le_most greatest
            omega
          · obtain ⟨-, highl⟩ := ih (Nat.zero_le _) ha
            obtain ⟨-, highr⟩ := ih (Nat.zero_le _) hb
            omega
      | succ least =>
          obtain ⟨a, b, ha, hb, rfl⟩ := draws_above_iff.mp h
          obtain ⟨lowl, highl⟩ := ih (Nat.le_of_succ_le_succ ordered) ha
          obtain ⟨lowr, highr⟩ := ih (Nat.le_of_succ_le_succ ordered) hb
          rw [fewest_succ_succ, pow_succ]
          omega

/-- As few words as possible are read when every coin ends a way. -/
theorem draws_fewest {least greatest : Nat} (ordered : least ≤ greatest) :
    ∃ n, Draws (least + 1) (greatest + 1) n ∧ n + 1 = fewest least greatest := by
  induction least generalizing greatest with
  | zero =>
      cases greatest with
      | zero => exact ⟨1, draws_one_iff.mpr rfl, rfl⟩
      | succ greatest =>
          exact ⟨2, draws_reached_iff.mpr (.inl rfl), (fewest_zero_succ greatest).symm⟩
  | succ least ih =>
      obtain ⟨greatest, rfl⟩ : ∃ g, greatest = g + 1 := Nat.exists_eq_add_of_le' (by omega)
      obtain ⟨n, h, count⟩ := ih (Nat.le_of_succ_le_succ ordered)
      refine ⟨_, draws_above_iff.mpr ⟨n, n, h, h, rfl⟩, ?_⟩
      rw [fewest_succ_succ]
      omega

/-- As many words as possible are read when no coin ends a way. -/
theorem draws_most {least greatest : Nat} (ordered : least ≤ greatest) :
    ∃ n, Draws (least + 1) (greatest + 1) n ∧ n + 2 ^ least + 1 = most greatest := by
  induction greatest generalizing least with
  | zero =>
      obtain rfl : least = 0 := Nat.le_zero.mp ordered
      exact ⟨1, draws_one_iff.mpr rfl, rfl⟩
  | succ greatest ih =>
      rw [most_succ]
      cases least with
      | zero =>
          obtain ⟨n, h, count⟩ := ih (Nat.zero_le _)
          exact ⟨_, draws_reached_iff.mpr (.inr ⟨n, n, h, h, rfl⟩), by omega⟩
      | succ least =>
          obtain ⟨n, h, count⟩ := ih (Nat.le_of_succ_le_succ ordered)
          refine ⟨_, draws_above_iff.mpr ⟨n, n, h, h, rfl⟩, ?_⟩
          rw [pow_succ]
          omega

/-! ### Builds -/

section Range

variable {range : DepthRange} {α : Type}

/-- Both bounds of a range, as depths that count from zero. -/
theorem exists_depths (ordered : range.min ≤ range.max) :
    ∃ least greatest, least ≤ greatest ∧ range.least = least + 1 ∧ range.greatest = greatest + 1 := by
  have positive := range.one_le_least
  have between := DepthRange.least_le_greatest ordered
  exact ⟨range.least - 1, range.greatest - 1, by omega, by omega, by omega⟩

/-- The numbers of words that a range allows. -/
theorem bounds_of_draws_range (ordered : range.min ≤ range.max) {n : Nat}
    (h : Draws range.least range.greatest n) :
    2 ^ range.least - 1 + (if range.least < range.greatest then 2 ^ (range.least - 1) else 0) ≤ n ∧
      n ≤ 2 ^ range.greatest - 1 + 2 ^ (range.greatest - 1) - 2 ^ (range.least - 1) := by
  obtain ⟨least, greatest, between, hl, hg⟩ := exists_depths ordered
  rw [hl, hg] at h ⊢
  obtain ⟨low, high⟩ := bounds_of_draws between h
  rw [fewest] at low
  rw [most] at high
  have some : 1 ≤ 2 ^ (least + 1) := Nat.one_le_two_pow
  simp only [Nat.add_sub_cancel, Nat.succ_lt_succ_iff]
  omega

/-- The least of these numbers occurs. -/
theorem draws_fewest_range (ordered : range.min ≤ range.max) :
    Draws range.least range.greatest
      (2 ^ range.least - 1 +
        (if range.least < range.greatest then 2 ^ (range.least - 1) else 0)) := by
  obtain ⟨least, greatest, between, hl, hg⟩ := exists_depths ordered
  obtain ⟨n, h, count⟩ := draws_fewest between
  rw [fewest] at count
  have some : 1 ≤ 2 ^ (least + 1) := Nat.one_le_two_pow
  rw [hl, hg]
  simp only [Nat.add_sub_cancel, Nat.succ_lt_succ_iff]
  have same : 2 ^ (least + 1) - 1 + (if least < greatest then 2 ^ least else 0) = n := by omega
  rwa [same]

/-- The greatest of these numbers occurs. -/
theorem draws_most_range (ordered : range.min ≤ range.max) :
    Draws range.least range.greatest
      (2 ^ range.greatest - 1 + 2 ^ (range.greatest - 1) - 2 ^ (range.least - 1)) := by
  obtain ⟨least, greatest, between, hl, hg⟩ := exists_depths ordered
  obtain ⟨n, h, count⟩ := draws_most between
  rw [most] at count
  have some : 1 ≤ 2 ^ (greatest + 1) := Nat.one_le_two_pow
  rw [hl, hg]
  simp only [Nat.add_sub_cancel]
  have same : 2 ^ (greatest + 1) - 1 + 2 ^ greatest - 2 ^ least = n := by omega
  rwa [same]

/-- A number of words that some answers take is the number of words that is read from some tape. -/
theorem exists_build_of_draws (ordered : range.min ≤ range.max) {n : Nat}
    (h : Draws range.least range.greatest n) :
    ∃ (tape : Tape) (e : Expr),
      (build range : ExceptT (Fault α) (StateM Tape) Expr) tape = (.ok e, tape.skip n) := by
  obtain ⟨answers, e, returns, rfl⟩ := h
  have run := build_of_le (α := α) ordered (Dialogue.perform_ofArray returns)
  rw [List.size_toArray, List.length_map] at run
  exact ⟨_, e, run⟩

/-- **How many words a build reads.**  From any tape, and within any range that is not upside down, a build
succeeds and reads some number of words, which lies between two bounds that depend on the raised depths
alone.  If these are equal, it is one less than a power of two.  Every tape that starts with the same words
gives the same formula and is left behind them; and words that some build within the range reads are never a
proper beginning of those that another one reads.  Both bounds are reached, each from some tape. -/
theorem exists_build_reads (ordered : range.min ≤ range.max) :
    (∀ tape : Tape, ∃ (n : Nat) (e : Expr),
      (build range : ExceptT (Fault α) (StateM Tape) Expr) tape = (.ok e, tape.skip n) ∧
      2 ^ range.least - 1 + (if range.least < range.greatest then 2 ^ (range.least - 1) else 0) ≤ n ∧
      n ≤ 2 ^ range.greatest - 1 + 2 ^ (range.greatest - 1) - 2 ^ (range.least - 1) ∧
      (range.least = range.greatest → n = 2 ^ range.least - 1) ∧
      (∀ tape' : Tape, tape'.ahead n = tape.ahead n →
        (build range : ExceptT (Fault α) (StateM Tape) Expr) tape' = (.ok e, tape'.skip n)) ∧
      ∀ (tape' : Tape) (n' : Nat) (e' : Expr),
        (build range : ExceptT (Fault α) (StateM Tape) Expr) tape' = (.ok e', tape'.skip n') →
          tape.ahead n <+: tape'.ahead n' → tape.ahead n = tape'.ahead n') ∧
    (∃ (tape : Tape) (e : Expr),
      (build range : ExceptT (Fault α) (StateM Tape) Expr) tape
        = (.ok e, tape.skip (2 ^ range.least - 1 +
            (if range.least < range.greatest then 2 ^ (range.least - 1) else 0)))) ∧
    ∃ (tape : Tape) (e : Expr),
      (build range : ExceptT (Fault α) (StateM Tape) Expr) tape
        = (.ok e, tape.skip
            (2 ^ range.greatest - 1 + 2 ^ (range.greatest - 1) - 2 ^ (range.least - 1))) := by
  refine ⟨?_, exists_build_of_draws ordered (draws_fewest_range ordered),
    exists_build_of_draws ordered (draws_most_range ordered)⟩
  intro tape
  obtain ⟨answers, e, returns, run⟩ := (growth range.least range.greatest).exists_reads tape
  obtain ⟨low, high⟩ := bounds_of_draws_range ordered ⟨answers, e, returns, rfl⟩
  have decides (tape' : Tape) (same : tape'.ahead answers.length = tape.ahead answers.length) :
      (build range : ExceptT (Fault α) (StateM Tape) Expr) tape'
        = (.ok e, tape'.skip answers.length) := build_of_le ordered (run tape' same)
  refine ⟨answers.length, e, decides tape rfl, low, high, ?_, decides, ?_⟩
  · intro equal
    rw [equal, if_neg (Nat.lt_irrefl _)] at low
    rw [equal] at high ⊢
    omega
  · intro tape' n' e' run' beginning
    have fewer : answers.length ≤ n' := by
      have := beginning.length_le
      rwa [tape.length_ahead, tape'.length_ahead] at this
    have same : tape'.ahead answers.length = tape.ahead answers.length := by
      rw [tape'.ahead_eq_take fewer, List.prefix_iff_eq_take.mp beginning, tape.length_ahead]
    -- the same words decide where the reading of the other tape ends
    have ends := (decides tape' same).symm.trans run'
    have position : tape'.position + answers.length = tape'.position + n' :=
      congrArg (fun outcome => outcome.2.position) ends
    rw [← Nat.add_left_cancel position, same]

/-- Three words that repeat the last of them, within the range from two to three: between five and nine words
are read, and five and nine from some others. -/
theorem exists_build_reads_two_to_three :
    (2 : Int32) ≤ 3 ∧
    (∃ (n : Nat) (e : Expr),
      (build ⟨2, 3⟩ : ExceptT (Fault Float) (StateM Tape) Expr)
          (Tape.ofArray #[7, 11068046444225730969, 9223372036854775808])
        = (.ok e, (Tape.ofArray #[7, 11068046444225730969, 9223372036854775808]).skip n) ∧
      5 ≤ n ∧ n ≤ 9) ∧
    (∃ (tape : Tape) (e : Expr),
      (build ⟨2, 3⟩ : ExceptT (Fault Float) (StateM Tape) Expr) tape = (.ok e, tape.skip 5)) ∧
    ∃ (tape : Tape) (e : Expr),
      (build ⟨2, 3⟩ : ExceptT (Fault Float) (StateM Tape) Expr) tape = (.ok e, tape.skip 9) := by
  have ordered : (⟨2, 3⟩ : DepthRange).min ≤ (⟨2, 3⟩ : DepthRange).max := by decide
  obtain ⟨reads, low, high⟩ := exists_build_reads (α := Float) ordered
  obtain ⟨n, e, run, atLeast, atMost, -⟩ :=
    reads (Tape.ofArray #[7, 11068046444225730969, 9223372036854775808])
  exact ⟨by decide, ⟨n, e, run, atLeast, atMost⟩, low, high⟩

end Range

end Expr

end FormulaArt
