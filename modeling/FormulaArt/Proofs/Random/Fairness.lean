import FormulaArt.Proofs.Builder.Replay
import FormulaArt.Proofs.Double
import Mathlib

/-!
# Derived draws are fair

A raw word is one of `2 ^ 64`, each as likely as any other.  This module counts the words behind the draws
that are derived from them.  The indices share the words out in runs whose lengths differ by at most one;
the unit draw is the top of the word, exactly, although it is found by a multiplication of doubles; and the
coin shows heads on half of the words.  No draw takes more than its one word.

## Main definitions

* `Draw.topBits` — the bits of a word that a unit draw keeps
* `RandomSource.ofNext` — the source that derives all its draws from raw words

## Main statements

* `Draw.ncard_index` — the number of words that fall on a place of a table
* `Draw.value?_unit` — the unit draw as a number
* `Draw.coin_unit_iff` — the words on which a coin shows heads
* `derived_draws_fair` — all of this together, with the draws that are made of the words

## Design notes

The words of a place are those between its least word and that of the next place, so they are counted by a
difference of two divisions that round up.  That this difference is itself a division, rounded down or up, is
the only arithmetic behind the fairness of indices.
-/

namespace FormulaArt

namespace Draw

/-! ### Indices -/

/-- There are as many words in a range as numbers. -/
theorem ncard_toNat_mem_Ico {a b : Nat} (small : b ≤ UInt64.size) :
    {raw : UInt64 | raw.toNat ∈ Set.Ico a b}.ncard = b - a := by
  have injective : Function.Injective UInt64.toNat := fun _ _ => UInt64.toNat_inj.mp
  have numbers : Set.Ico a b ⊆ Set.range UInt64.toNat := by
    rintro n ⟨-, below⟩
    exact ⟨UInt64.ofNat n, UInt64.toNat_ofNat_of_lt' (lt_of_lt_of_le below small)⟩
  calc {raw : UInt64 | raw.toNat ∈ Set.Ico a b}.ncard
      = (Set.Ico a b).ncard := Set.ncard_preimage_of_injective_subset_range injective numbers
    _ = b - a := Set.ncard_Ico_nat a b

/-- The greater the word, the further back in the table. -/
theorem index_le_index (size : Nat) {raw raw' : UInt64} (h : raw ≤ raw') :
    index size raw ≤ index size raw' := by
  rw [index, index]
  exact Nat.div_le_div_right (Nat.mul_le_mul_right size (UInt64.le_iff_toNat_le.mp h))

/-- The words of a place lie between its least word and that of the next place. -/
theorem index_eq_iff {size : Nat} (positive : 0 < size) (i : Nat) (raw : UInt64) :
    index size raw = i ↔ raw.toNat ∈ Set.Ico (leastWord size i) (leastWord size (i + 1)) := by
  rw [Set.mem_Ico, ← le_index_iff positive, ← not_le, ← le_index_iff positive]
  omega

/-- The runs of the places up to some place are not longer than all words together. -/
theorem leastWord_le {size i : Nat} (positive : 0 < size) (h : i ≤ size) :
    leastWord size i ≤ UInt64.size := by
  rw [leastWord, Nat.div_le_iff_le_mul_add_pred positive]
  exact Nat.add_le_add_right (Nat.mul_le_mul_right _ h) _

/-- A run is as long as the words divided by the size of the table, rounded down or up. -/
theorem leastWord_succ {size : Nat} (positive : 0 < size) (i : Nat) :
    leastWord size (i + 1) = leastWord size i + UInt64.size / size ∨
      leastWord size (i + 1) = leastWord size i + UInt64.size ⌈/⌉ size := by
  have next : (i + 1) * UInt64.size + (size - 1) = i * UInt64.size + (size - 1) + UInt64.size := by
    rw [Nat.succ_mul, Nat.add_right_comm]
  have below : (i * UInt64.size + (size - 1)) % size < size := Nat.mod_lt _ positive
  rw [leastWord, next, Nat.add_div positive, ← leastWord]
  by_cases carry : size ≤ (i * UInt64.size + (size - 1)) % size + UInt64.size % size
  · right
    -- a carry comes from a remainder, and then rounding up makes one more
    have last : (size - 1) % size = size - 1 := Nat.mod_eq_of_lt (by omega)
    have up : size ≤ UInt64.size % size + (size - 1) % size := by omega
    have ceiling : UInt64.size ⌈/⌉ size = UInt64.size / size + 1 := by
      rw [Nat.ceilDiv_eq_add_pred_div, Nat.add_sub_assoc (show 1 ≤ size from positive),
        Nat.add_div positive, if_pos up, Nat.div_eq_of_lt (Nat.sub_lt positive one_pos), Nat.add_zero]
    rw [if_pos carry, ceiling, Nat.add_assoc]
  · left
    rw [if_neg carry, Nat.add_zero]

/-- The words that fall on a place make up its run. -/
theorem ncard_index {size i : Nat} (inside : i < size) :
    {raw | index size raw = i}.ncard = leastWord size (i + 1) - leastWord size i := by
  have positive : 0 < size := Nat.zero_lt_of_lt inside
  have run : {raw | index size raw = i}
      = {raw | raw.toNat ∈ Set.Ico (leastWord size i) (leastWord size (i + 1))} :=
    Set.ext fun raw => index_eq_iff positive i raw
  rw [run]
  exact ncard_toNat_mem_Ico (leastWord_le positive inside)

/-! ### Unit draws -/

/-- The number made of the top 53 bits of a word. -/
def topBits (raw : UInt64) : Nat :=
  raw.toNat / 2 ^ 11

theorem topBits_lt (raw : UInt64) : topBits raw < 2 ^ 53 :=
  Nat.div_lt_of_lt_mul raw.toNat_lt

theorem toNat_shiftRight_eleven (raw : UInt64) : (raw >>> 11).toNat = topBits raw := by
  rw [UInt64.toNat_shiftRight, topBits, ← Nat.shiftRight_eq_div_pow]
  rfl

theorem log2_topBits_le {raw : UInt64} (positive : 0 < topBits raw) : (topBits raw).log2 ≤ 52 :=
  Nat.le_of_lt_succ ((Nat.log2_lt (Nat.ne_of_gt positive)).mpr (topBits_lt raw))

/-- A unit draw is found from the top bits alone. -/
theorem unit_eq (raw : UInt64) :
    (unit raw : Float)
      = Float.ofInt (topBits raw) * (Scalar.ofInt 1 / Scalar.ofInt (Nat.pow 2 53 : Nat)) := by
  rw [unit, toNat_shiftRight_eleven]
  rfl

/-- Without top bits the unit draw is zero. -/
theorem unpack_unit_of_zero {raw : UInt64} (zero : topBits raw = 0) :
    (unit raw : Float).toModel.unpack = .zero .positive := by
  rw [unit_eq, zero]
  rfl

/-- The unit draw keeps the top bits as they are, only `53` places further down. -/
theorem unpack_unit {raw : UInt64} (positive : 0 < topBits raw) :
    (unit raw : Float).toModel.unpack
      = .finite .positive (topBits raw <<< (52 - (topBits raw).log2)) ((topBits raw).log2 - 105)
          (Nat.shiftLeft_pos_iff.mpr positive) := by
  have small := log2_topBits_le positive
  have step : ((Scalar.ofInt 1 / Scalar.ofInt (Nat.pow 2 53 : Nat)) : Float).toModel.unpack
      = .finite .positive (1 <<< 52) (-105) (by decide) := by rfl
  rw [unit_eq, Double.unpack_mul_power (Double.log2_filled positive small) _
    (Double.unpack_ofInt positive small) step (by omega) (by omega)]
  congr 1
  omega

/-- The unit draw of a word is the number of its top bits, divided by `2 ^ 53` without rounding. -/
theorem value?_unit (raw : UInt64) :
    Double.value? (unit raw : Float) = some ((topBits raw : ℚ) / 2 ^ 53) := by
  rcases Nat.eq_zero_or_pos (topBits raw) with zero | positive
  · simp [Double.value?, unpack_unit_of_zero zero, zero]
  · have small := log2_topBits_le positive
    have exponent : ((topBits raw).log2 : ℤ) - 105 = -53 - (52 - (topBits raw).log2 : ℕ) := by omega
    simp only [Double.value?, unpack_unit positive, exponent, Option.some.injEq]
    show (((topBits raw <<< (52 - (topBits raw).log2) : ℕ) : ℤ) : ℚ) * _ = _
    rw [Nat.shiftLeft_eq, zpow_sub₀ two_ne_zero, zpow_natCast]
    push_cast
    field_simp

/-! ### Coins -/

/-- A coin shows heads on the words of the upper half. -/
theorem coin_unit_iff (raw : UInt64) : coin (unit raw : Float) = true ↔ 2 ^ 63 ≤ raw.toNat := by
  have half : (Scalar.half : Float).toModel.unpack
      = .finite .positive (1 <<< 52) (-53) (by decide) := by rfl
  have upper : 2 ^ 63 ≤ raw.toNat ↔ 2 ^ 52 ≤ topBits raw := by
    rw [topBits, Nat.le_div_iff_mul_le (by decide)]
    norm_num
  have comparison : coin (unit raw : Float) = Float.Model.UnpackedFloat.le
      (Scalar.half : Float).toModel.unpack (unit raw : Float).toModel.unpack :=
    Bool.decide_eq_true
  rw [comparison, half, upper]
  rcases Nat.eq_zero_or_pos (topBits raw) with zero | positive
  · rw [unpack_unit_of_zero zero, zero]
    decide
  · have small := log2_topBits_le positive
    rw [unpack_unit positive, Double.le_finite_iff, ← Nat.le_log2 (Nat.ne_of_gt positive)]
    constructor
    · omega
    · intro large
      have full : (topBits raw).log2 = 52 := le_antisymm small large
      refine .inr ⟨by omega, ?_⟩
      rw [full]
      exact (Nat.le_log2 (Nat.ne_of_gt positive)).mp large

/-- A coin shows heads on half of the words. -/
theorem ncard_coin_unit :
    {raw | coin (unit raw : Float) = true}.ncard = UInt64.size / 2 := by
  have heads : {raw | coin (unit raw : Float) = true}
      = {raw | raw.toNat ∈ Set.Ico (2 ^ 63) UInt64.size} := by
    ext raw
    show coin (unit raw : Float) = true ↔ 2 ^ 63 ≤ raw.toNat ∧ raw.toNat < UInt64.size
    rw [coin_unit_iff]
    exact (and_iff_left raw.toNat_lt).symm
  rw [heads]
  exact ncard_toNat_mem_Ico le_rfl

end Draw

/-! ### Sources without draws of their own -/

/-- The source that yields raw words and derives all other draws from them. -/
abbrev RandomSource.ofNext {σ : Type} (next : StateM σ UInt64) : RandomSource σ :=
  { next }

/-- **Derived draws are in range and fair.**  For every size of a table that a word can hold, the place that
a raw word falls on lies in the table, the product behind it fits into 128 bits, a greater word does not fall
on an earlier place, and the numbers of words that fall on the places are all the same up to rounding.  The
unit draw is exactly the whole part of a `2 ^ 11`-th of the word, divided by `2 ^ 53`.  The coin shows heads
on the words from `2 ^ 63` on, which are half of them.  A source without draws of its own takes one raw word
for each of these draws and makes it from that word; the operator of that word is always found in the table. -/
theorem derived_draws_fair {size : Nat} (positive : 0 < size) (small : size < UInt64.size) :
    (∀ raw : UInt64, raw.toNat * size < 2 ^ 128 ∧ Draw.index size raw < size) ∧
    (∀ raw raw' : UInt64, raw ≤ raw' → Draw.index size raw ≤ Draw.index size raw') ∧
    (∀ i < size, {raw | Draw.index size raw = i}.ncard = UInt64.size / size ∨
      {raw | Draw.index size raw = i}.ncard = UInt64.size ⌈/⌉ size) ∧
    (∀ raw : UInt64, ∃ q : ℚ, Double.value? (Draw.unit raw) = some q ∧
      q = (raw.toNat / 2 ^ 11 : ℕ) / 2 ^ 53 ∧ q ∈ Set.Ico 0 1) ∧
    (∀ raw : UInt64, Draw.coin (Draw.unit raw : Float) = true ↔ 2 ^ 63 ≤ raw.toNat) ∧
    {raw | Draw.coin (Draw.unit raw : Float) = true}.ncard = UInt64.size / 2 ∧
    ∀ {σ : Type} (next : StateM σ UInt64) (s : σ),
      letI := RandomSource.ofNext next
      RandomSource.index size s = (Draw.index size (next s).1, (next s).2) ∧
      RandomSource.unit s = (Draw.unit (next s).1, (next s).2) ∧
      RandomSource.coin s = (Draw.coin (Draw.unit (next s).1 : Float), (next s).2) ∧
      Expr.drawOperator s = (.ok (Operator.ofWord (next s).1), (next s).2) := by
  refine ⟨?_, fun _ _ => Draw.index_le_index size, ?_, ?_, Draw.coin_unit_iff, Draw.ncard_coin_unit, ?_⟩
  · intro raw
    have product : raw.toNat * size < 2 ^ 64 * 2 ^ 64 := Nat.mul_lt_mul'' raw.toNat_lt small
    exact ⟨by rwa [← pow_add] at product, Draw.index_lt positive raw⟩
  · intro i inside
    rw [Draw.ncard_index inside]
    rcases Draw.leastWord_succ positive i with down | up
    · exact .inl (by rw [down, Nat.add_sub_cancel_left])
    · exact .inr (by rw [up, Nat.add_sub_cancel_left])
  · intro raw
    have below : (Draw.topBits raw : ℚ) < 2 ^ 53 := by exact_mod_cast Draw.topBits_lt raw
    refine ⟨_, Draw.value?_unit raw, rfl, by positivity, ?_⟩
    exact (div_lt_one (by positivity)).mpr below
  · intro σ next s
    have operator := @Expr.drawOperator_of_lt σ (.ofNext next) s (Draw.index_lt (by decide) _)
    exact ⟨rfl, rfl, rfl, operator⟩

/-- The last of ten places, which the ten do not share out evenly. -/
theorem derived_draws_fair_ten :
    (0 < 10 ∧ 10 < UInt64.size) ∧
    ({raw | Draw.index 10 raw = 9}.ncard = 1844674407370955161 ∨
      {raw | Draw.index 10 raw = 9}.ncard = 1844674407370955162) :=
  ⟨⟨by decide, by decide⟩, (derived_draws_fair (by decide) (by decide)).2.2.1 9 (by decide)⟩

end FormulaArt
