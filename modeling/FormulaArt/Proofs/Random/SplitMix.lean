import FormulaArt.Random.SplitMix
import Mathlib.Data.Fintype.EquivFin
import Mathlib.Logic.Function.Iterate

/-!
# The words of the default generator

The counter of the generator takes `2 ^ 64` steps to come back, since its step is odd, and the function
that scrambles it loses nothing: each of its rounds can be undone.  A round is an exclusive or with the
word shifted to the right, which leaves the upper bits as they are and gives the lower ones back from the
top down, and a multiplication by an odd number, which has an inverse.

## Main definitions

* `SplitMix.xorShift` — a word with the word shifted to the right mixed into it
* `SplitMix.after` — the generator of a seed after a number of draws
* `SplitMix.word` — the word that it gives next

## Main statements

* `SplitMix.scramble_bijective` — scrambling is a permutation of the words
* `SplitMix.state_after`, `SplitMix.word_eq` — counter and word after a number of draws
* `SplitMix.word_injective_seed`, `SplitMix.word_injective_index` — different words from different seeds,
  and from one seed
-/

namespace FormulaArt

namespace SplitMix

/-! ### Scrambling -/

/-- The exclusive or of a word and the word shifted to the right. -/
def xorShift (k z : UInt64) : UInt64 :=
  z ^^^ (z >>> k)

/-- Whatever the width, bits that are shifted to the right and mixed in can be taken out again. -/
theorem xor_ushiftRight_injective {width k : Nat} (positive : 0 < k) :
    Function.Injective fun z : BitVec width => z ^^^ (z >>> k) := by
  intro z w same
  -- from the top down: a bit is mixed with one that lies `k` places above it
  have bits (n i : Nat) (above : width ≤ i + n) : z.getLsbD i = w.getLsbD i := by
    induction n generalizing i with
    | zero => rw [BitVec.getLsbD_of_ge z i above, BitVec.getLsbD_of_ge w i above]
    | succ n ih =>
        have higher : z.getLsbD (k + i) = w.getLsbD (k + i) := ih (k + i) (by omega)
        have mixed := congrArg (fun v => v.getLsbD i) same
        simp only [BitVec.getLsbD_xor, BitVec.getLsbD_ushiftRight, higher] at mixed
        exact Bool.xor_left_inj.mp mixed
  exact BitVec.eq_of_getLsbD_eq fun i _ => bits width i (Nat.le_add_left _ _)

theorem xorShift_injective {k : UInt64} (positive : 0 < k.toNat % 64) :
    Function.Injective (xorShift k) := by
  intro z w same
  have bits := congrArg UInt64.toBitVec same
  simp only [xorShift, UInt64.toBitVec_xor, UInt64.toBitVec_shiftRight, BitVec.ushiftRight_eq'] at bits
  exact UInt64.toBitVec_inj.mp (xor_ushiftRight_injective positive bits)

/-- A factor that has an inverse can be divided out. -/
theorem mul_injective {factor inverse : UInt64} (unit : factor * inverse = 1) :
    Function.Injective fun z : UInt64 => z * factor := by
  intro z w same
  calc z = z * factor * inverse := by rw [UInt64.mul_assoc, unit, UInt64.mul_one]
    _ = w * factor * inverse := congrArg (· * inverse) same
    _ = w := by rw [UInt64.mul_assoc, unit, UInt64.mul_one]

/-- Scrambling takes two rounds of mixing and multiplying, and mixes once more. -/
theorem scramble_eq (z : UInt64) :
    scramble z = xorShift 31
      (xorShift 27 (xorShift 30 z * 0xBF58476D1CE4E5B9) * 0x94D049BB133111EB) := rfl

theorem scramble_injective : Function.Injective scramble := by
  have first : Function.Injective fun z : UInt64 => z * 0xBF58476D1CE4E5B9 :=
    mul_injective (show 0xBF58476D1CE4E5B9 * 0x96DE1B173F119089 = 1 by decide)
  have second : Function.Injective fun z : UInt64 => z * 0x94D049BB133111EB :=
    mul_injective (show 0x94D049BB133111EB * 0x319642B2D24D8EC3 = 1 by decide)
  intro z w same
  rw [scramble_eq, scramble_eq] at same
  have same := xorShift_injective (by decide) same
  have same := xorShift_injective (by decide) (second same)
  exact xorShift_injective (by decide) (first same)

/-- Scrambling is a permutation of the words. -/
theorem scramble_bijective : Function.Bijective scramble := by
  have finite : Finite UInt64 := Finite.of_injective UInt64.toFin fun _ _ => UInt64.toFin_inj.mp
  exact Finite.injective_iff_bijective.mp scramble_injective

/-! ### The counter -/

/-- The generator of a seed after so many draws. -/
def after (seed : UInt64) (n : Nat) : SplitMix :=
  (fun g => g.next.2)^[n] (ofSeed seed)

/-- The word that the generator of a seed gives after so many others. -/
def word (seed : UInt64) (n : Nat) : UInt64 :=
  (after seed n).next.1

theorem after_succ (seed : UInt64) (n : Nat) : after seed (n + 1) = (after seed n).next.2 :=
  Function.iterate_succ_apply' _ n _

/-- One step more than so many steps. -/
theorem add_mul_increment_succ (seed : UInt64) (n : Nat) :
    seed + UInt64.ofNat n * increment + increment = seed + UInt64.ofNat (n + 1) * increment := by
  rw [UInt64.ofNat_add, UInt64.add_mul, UInt64.add_assoc]
  exact congrArg _ (congrArg _ (UInt64.one_mul increment).symm)

/-- The counter has advanced by one step for each draw. -/
theorem state_after (seed : UInt64) (n : Nat) :
    (after seed n).state = seed + UInt64.ofNat n * increment := by
  induction n with
  | zero =>
      show seed = seed + 0 * increment
      rw [UInt64.zero_mul, UInt64.add_zero]
  | succ n ih =>
      rw [after_succ]
      show (after seed n).state + increment = _
      rw [ih, add_mul_increment_succ]

/-- The word after so many draws is the scrambled counter one step further on. -/
theorem word_eq (seed : UInt64) (n : Nat) :
    word seed n = scramble (seed + UInt64.ofNat (n + 1) * increment) := by
  show scramble ((after seed n).state + increment) = _
  rw [state_after, add_mul_increment_succ]

/-- Different seeds give different words after the same number of draws. -/
theorem word_injective_seed (n : Nat) : Function.Injective fun seed => word seed n := by
  intro seed seed' same
  simp only [word_eq] at same
  exact (UInt64.add_left_inj _).mp (scramble_injective same)

/-- As many numbers of draws as there are words give different words. -/
theorem word_injective_index (seed : UInt64) :
    Function.Injective fun n : Fin UInt64.size => word seed n := by
  intro m n same
  simp only [word_eq] at same
  -- neither scrambling nor the seed nor the odd step can make two counters meet
  have counters := (UInt64.add_right_inj _).mp (scramble_injective same)
  have odd : increment * 0xF1DE83E19937733D = 1 := by decide
  have steps := mul_injective odd counters
  rw [UInt64.ofNat_add, UInt64.ofNat_add, UInt64.add_left_inj] at steps
  have numbers := congrArg UInt64.toNat steps
  rw [UInt64.toNat_ofNat_of_lt' m.isLt, UInt64.toNat_ofNat_of_lt' n.isLt] at numbers
  exact Fin.ext numbers

end SplitMix

end FormulaArt
