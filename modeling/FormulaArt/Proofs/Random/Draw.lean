import FormulaArt.Random.Draw

/-!
# The words behind a draw

`Draw.index` deals the words out in runs, one run for each place of the table.  A place is reached
exactly from its least word on, so that every place has a word of its own as long as the table has no
more entries than there are words.

## Main definitions

* `Draw.leastWord` — the least word that falls on a place or behind it

## Main statements

* `Draw.index_lt` — an index lies in the table
* `Draw.le_index_iff` — which words fall on a place or behind it
* `Draw.index_leastWord` — the least word of a place falls on it
-/

namespace FormulaArt

namespace Draw

/-- The share of a word lies in the table. -/
theorem index_lt {size : Nat} (positive : 0 < size) (raw : UInt64) : index size raw < size := by
  rw [index]
  refine Nat.div_lt_of_lt_mul ?_
  exact Nat.mul_lt_mul_of_pos_right raw.toNat_lt positive

/-- The least word that falls on a place of the table or behind it. -/
def leastWord (size i : Nat) : Nat :=
  (i * UInt64.size + (size - 1)) / size

/-- The words that fall on a place or behind it are those from its least word on. -/
theorem le_index_iff {size : Nat} (positive : 0 < size) (i : Nat) (raw : UInt64) :
    i ≤ index size raw ↔ leastWord size i ≤ raw.toNat := by
  rw [index, leastWord, Nat.le_div_iff_mul_le (by decide), Nat.div_le_iff_le_mul_add_pred positive,
    Nat.mul_comm raw.toNat size]
  exact (Nat.add_le_add_iff_right).symm

/-- The least words of neighbouring places differ, if there are enough words for all places. -/
theorem leastWord_lt_succ {size : Nat} (positive : 0 < size) (small : size ≤ UInt64.size) (i : Nat) :
    leastWord size i < leastWord size (i + 1) := by
  rw [leastWord, leastWord, ← Nat.succ_le_iff, Nat.succ_eq_add_one, ← Nat.add_div_right _ positive]
  refine Nat.div_le_div_right ?_
  rw [Nat.succ_mul]
  omega

/-- A place inside a table that has no more entries than there are words has a word. -/
theorem leastWord_lt {size i : Nat} (inside : i < size) (small : size ≤ UInt64.size) :
    leastWord size i < UInt64.size := by
  have positive : 0 < size := Nat.zero_lt_of_lt inside
  rw [leastWord, Nat.div_lt_iff_lt_mul positive]
  have next : (i + 1) * UInt64.size ≤ size * UInt64.size := Nat.mul_le_mul_right _ inside
  rw [Nat.succ_mul] at next
  rw [Nat.mul_comm UInt64.size size]
  omega

/-- The least word of a place falls on it. -/
theorem index_leastWord {size i : Nat} (inside : i < size) (small : size ≤ UInt64.size) :
    index size (UInt64.ofNat (leastWord size i)) = i := by
  have positive : 0 < size := Nat.zero_lt_of_lt inside
  have word : (UInt64.ofNat (leastWord size i)).toNat = leastWord size i :=
    UInt64.toNat_ofNat_of_lt (leastWord_lt inside small)
  refine Nat.le_antisymm ?_ ((le_index_iff positive i _).mpr (Nat.le_of_eq word.symm))
  -- a word beyond the place would be no less than the least word of the next one
  refine Nat.le_of_lt_succ (Nat.lt_of_not_le fun beyond => ?_)
  have above := (le_index_iff positive (i + 1) _).mp beyond
  rw [word] at above
  exact Nat.not_le_of_lt (leastWord_lt_succ positive small i) above

end Draw

end FormulaArt
