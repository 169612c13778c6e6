import FormulaArt.Scalar

/-!
# Draws derived from raw words

How one raw 64-bit word becomes a number of the unit interval, an index into a table or the side of
a coin. The functions here know nothing of where the word comes from, so that what holds of a draw
is a statement about a word.

## Main definitions

* `Draw.unit` — the top 53 bits as a fraction
* `Draw.index` — the word's share of a table, by its top bits
* `Draw.coin` — the upper half of the unit interval
* `StrayIndex` — an index outside the table that it was drawn for
-/

namespace FormulaArt

namespace Draw

/-- The top 53 bits of a word as a multiple of `2 ^ -53`, a number of `[0, 1)`. -/
def unit {α : Type} [Scalar α] (raw : UInt64) : α :=
  Scalar.ofInt ((raw >>> 11).toNat : Int) * (Scalar.ofInt 1 / Scalar.ofInt (Nat.pow 2 53 : Nat))

/-- The place in a table of `size` entries that a word falls on when the words, in order, are dealt
to the entries in runs as equal as can be: the high half of the double-width product. -/
def index (size : Nat) (raw : UInt64) : Nat :=
  raw.toNat * size / UInt64.size

/-- A coin shows heads on the upper half of the unit interval, one half included. -/
def coin {α : Type} [Scalar α] (u : α) : Bool :=
  Scalar.le Scalar.half u

end Draw

/-- An index that lies outside the table that it was drawn for. -/
structure StrayIndex where
  index : Nat
  size : Nat
deriving Repr, DecidableEq

end FormulaArt
