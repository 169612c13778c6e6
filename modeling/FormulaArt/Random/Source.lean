import FormulaArt.Random.Draw

/-!
# Sources of randomness

A source is a state that yields raw words. The derived draws have defaults in terms of the raw word,
and a source may replace any of them: a coin that a source does not define follows the source's own
unit draw, not the raw word.

## Main definitions

* `RandomSource` — raw words and the draws derived from them
* `RandomSource.pick` — an index that is known to lie in its table
* `Forwarded` — a source reached through one more layer, which must change nothing
* `Tape` — an endless tape of raw words and the reading position on it

## Design notes

A draw is an action on the state (`StateM σ`), so a computation that draws shows in its type that it
consumes randomness, and its final state is there to be compared. A source may answer an index that is
outside the table; whoever looks up a table draws with `pick`, which stops there.
-/

namespace FormulaArt

/-- A state that yields raw 64-bit words, and draws derived from them. -/
class RandomSource (σ : Type) where
  /-- The next raw word. -/
  next : StateM σ UInt64
  /-- A number of `[0, 1)`. -/
  unit : StateM σ Float := Draw.unit <$> next
  /-- An index below `size`, for a table that is not empty. -/
  index (size : Nat) : StateM σ Nat := Draw.index size <$> next
  /-- A fair coin. -/
  coin : StateM σ Bool := Draw.coin <$> unit

/-- Draw an index and hold it against the size of its table. -/
def RandomSource.pick {σ : Type} [RandomSource σ] (size : Nat) :
    ExceptT StrayIndex (StateM σ) (Fin size) := do
  let i ← (index size : StateM σ Nat)
  if h : i < size then
    return ⟨i, h⟩
  else
    throw { index := i, size }

/-- A source reached through one more layer. -/
structure Forwarded (σ : Type) where
  /-- The source that answers. -/
  source : σ
deriving Repr, DecidableEq

namespace Forwarded

variable {σ : Type}

/-- Perform a draw on the source behind the layer. -/
def through {α : Type} (draw : StateM σ α) : StateM (Forwarded σ) α := fun s =>
  let (a, source) := draw s.source
  (a, ⟨source⟩)

/-- Every draw is passed on, those with a default included. -/
instance [RandomSource σ] : RandomSource (Forwarded σ) where
  next := through RandomSource.next
  unit := through RandomSource.unit
  index size := through (RandomSource.index size)
  coin := through RandomSource.coin

end Forwarded

/-- An endless tape of raw words and the number of words read from it. -/
structure Tape where
  /-- The word at each position. -/
  word : Nat → UInt64
  /-- The position of the next word to read. -/
  position : Nat

namespace Tape

/-- The tape that holds the given words and then repeats the last of them; zeros if there is none. -/
def ofArray (words : Array UInt64) : Tape where
  word i := words.getD (min i (words.size - 1)) 0
  position := 0

/-- Reading a word moves the tape by one. -/
instance : RandomSource Tape where
  next := fun tape => (tape.word tape.position, { tape with position := tape.position + 1 })

end Tape

end FormulaArt
