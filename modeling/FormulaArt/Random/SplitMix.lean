import FormulaArt.Random.Source

/-!
# The default generator

A counter that advances by a fixed odd number, and a function that scrambles the counter into the
word given out. The two are kept apart: the counter alone decides how far the generator has come,
and the scrambling alone decides which word that is.

## Main definitions

* `SplitMix` — the counter
* `SplitMix.scramble` — two rounds of shift, exclusive or and multiplication, and a last shift
* `Steady` — the generator with constants for its derived draws
-/

namespace FormulaArt

/-- A generator of raw words: a 64-bit counter. -/
structure SplitMix where
  /-- The counter; it starts at the seed. -/
  state : UInt64
deriving Repr, DecidableEq

namespace SplitMix

/-- The generator that starts at a seed. -/
def ofSeed (seed : UInt64) : SplitMix :=
  ⟨seed⟩

/-- The step of the counter. -/
def increment : UInt64 :=
  0x9E3779B97F4A7C15

/-- The word that a counter value stands for. -/
def scramble (z : UInt64) : UInt64 :=
  let z := (z ^^^ (z >>> 30)) * 0xBF58476D1CE4E5B9
  let z := (z ^^^ (z >>> 27)) * 0x94D049BB133111EB
  z ^^^ (z >>> 31)

/-- Advance the counter and scramble where it arrives. -/
def next (g : SplitMix) : UInt64 × SplitMix :=
  let state := g.state + increment
  (scramble state, ⟨state⟩)

instance : RandomSource SplitMix where
  next := next

end SplitMix

/-- A generator whose raw words vary and whose derived draws are constants that consume nothing. -/
structure Steady where
  generator : SplitMix
  unit : Float
  index : Nat
  coin : Bool

namespace Steady

instance : RandomSource Steady where
  next := fun s =>
    let (raw, generator) := s.generator.next
    (raw, { s with generator })
  unit := fun s => (s.unit, s)
  index _ := fun s => (s.index, s)
  coin := fun s => (s.coin, s)

end Steady

end FormulaArt
