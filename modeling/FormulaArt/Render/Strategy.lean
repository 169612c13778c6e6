/-!
# Strategies

The two ways in which a picture is computed, and the rule that chooses between them when the caller
does not. Both give the same picture; the choice is a matter of speed.

## Main definitions

* `Strategy` — pixel by pixel, or channel by channel
* `Strategy.select` — the rule
-/

namespace FormulaArt

/-- How the three channels of a picture are evaluated. -/
inductive Strategy where
  /-- One pass over the pixels that evaluates all three channels at each. -/
  | sequential
  /-- One task per channel over all pixels, joined afterwards. -/
  | parallel
deriving Repr, DecidableEq

namespace Strategy

/-- The number of pixels from which on the parallel strategy pays. -/
def parallelThreshold : Nat :=
  64 * 64

/-- The strategy for so many pixels and so many workers: parallel if the picture is large enough and
there are at least two workers. -/
def select (pixels workers : Nat) : Strategy :=
  if pixels < parallelThreshold || workers < 2 then sequential else parallel

/-- The name that settings and reports use. -/
def name : Strategy → String
  | sequential => "sequential"
  | parallel => "parallel"

/-- The strategy of a name. -/
def ofName? : String → Option Strategy
  | "sequential" => some sequential
  | "parallel" => some parallel
  | _ => none

end Strategy

end FormulaArt
