/-!
# The fields of a settings file

The seven names that a settings file may use, in the order in which they are declared, written and
read by position.
-/

namespace FormulaArt

namespace Settings

/-- A field of a settings file. -/
inductive Field where
  | width
  | height
  | minDepth
  | maxDepth
  | seed
  | strategy
  | threads
deriving Repr, DecidableEq

namespace Field

/-- All fields in the order of their declaration. -/
def all : List Field :=
  [width, height, minDepth, maxDepth, seed, strategy, threads]

/-- The name of a field. -/
def name : Field → String
  | width => "width"
  | height => "height"
  | minDepth => "min_depth"
  | maxDepth => "max_depth"
  | seed => "seed"
  | strategy => "strategy"
  | threads => "threads"

/-- The field of a name. -/
def ofName? (s : String) : Option Field :=
  all.find? fun f => f.name == s

end Field

end Settings

end FormulaArt
