import FormulaArt.FileError
import FormulaArt.Random.Draw
import FormulaArt.Settings.ReadError

/-!
# Faults

Everything that can go wrong between a request for a picture and the picture, as causes. The words
for a cause are chosen in one place, `Fault.message`.

## Main definitions

* `Fault` — the causes; its parameter is the scalar that interval bounds are given in
* `Fault.Kind` — the causes without what they carry
* `Fault.message` — the words
-/

namespace FormulaArt

namespace Fault

/-- Why settings, render options or bytes are not valid. -/
inductive Reason where
  | settingsThreads
  | optionThreads
  /-- A frame of the given size is made from a wrong number of bytes. -/
  | frameBytes (given expected : Nat) (width height : UInt32)
  /-- There are too few bytes for an image of the given size. -/
  | imageBytes (width height : UInt32)
  | unopened (path : String) (cause : FileError)
  | text (words : String)
deriving Repr, DecidableEq

/-- The reason in words. -/
def Reason.message : Reason → String
  | settingsThreads => "config 'threads' must be >= 1 when set"
  | optionThreads => "render option 'threads' must be >= 1 when set"
  | frameBytes given expected width height =>
    s!"frame data has {given} bytes, expected {expected} for {width}x{height}"
  | imageBytes width height => s!"frame buffer does not fit {width}x{height}"
  | unopened path cause => s!"open config JSON '{path}': {cause.message}"
  | text words => words

/-- Why settings cannot be read. -/
inductive Unreadable where
  | malformed (cause : Settings.ReadError)
  /-- The file could be opened and not read. -/
  | unread (cause : FileError)
  | text (words : String)
deriving DecidableEq

/-- The reason in words. -/
def Unreadable.message : Unreadable → String
  | malformed cause => "parse config JSON: " ++ cause.message
  | unread cause => "parse config JSON: " ++ cause.message
  | text words => words

/-- The kinds of fault. -/
inductive Kind where
  | depthRange
  | dimensions
  | degenerateInterval
  | validation
  | serialization
  | strayIndex
  | other
deriving Repr, DecidableEq

end Fault

/-- What can go wrong between a request for a picture and the picture. -/
inductive Fault (α : Type) where
  /-- The least depth is above the greatest; both as given. -/
  | depthRange (min max : Int32)
  | dimensions (width height : UInt32)
  /-- An interval to map from has no width. -/
  | degenerateInterval (min max : α)
  | validation (reason : Fault.Reason)
  | serialization (reason : Fault.Unreadable)
  | strayIndex (cause : StrayIndex)
  | other (words : String)
deriving DecidableEq

namespace Fault

/-- The kind of a fault. -/
def kind {α : Type} : Fault α → Kind
  | depthRange .. => .depthRange
  | dimensions .. => .dimensions
  | degenerateInterval .. => .degenerateInterval
  | validation _ => .validation
  | serialization _ => .serialization
  | strayIndex _ => .strayIndex
  | other _ => .other

/-- Bounds of intervals are written with the fewest digits that identify them, always positionally,
integral ones without a point. -/
def boundLayout : Decimal.Layout where
  positional _ := true
  pointZero := false
  tie := .awayFromZero

/-- The fault in words. -/
def message : Fault Float → String
  | depthRange min max =>
    s!"invalid depth range: min_depth {min} is greater than max_depth {max}"
  | dimensions width height => s!"invalid dimensions: {width}x{height} (both must be > 0)"
  | degenerateInterval min max =>
    s!"degenerate source interval [{boundLayout.render min}, {boundLayout.render max}]"
  | validation reason => "validation error: " ++ reason.message
  | serialization reason => "serialization error: " ++ reason.message
  | strayIndex cause =>
    s!"index out of bounds: the len is {cause.size} but the index is {cause.index}"
  | other words => words

end Fault

end FormulaArt
