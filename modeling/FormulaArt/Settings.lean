import FormulaArt.Fault
import FormulaArt.Render

/-!
# Settings

What a settings file can set: the size of the picture, the depths of its formulas, and how it is
rendered.

## Main definitions

* `Settings` — the values, with their defaults
* `Settings.validate` — the checks, in the order in which faults are reported
* `Settings.options`, `Settings.range` — what a render takes from the settings
-/

namespace FormulaArt

/-- What a settings file can set. -/
structure Settings where
  width : UInt32 := 350
  height : UInt32 := 350
  minDepth : Int32 := 9
  maxDepth : Int32 := 20
  /-- The seed of the generator; without it, the clock seeds it. -/
  seed : Option UInt64 := none
  /-- The forced strategy; without it, the size of the picture decides. -/
  strategy : Option Strategy := none
  threads : Option UInt64 := none
deriving Repr, DecidableEq

namespace Settings

/-- The settings of an empty file. -/
def default : Settings := {}

/-- Check the size, then the depths, then the threads. -/
def validate {α : Type} (s : Settings) : Except (Fault α) Unit :=
  if s.width = 0 ∨ s.height = 0 then
    .error (.dimensions s.width s.height)
  else if s.maxDepth < s.minDepth then
    .error (.depthRange s.minDepth s.maxDepth)
  else if s.threads = some 0 then
    .error (.validation .settingsThreads)
  else
    .ok ()

/-- The options for a render. -/
def options (s : Settings) : RenderOptions where
  strategy := s.strategy
  threads := s.threads

/-- The range of depths. -/
def range (s : Settings) : DepthRange where
  min := s.minDepth
  max := s.maxDepth

end Settings

end FormulaArt
