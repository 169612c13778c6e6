import FormulaArt.Frame
import FormulaArt.Render.Parallel
import FormulaArt.Render.Strategy

/-!
# Rendering

From formulas to a frame, and from a source of randomness to a frame.

## Main definitions

* `RenderOptions` — what the caller may force
* `Machine` — what the machine contributes: how many workers it has, how it interleaves tasks, and
  which pools of threads it can start
* `Machine.startPool` — start the pool that a strategy runs on
* `renderChannels` — the frame of three given formulas
* `renderRandom` — the frame of three formulas built from a source
-/

namespace FormulaArt

/-- What the caller of a render may force. -/
structure RenderOptions where
  /-- The strategy; without it, the number of pixels and workers decides. -/
  strategy : Option Strategy := none
  /-- The number of worker threads; without it, that of the machine. -/
  threads : Option UInt64 := none
deriving Repr, DecidableEq

/-- What the machine contributes to a render. -/
structure Machine where
  /-- The number of workers that it has. -/
  workers : Nat
  /-- The order in which it lets parallel tasks make their steps. -/
  schedule : Schedule
  /-- Why a pool of so many threads cannot be started, if it cannot. -/
  poolError? : UInt64 → Option String := fun _ => none

/-- What a render did. -/
structure RenderStats where
  /-- The strategy that ran. -/
  strategy : Strategy
  /-- The number of pixels. -/
  pixels : Nat
  /-- The number of workers that the strategy was chosen for. -/
  workers : Nat
deriving Repr, DecidableEq

namespace RenderOptions

/-- The number of workers to reckon with. -/
def workers (options : RenderOptions) (machine : Machine) : Nat :=
  match options.threads with
  | some n => n.toNat
  | none => machine.workers

/-- The strategy for a number of pixels. -/
def strategyFor (options : RenderOptions) (machine : Machine) (pixels : Nat) : Strategy :=
  options.strategy.getD (Strategy.select pixels (options.workers machine))

end RenderOptions

/-- Start the pool of threads that a strategy runs on. Only the parallel strategy runs on one, and if
its threads are not counted, it runs on the one that the machine has anyway. -/
def Machine.startPool {α : Type} (machine : Machine) :
    Strategy → Option UInt64 → Except (Fault α) Unit
  | .parallel, some n =>
    match machine.poolError? n with
    | none => return ()
    | some words => throw (.other ("failed to build rayon thread pool: " ++ words))
  | _, _ => return ()

variable {α : Type} [Scalar α]

/-- The bytes of a picture, evaluated pixel by pixel. -/
@[specialize] def sequentialBytes (g : Grid α) (trees : Channels Expr) : Array UInt8 :=
  g.coords.foldl
    (fun data p => pushLevels data (trees.red.eval p) (trees.green.eval p) (trees.blue.eval p)) #[]

/-- The bytes of a picture. -/
@[specialize] def pictureBytes (machine : Machine) (strategy : Strategy) (g : Grid α)
    (trees : Channels Expr) : Array UInt8 :=
  match strategy with
  | .sequential => sequentialBytes g trees
  | .parallel => parallelBytes machine.schedule g trees

/-- The frame of three formulas. The size is checked before the options, and a pool that is asked for
has to start before anything is evaluated. -/
@[specialize] def renderChannels (machine : Machine) (trees : Channels Expr)
    (width height : UInt32) (options : RenderOptions) :
    Except (Fault α) (Frame × RenderStats) := do
  let g ← Grid.create width height
  if options.threads = some 0 then
    throw (.validation .optionThreads)
  let strategy := options.strategyFor machine g.size
  machine.startPool strategy options.threads
  let frame ← Frame.ofBytes width height (pictureBytes machine strategy g trees)
  return (frame, { strategy, pixels := g.size, workers := options.workers machine })

/-- The frame of three formulas built from a source. The size is checked before anything is drawn. -/
@[specialize] def renderRandom {σ : Type} [RandomSource σ] (machine : Machine)
    (width height : UInt32) (range : DepthRange) (options : RenderOptions) :
    ExceptT (Fault α) (StateM σ) (Frame × RenderStats) := do
  if width = 0 ∨ height = 0 then
    throw (.dimensions width height)
  let trees ← Channels.build range
  ExceptT.mk (pure (renderChannels machine trees width height options))

end FormulaArt
