import FormulaArt.Command.Arguments
import FormulaArt.Command.Workspace
import FormulaArt.Decimal.Fixed
import FormulaArt.Expr.Formula
import FormulaArt.Random.SplitMix
import FormulaArt.Settings.Reader

/-!
# Running commands

The two commands: one renders a picture and saves it, the other times both strategies on the same
picture and checks that they agree. Both take their settings from a file, if one is named, and let
flags override it.

## Main definitions

* `CommandError` — why a command fails
* `effectiveSettings` — the settings of a command
* `runRender`, `runBench` — the commands
* `run` — a whole command line, with its exit code
-/

namespace FormulaArt

namespace Command

/-- Why a command fails. -/
inductive CommandError where
  | fault (cause : Fault Float)
  | load (path : String) (cause : Fault Float)
  | makeDirectory (path : String) (cause : FileError)
  | write (path : String) (cause : FileError)
  /-- Nothing is to be timed. -/
  | noRepeats
  /-- The mean of no times is asked for. -/
  | noTimes
  /-- A strategy gave another picture than the first one. -/
  | differs (strategy : Strategy)
deriving DecidableEq

namespace CommandError

/-- What failed. -/
def headline : CommandError → String
  | fault cause => cause.message
  | load path _ => s!"load config '{path}'"
  | makeDirectory path _ => s!"create output dir '{path}'"
  | write path _ => s!"write png '{path}'"
  | noRepeats => "--repeats must be > 0"
  | noTimes => "divide by zero error when dividing duration by scalar"
  | differs strategy =>
    s!"{strategy.name.capitalize} produced a different frame than sequential"

/-- Why it failed, where that is a fault of something underneath. -/
def cause? : CommandError → Option String
  | load _ cause => some cause.message
  | makeDirectory _ cause | write _ cause => some cause.message
  | _ => none

/-- A text whose lines are all indented. -/
def indent (text : String) : String :=
  String.intercalate "\n" ((text.splitOn "\n").map fun line => "    " ++ line)

/-- The failure as a report. -/
def report (e : CommandError) : String :=
  match e.cause? with
  | none => "Error: " ++ e.headline
  | some cause => "Error: " ++ e.headline ++ "\n\nCaused by:\n" ++ indent cause

end CommandError

/-- The settings with the flags in place of what they override. -/
def PictureFlags.override (flags : PictureFlags) (s : Settings) : Settings where
  width := flags.width.getD s.width
  height := flags.height.getD s.height
  minDepth := flags.minDepth.getD s.minDepth
  maxDepth := flags.maxDepth.getD s.maxDepth
  seed := flags.seed.or s.seed
  strategy := s.strategy
  threads := flags.threads.or s.threads

/-- The settings with the choice of a strategy in place of theirs. -/
def overrideStrategy (choice : Option StrategyChoice) (s : Settings) : Settings :=
  match choice with
  | none => s
  | some choice => { s with strategy := choice.resolve }

/-- The fault of a settings file, if there is one, and else the settings. -/
def settingsOf (path : String) : ReadOutcome → Except (Fault Float) Settings
  | .unopened cause => .error (.validation (.unopened path cause))
  | .unread cause => .error (.serialization (.unread cause))
  | .content bytes => Settings.parse bytes

section Commands

variable {m : Type → Type} [Monad m] [Workspace m]

/-- Settings from a file. -/
def loadSettings (path : String) : m (Except (Fault Float) Settings) :=
  settingsOf path <$> Workspace.read path

/-- The settings of a command: those of the file, if one is named, and else the defaults, with the
flags in place of what they override. -/
def effectiveSettings (flags : PictureFlags) : ExceptT CommandError m Settings := do
  match flags.config with
  | none => return flags.override Settings.default
  | some path =>
    match ← loadSettings path with
    | .ok settings => return flags.override settings
    | .error cause => throw (.load path cause)

/-- Go on with a result that may be a fault. -/
def orFail {β : Type} (result : Except (Fault Float) β) : ExceptT CommandError m β :=
  match result with
  | .ok v => return v
  | .error cause => throw (.fault cause)

/-- The seed of the settings, or one from the clock. -/
def seedOf (s : Settings) : ExceptT CommandError m UInt64 :=
  match s.seed with
  | some seed => return seed
  | none => Workspace.now

/-- The formulas for a range of depths and a seed. -/
def formulas (range : DepthRange) (seed : UInt64) : Except (Fault Float) (Channels Expr) :=
  (Channels.build range (SplitMix.ofSeed seed)).1

/-- The formulas of a picture, one a line. -/
def formulaLines (trees : Channels Expr) : String :=
  "red   = " ++ trees.red.formula ++ "\n" ++
  "green = " ++ trees.green.formula ++ "\n" ++
  "blue  = " ++ trees.blue.formula ++ "\n"

/-- Save a frame as a PNG file, and make the directory for it. -/
def savePicture (path : String) (frame : Frame) : ExceptT CommandError m Unit := do
  match Path.parent? path with
  | none | some "" => pure ()
  | some directory =>
    match ← makeDirectories directory with
    | .ok () => pure ()
    | .error cause => throw (.makeDirectory directory cause)
  let image ← orFail frame.toImage
  match ← Workspace.save path image with
  | .ok () => pure ()
  | .error cause => throw (.write path cause)

/-- Render a picture and save it. -/
def runRender (machine : Machine) (arguments : RenderArguments) :
    ExceptT CommandError m Unit := do
  let settings ← effectiveSettings arguments.picture
  let settings := overrideStrategy arguments.strategy settings
  orFail settings.validate
  let seed ← seedOf settings
  let trees ← orFail (formulas settings.range seed)
  if arguments.printTrees then
    Workspace.print (formulaLines trees)
  let (frame, _) ← orFail (renderChannels machine trees settings.width settings.height
    settings.options)
  savePicture arguments.out frame
  Workspace.report s!"wrote {arguments.out}\n"

/-- The times of some renders. -/
structure Timing where
  /-- The shortest time in nanoseconds, if there was a render. -/
  best : Option Nat := none
  total : Nat := 0
deriving Repr, DecidableEq

/-- The times with one more. -/
def Timing.add (t : Timing) (nanoseconds : Nat) : Timing where
  best := some ((t.best.map (min nanoseconds)).getD nanoseconds)
  total := t.total + nanoseconds

/-- The mean of so many times in nanoseconds, if there is a time. -/
def Timing.mean? (t : Timing) (count : Nat) : Option Nat :=
  if count = 0 then none else some (t.total / count)

/-- Text filled up with blanks on its left. -/
def padLeft (width : Nat) (text : String) : String :=
  String.ofList (List.replicate (width - text.length) ' ') ++ text

/-- Text filled up with blanks on its right. -/
def padRight (width : Nat) (text : String) : String :=
  text ++ String.ofList (List.replicate (width - text.length) ' ')

/-- Nanoseconds as seconds. Whole seconds and the rest of a second are converted apart. -/
def seconds (nanoseconds : Nat) : Float :=
  Float.ofNat (nanoseconds / 1000000000) + Float.ofNat (nanoseconds % 1000000000) / 1000000000

/-- Times are written positionally. Of two equally near decimals the even one is taken. -/
def timeLayout : Decimal.Layout where
  positional _ := true
  pointZero := false
  tie := .toEven

/-- Nanoseconds as milliseconds with three places. -/
def milliseconds (nanoseconds : Nat) : String :=
  timeLayout.fixed 3 (seconds nanoseconds * 1000)

/-- The line that reports the times of a strategy. -/
def timingLine (strategy : Strategy) (t : Timing) (mean : Nat) : String :=
  padRight 10 strategy.name ++
  " best " ++ padLeft 9 (milliseconds (t.best.getD 0)) ++ " ms" ++
  "   mean " ++ padLeft 9 (milliseconds mean) ++ " ms\n"

/-- The line that reports what is timed. -/
def benchHeader (settings : Settings) (seed : UInt64) (repeats : UInt32) : String :=
  s!"{settings.width}x{settings.height} px, depth {settings.minDepth}..{settings.maxDepth}, " ++
  s!"seed {seed}, {repeats} repeats\n"

/-- The renders that are timed: their frames, by their strategy and by how many more renders with it
are due after them. -/
structure BenchTask where
  render : Strategy → Nat → Except (Fault Float) Frame

namespace BenchTask

/-- What the timing of a strategy takes from settings: the number of threads and no strategy. -/
def options (settings : Settings) (strategy : Strategy) : RenderOptions where
  strategy := some strategy
  threads := settings.threads

/-- The renders of a picture, each with its strategy forced. The machine may interleave tasks in
another order each time. -/
def ofPicture (machines : Strategy → Nat → Machine) (trees : Channels Expr) (settings : Settings) :
    BenchTask where
  render strategy due :=
    (renderChannels (machines strategy due) trees settings.width settings.height
      (options settings strategy)).map Prod.fst

/-- Render so many times with a strategy, and hold every frame against the reference, which is the
first frame of all. -/
def timed (task : BenchTask) (strategy : Strategy) :
    Nat → Option Frame → Timing → ExceptT CommandError m (Option Frame × Timing)
  | 0, reference, timing => return (reference, timing)
  | due + 1, reference, timing => do
    let started ← Workspace.now
    let frame ← orFail (task.render strategy due)
    let ended ← Workspace.now
    let timing := timing.add (ended - started).toNat
    match reference with
    | none => task.timed strategy due (some frame) timing
    | some first =>
      if first = frame then task.timed strategy due (some first) timing
      else throw (.differs strategy)

/-- Time one strategy after the other, and report each. -/
def compare (task : BenchTask) (repeats : Nat) :
    List Strategy → Option Frame → ExceptT CommandError m Unit
  | [], _ => return ()
  | strategy :: strategies, reference => do
    let (reference, timing) ← task.timed strategy repeats reference {}
    match timing.mean? repeats with
    | none => throw .noTimes
    | some mean =>
      Workspace.print (timingLine strategy timing mean)
      task.compare repeats strategies reference

end BenchTask

/-- Time both strategies on the same picture. -/
def runBench (machines : Strategy → Nat → Machine) (arguments : BenchArguments) :
    ExceptT CommandError m Unit := do
  if arguments.repeats = 0 then
    throw .noRepeats
  let settings ← effectiveSettings arguments.picture
  orFail settings.validate
  let seed ← seedOf settings
  let trees ← orFail (formulas settings.range seed)
  Workspace.print (benchHeader settings seed arguments.repeats)
  (BenchTask.ofPicture machines trees settings).compare arguments.repeats.toNat
    [.sequential, .parallel] none

/-- The name and version of the program. -/
def versionLine : String :=
  "recursive-art 0.1.0\n"

/-- The text about the program. -/
def helpText : String :=
  "Usage: recursive-art <COMMAND>\n\nCommands:\n" ++
  "  render  Render one image as a PNG\n" ++
  "  bench   Time the sequential and parallel strategies on the same trees\n" ++
  "  help    Print this message or the help of the given subcommand(s)\n"

/-- Report how a command ended, and give its exit code. -/
def conclude (command : ExceptT CommandError m Unit) : m UInt32 := do
  match ← command with
  | .ok () => return 0
  | .error e =>
    Workspace.report (e.report ++ "\n")
    return 1

/-- Run a whole command line, and give its exit code: 0 if all went well, 1 if the command failed, 2
if the command line asks for nothing. -/
def run (machine : Machine) (words : List String) : m UInt32 := do
  match Invocation.parse words with
  | .ok .version =>
    Workspace.print versionLine
    return 0
  | .ok .help =>
    Workspace.print helpText
    return 0
  | .ok (.render arguments) => conclude (runRender machine arguments)
  | .ok (.bench arguments) => conclude (runBench (fun _ _ => machine) arguments)
  | .error e =>
    Workspace.report ("error: " ++ e.message ++ "\n")
    return 2

end Commands

end Command

end FormulaArt
