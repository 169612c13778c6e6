import FormulaArt.Render.Strategy

/-!
# Command line arguments

The words of a command line, read from left to right. A flag is written `--name value` or
`--name=value`, in full and at most once. The first fault ends the reading; a request for help ends
it too, and counts if no fault comes before it.

## Main definitions

* `Flag` — the flags of all commands
* `PictureFlags`, `RenderArguments`, `BenchArguments` — what a command is given
* `Invocation` — what a command line asks for, and `Invocation.parse`
* `UsageError` — why a command line asks for nothing
-/

namespace FormulaArt

namespace Command

/-- A flag. -/
inductive Flag where
  | config
  | width
  | height
  | minDepth
  | maxDepth
  | seed
  | threads
  | out
  | strategy
  | printTrees
  | repeats
deriving Repr, DecidableEq

namespace Flag

/-- The name of a flag, without its dashes. -/
def name : Flag → String
  | config => "config"
  | width => "width"
  | height => "height"
  | minDepth => "min-depth"
  | maxDepth => "max-depth"
  | seed => "seed"
  | threads => "threads"
  | out => "out"
  | strategy => "strategy"
  | printTrees => "print-trees"
  | repeats => "repeats"

/-- The flags that say which picture is meant. -/
def ofPicture : List Flag :=
  [config, width, height, minDepth, maxDepth, seed, threads]

/-- The flags of the command that renders. -/
def ofRender : List Flag :=
  out :: ofPicture ++ [strategy, printTrees]

/-- The flags of the command that compares the strategies. -/
def ofBench : List Flag :=
  ofPicture ++ [repeats]

/-- Whether a flag has a value. -/
def takesValue (f : Flag) : Bool :=
  f != printTrees

/-- Whether the value of a flag may be a negative number that stands as a word of its own. -/
def takesNegative (f : Flag) : Bool :=
  f == minDepth || f == maxDepth

end Flag

/-- Why a command line asks for nothing. -/
inductive UsageError where
  | missingCommand
  | unknownCommand (word : String)
  | unknownFlag (word : String)
  | unexpectedWord (word : String)
  | repeated (flag : Flag)
  | missingValue (flag : Flag)
  | unneededValue (name : String)
  | invalidValue (flag : Flag) (value : String)
  | missingFlag (flag : Flag)
deriving Repr, DecidableEq

namespace UsageError

/-- The fault in words. -/
def message : UsageError → String
  | missingCommand => "a command is required"
  | unknownCommand word => s!"unrecognized subcommand '{word}'"
  | unknownFlag word => s!"unexpected argument '{word}' found"
  | unexpectedWord word => s!"unexpected argument '{word}' found"
  | repeated flag => s!"the argument '--{flag.name}' cannot be used multiple times"
  | missingValue flag => s!"a value is required for '--{flag.name}' but none was supplied"
  | unneededValue name => s!"unexpected value for '--{name}' found; no more were expected"
  | invalidValue flag value => s!"invalid value '{value}' for '--{flag.name}'"
  | missingFlag flag => s!"the following required argument was not provided: --{flag.name}"

end UsageError

/-- The strategy that a command line chooses. -/
inductive StrategyChoice where
  /-- None: the size of the picture decides, whatever the settings say. -/
  | auto
  | forced (strategy : Strategy)
deriving Repr, DecidableEq

/-- The strategy that a choice forces. -/
def StrategyChoice.resolve : StrategyChoice → Option Strategy
  | auto => none
  | forced strategy => some strategy

/-- Which picture is meant. What is given here overrides the settings file. -/
structure PictureFlags where
  config : Option String := none
  width : Option UInt32 := none
  height : Option UInt32 := none
  minDepth : Option Int32 := none
  maxDepth : Option Int32 := none
  seed : Option UInt64 := none
  threads : Option UInt64 := none
deriving Repr, DecidableEq

/-- What the command that renders is given. -/
structure RenderArguments where
  out : String
  picture : PictureFlags := {}
  strategy : Option StrategyChoice := none
  printTrees : Bool := false
deriving Repr, DecidableEq

/-- What the command that compares the strategies is given. -/
structure BenchArguments where
  picture : PictureFlags := {}
  repeats : UInt32 := 3
deriving Repr, DecidableEq

/-- What a command line asks for. -/
inductive Invocation where
  | version
  | help
  | render (arguments : RenderArguments)
  | bench (arguments : BenchArguments)
deriving Repr, DecidableEq

/-! ### Values -/

/-- The value of decimal digits, of which there has to be one. -/
def readDigits? (s : List Char) : Option Nat :=
  if s.isEmpty ∨ !s.all Char.isDigit then none
  else some (s.foldl (fun n c => n * 10 + (c.toNat - '0'.toNat)) 0)

/-- A decimal integer, perhaps with a sign. -/
def readSigned? : List Char → Option Int
  | '+' :: s => (readDigits? s).map Int.ofNat
  | '-' :: s => (readDigits? s).map fun n => -(n : Int)
  | s => (readDigits? s).map Int.ofNat

/-- A decimal integer between two bounds, perhaps with a sign. -/
def readWithin? (low high : Int) (s : String) : Option Int :=
  (readSigned? s.toList).filter fun n => low ≤ n && n ≤ high

/-- An unsigned integer of 32 bits. A zero may have a minus sign. -/
def readUnsigned32? (s : String) : Option UInt32 :=
  (readWithin? 0 (UInt32.size - 1) s).map fun n => UInt32.ofNat n.toNat

/-- A signed integer of 32 bits. -/
def readSigned32? (s : String) : Option Int32 :=
  (readWithin? Int32.minValue.toInt Int32.maxValue.toInt s).map Int32.ofInt

/-- An unsigned integer of 64 bits, without a minus sign. -/
def readUnsigned64? (s : String) : Option UInt64 :=
  if s.startsWith "-" then none
  else (readWithin? 0 (UInt64.size - 1) s).map fun n => UInt64.ofNat n.toNat

/-- The path of a file, which is not empty. -/
def readPath? (s : String) : Option String :=
  if s.isEmpty then none else some s

/-- The choice of a strategy. -/
def readChoice? : String → Option StrategyChoice
  | "auto" => some .auto
  | s => (Strategy.ofName? s).map .forced

/-! ### Flags -/

/-- The flags read so far. -/
structure Given where
  picture : PictureFlags := {}
  out : Option String := none
  strategy : Option StrategyChoice := none
  printTrees : Bool := false
  repeats : Option UInt32 := none
deriving Repr, DecidableEq

namespace Given

/-- The value that a flag gets, unless it has one. -/
def once {β : Type} (flag : Flag) (old : Option β) (read : String → Option β) (value : String) :
    Except UsageError (Option β) :=
  if old.isSome then .error (.repeated flag)
  else
    match read value with
    | some v => .ok (some v)
    | none => .error (.invalidValue flag value)

/-- Give a flag its value. A flag without a value is given the empty text. -/
def set (g : Given) (flag : Flag) (value : String) : Except UsageError Given := do
  let p := g.picture
  match flag with
  | .config =>
    let config ← once flag p.config readPath? value
    return { g with picture := { p with config } }
  | .width =>
    let width ← once flag p.width readUnsigned32? value
    return { g with picture := { p with width } }
  | .height =>
    let height ← once flag p.height readUnsigned32? value
    return { g with picture := { p with height } }
  | .minDepth =>
    let minDepth ← once flag p.minDepth readSigned32? value
    return { g with picture := { p with minDepth } }
  | .maxDepth =>
    let maxDepth ← once flag p.maxDepth readSigned32? value
    return { g with picture := { p with maxDepth } }
  | .seed =>
    let seed ← once flag p.seed readUnsigned64? value
    return { g with picture := { p with seed } }
  | .threads =>
    let threads ← once flag p.threads readUnsigned64? value
    return { g with picture := { p with threads } }
  | .out =>
    let out ← once flag g.out readPath? value
    return { g with out }
  | .strategy =>
    let strategy ← once flag g.strategy readChoice? value
    return { g with strategy }
  | .printTrees =>
    if g.printTrees then throw (.repeated flag)
    return { g with printTrees := true }
  | .repeats =>
    let repeats ← once flag g.repeats readUnsigned32? value
    return { g with repeats }

end Given

/-! ### Words -/

/-- Whether a word starts with two dashes. -/
def isLong (word : String) : Bool :=
  word.startsWith "--"

/-- Whether a word starts with a dash and does not consist of it alone. -/
def isDashed (word : String) : Bool :=
  word.startsWith "-" && word != "-"

/-- A long word without its dashes, split at the first equals sign. -/
def splitLong (word : String) : String × Option String :=
  let body := word.toList.drop 2
  match body.dropWhile (· != '=') with
  | [] => (String.ofList body, none)
  | _ :: value => (String.ofList (body.takeWhile (· != '=')), some (String.ofList value))

/-- Whether the word after a flag is its value: it is, unless it looks like a flag. -/
def isValueFor (flag : Flag) (word : String) : Bool :=
  !isDashed word || (flag.takesNegative && (word.toList.drop 1).all Char.isDigit)

/-- Whether a word asks for help by letter. -/
def asksHelp (word : String) : Bool :=
  (word.toList.drop 1).head? == some 'h'

/-- Read the words after a command. The answer is `none` if they ask for help. -/
def readFlags (allowed : List Flag) : Given → List String → Except UsageError (Option Given)
  | g, [] => .ok (some g)
  | g, word :: words =>
    if word = "--" then
      match words with
      | [] => .ok (some g)
      | extra :: _ => .error (.unexpectedWord extra)
    else if isLong word then
      let (name, attached) := splitLong word
      if name = "help" then
        if attached.isSome then .error (.unneededValue name) else .ok none
      else
        match allowed.find? fun f => f.name == name with
        | none => .error (.unknownFlag word)
        | some flag =>
          if flag.takesValue then
            match attached, words with
            | some value, words => do readFlags allowed (← g.set flag value) words
            | none, value :: words =>
              if isValueFor flag value then do readFlags allowed (← g.set flag value) words
              else .error (.missingValue flag)
            | none, [] => .error (.missingValue flag)
          else if attached.isSome then
            .error (.unneededValue name)
          else do
            readFlags allowed (← g.set flag "") words
    else if isDashed word then
      if asksHelp word then .ok none else .error (.unknownFlag word)
    else
      .error (.unexpectedWord word)

/-- What the command that renders is given by its words. -/
def readRender (words : List String) : Except UsageError Invocation := do
  match ← readFlags Flag.ofRender {} words with
  | none => return .help
  | some g =>
    match g.out with
    | none => throw (.missingFlag .out)
    | some out =>
      return .render
        { out, picture := g.picture, strategy := g.strategy, printTrees := g.printTrees }

/-- What the command that compares the strategies is given by its words. -/
def readBench (words : List String) : Except UsageError Invocation := do
  match ← readFlags Flag.ofBench {} words with
  | none => return .help
  | some g => return .bench { picture := g.picture, repeats := g.repeats.getD 3 }

/-- The names of the commands. -/
def commandNames : List String :=
  ["render", "bench", "help"]

/-- Read the words after the command that asks for help: at most one, the name of a command. -/
def readHelp : List String → Except UsageError Invocation
  | [] => .ok .help
  | word :: words =>
    if word ∈ commandNames then
      match words with
      | [] => .ok .help
      | extra :: _ => .error (.unknownCommand extra)
    else
      .error (.unknownCommand word)

/-- Read a first word that starts with dashes. -/
def readGlobal (word : String) : Except UsageError Invocation :=
  if isLong word then
    let (name, attached) := splitLong word
    if name = "help" ∨ name = "version" then
      if attached.isSome then .error (.unneededValue name)
      else .ok (if name = "help" then .help else .version)
    else
      .error (.unknownFlag word)
  else
    match (word.toList.drop 1).head? with
    | some 'h' => .ok .help
    | some 'V' => .ok .version
    | _ => .error (.unknownFlag word)

/-- What a command line asks for. -/
def Invocation.parse : List String → Except UsageError Invocation
  | [] => .error .missingCommand
  | word :: words =>
    if word = "render" then readRender words
    else if word = "bench" then readBench words
    else if word = "help" then readHelp words
    else if word = "--" then
      match words with
      | [] => .error .missingCommand
      | extra :: _ => .error (.unexpectedWord extra)
    else if isDashed word then readGlobal word
    else .error (.unknownCommand word)

end Command

end FormulaArt
