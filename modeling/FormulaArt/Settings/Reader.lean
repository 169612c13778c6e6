import FormulaArt.Settings
import FormulaArt.Settings.Number
import FormulaArt.Settings.StringLiteral

/-!
# Reading settings

Settings are read from an object with some of the fields in any order, or from a list of the values
of the first fields. What is not given keeps its default. The first fault in reading order is
reported: a key is judged as soon as it is read, before its value.

## Main definitions

* `Settings.readField` — the value of a field
* `Settings.readMembers` — the members of an object
* `Settings.readElements` — the elements of a list
* `Settings.ofBytes` — settings from a whole file
* `Settings.parse`, `Settings.parseText` — with the fault of a file that holds none

## Design notes

Reading an object keeps the list of the fields that have not been given. A key outside this list is a
fault, so the list shrinks with every member.

A text is read as the bytes that encode it. The program reads texts and streams of bytes with two
readers of the same library; that they are one function here rests on the library, whose two readers
accept the same settings and find the same faults wherever the bytes are valid UTF-8.
-/

namespace FormulaArt

namespace Settings

/-- What a number literal is found as. -/
def NumberLiteral.found : NumberLiteral → Found
  | integer n => .integer n
  | floating v => .floating v

/-- What stands where a value of another kind is expected. -/
def readFound (s : Bytes) : Except ReadError Found :=
  match s with
  | [] => .error .expectedValue
  | b :: rest =>
    if b = Byte.lowerN then (readNullTail rest).map fun _ => .null
    else if b = Byte.lowerT then (readTrueTail rest).map fun _ => .boolean true
    else if b = Byte.lowerF then (readFalseTail rest).map fun _ => .boolean false
    else if b = Byte.quote then (readString rest).map fun (text, _) => .string text
    else if b = Byte.openBracket then .ok .sequence
    else if b = Byte.openBrace then .ok .map
    else if b = Byte.minus then (readNumber true rest).map fun (literal, _) => literal.found
    else if Byte.isDigit b then (readNumber false s).map fun (literal, _) => literal.found
    else .error .expectedValue

/-- The fault of a value of the wrong kind: a fault inside the value comes first. -/
def mistyped (expected : Expected) (s : Bytes) : ReadError :=
  match readFound s with
  | .ok found => .invalidType found expected
  | .error e => e

/-- The integer of a literal, held against the bounds of its type. -/
def checkInteger (expected : Expected) (low high : Int) : NumberLiteral → Except ReadError Int
  | .integer n => if low ≤ n ∧ n ≤ high then .ok n else .error (.invalidValue n expected)
  | .floating v => .error (.invalidType (.floating v) expected)

/-- Read an integer between two bounds. -/
def readInteger (expected : Expected) (low high : Int) (s : Bytes) :
    Except ReadError (Int × Bytes) :=
  match skipSpace s with
  | [] => .error .endInValue
  | b :: rest =>
    if b = Byte.minus then do
      let (literal, rest) ← readNumber true rest
      return (← checkInteger expected low high literal, rest)
    else if Byte.isDigit b then do
      let (literal, rest) ← readNumber false (b :: rest)
      return (← checkInteger expected low high literal, rest)
    else
      .error (mistyped expected (b :: rest))

/-- Read an unsigned integer of 32 bits. -/
def readUnsigned32 (s : Bytes) : Except ReadError (UInt32 × Bytes) := do
  let (n, rest) ← readInteger .unsigned32 0 (UInt32.size - 1) s
  return (UInt32.ofNat n.toNat, rest)

/-- Read a signed integer of 32 bits. -/
def readSigned32 (s : Bytes) : Except ReadError (Int32 × Bytes) := do
  let (n, rest) ← readInteger .signed32 Int32.minValue.toInt Int32.maxValue.toInt s
  return (Int32.ofInt n, rest)

/-- Read an unsigned integer of 64 bits. -/
def readUnsigned64 (expected : Expected) (s : Bytes) : Except ReadError (UInt64 × Bytes) := do
  let (n, rest) ← readInteger expected 0 (UInt64.size - 1) s
  return (UInt64.ofNat n.toNat, rest)

/-- Read a value of an optional field that is not `null`. -/
def readPresent {β : Type} (read : Bytes → Except ReadError (β × Bytes)) (s : Bytes) :
    Except ReadError (Option β × Bytes) := do
  let (v, rest) ← read s
  return (some v, rest)

/-- Read `null` or a value. -/
def readOptional {β : Type} (read : Bytes → Except ReadError (β × Bytes)) (s : Bytes) :
    Except ReadError (Option β × Bytes) :=
  match skipSpace s with
  | [] => readPresent read []
  | b :: rest =>
    if b = Byte.lowerN then do
      let rest ← readNullTail rest
      return (none, rest)
    else
      readPresent read (b :: rest)

/-- Read the colon between a key and its value. -/
def readColon (s : Bytes) : Except ReadError Bytes :=
  match skipSpace s with
  | [] => .error .endInObject
  | b :: rest => if b = Byte.colon then .ok rest else .error .expectedColon

/-- The strategy of a name. -/
def strategyNamed (name : String) : Except ReadError Strategy :=
  match Strategy.ofName? name with
  | some strategy => .ok strategy
  | none => .error (.unknownVariant name)

/-- Read the name of a strategy, whose opening quote has been read. -/
def readVariant (s : Bytes) : Except ReadError (Strategy × Bytes) := do
  let (name, rest) ← readString s
  return (← strategyNamed name, rest)

/-- Read the literal `null` as a value of its own. -/
def readUnit (s : Bytes) : Except ReadError Bytes :=
  match skipSpace s with
  | [] => .error .endInValue
  | b :: rest =>
    if b = Byte.lowerN then readNullTail rest else .error (mistyped .unit (b :: rest))

/-- Read the closing brace of an object with one member. -/
def readSingleEnd (s : Bytes) : Except ReadError Bytes :=
  match skipSpace s with
  | [] => .error .endInObject
  | b :: rest => if b = Byte.closeBrace then .ok rest else .error .expectedValue

/-- How an object or a list goes on. -/
inductive Continuation where
  /-- It ends here; this follows. -/
  | finished (rest : Bytes)
  /-- Another member or element starts here. -/
  | more (rest : Bytes)
deriving Repr, DecidableEq

/-- Read up to the key that has to follow a comma, past its opening quote. -/
def readKeyAfterComma (s : Bytes) : Except ReadError Continuation :=
  match skipSpace s with
  | [] => .error .endInValue
  | b :: rest =>
    if b = Byte.quote then .ok (.more rest)
    else if b = Byte.closeBrace then .error .trailingComma
    else .error .keyNotString

/-- Read up to the next key of an object, past its opening quote. -/
def readNextKey (first : Bool) (s : Bytes) : Except ReadError Continuation :=
  match skipSpace s with
  | [] => .error .endInObject
  | b :: rest =>
    if b = Byte.closeBrace then .ok (.finished rest)
    else if first then
      if b = Byte.quote then .ok (.more rest) else .error .keyNotString
    else if b = Byte.comma then
      readKeyAfterComma rest
    else
      .error .expectedCommaOrBrace

/-- Read an object whose only key is the name of a strategy and whose only value is `null`, after its
opening brace. -/
def readStrategyObject (s : Bytes) : Except ReadError (Strategy × Bytes) := do
  match ← readNextKey true s with
  | .finished _ => throw .expectedValue
  | .more rest =>
    let (strategy, rest) ← readVariant rest
    let rest ← readColon rest
    let rest ← readUnit rest
    let rest ← readSingleEnd rest
    return (strategy, rest)

/-- Read a strategy: its name, or an object with its name as the only key. -/
def readStrategy (s : Bytes) : Except ReadError (Strategy × Bytes) :=
  match skipSpace s with
  | [] => .error .endInValue
  | b :: rest =>
    if b = Byte.quote then readVariant rest
    else if b = Byte.openBrace then readStrategyObject rest
    else .error .expectedValue

/-- Read the value of a field into the settings. -/
def readField (f : Field) (settings : Settings) (s : Bytes) :
    Except ReadError (Settings × Bytes) :=
  match f with
  | .width => do
    let (width, rest) ← readUnsigned32 s
    return ({ settings with width }, rest)
  | .height => do
    let (height, rest) ← readUnsigned32 s
    return ({ settings with height }, rest)
  | .minDepth => do
    let (minDepth, rest) ← readSigned32 s
    return ({ settings with minDepth }, rest)
  | .maxDepth => do
    let (maxDepth, rest) ← readSigned32 s
    return ({ settings with maxDepth }, rest)
  | .seed => do
    let (seed, rest) ← readOptional (readUnsigned64 .unsigned64) s
    return ({ settings with seed }, rest)
  | .strategy => do
    let (strategy, rest) ← readOptional readStrategy s
    return ({ settings with strategy }, rest)
  | .threads => do
    let (threads, rest) ← readOptional (readUnsigned64 .count) s
    return ({ settings with threads }, rest)

/-- Read the members of an object up to its closing brace. The list holds the fields that have not
been given yet. -/
def readMembers (absent : List Field) (first : Bool) (settings : Settings) (s : Bytes) :
    Except ReadError (Settings × Bytes) := do
  match ← readNextKey first s with
  | .finished rest => return (settings, rest)
  | .more rest =>
    let (name, rest) ← readString rest
    match Field.ofName? name with
    | none => throw (.unknownField name)
    | some f =>
      if _h : f ∈ absent then
        let rest ← readColon rest
        let (settings, rest) ← readField f settings rest
        readMembers (absent.erase f) false settings rest
      else
        throw (.duplicateField f)
termination_by absent.length
decreasing_by
  have := List.length_erase_of_mem _h
  have := List.length_pos_of_mem _h
  omega

/-- Read up to the element that has to follow a comma. -/
def readElementAfterComma (s : Bytes) : Except ReadError Continuation :=
  match skipSpace s with
  | [] => .error .endInValue
  | b :: rest =>
    if b = Byte.closeBracket then .error .trailingComma else .ok (.more (b :: rest))

/-- Read up to the next element of a list. -/
def readNextElement (first : Bool) (s : Bytes) : Except ReadError Continuation :=
  match skipSpace s with
  | [] => .error .endInList
  | b :: rest =>
    if b = Byte.closeBracket then .ok (.finished rest)
    else if first then .ok (.more (b :: rest))
    else if b = Byte.comma then readElementAfterComma rest
    else .error .expectedCommaOrBracket

/-- Read the end of a list that has an element for every field. -/
def readListEnd (s : Bytes) : Except ReadError Bytes :=
  match skipSpace s with
  | [] => .error .endInList
  | b :: rest =>
    if b = Byte.closeBracket then .ok rest
    else if b = Byte.comma ∧ (skipSpace rest).head? = some Byte.closeBracket then
      .error .trailingComma
    else
      .error .trailingCharacters

/-- Read the elements of a list, one for each of the fields in turn, up to its closing bracket. -/
def readElements : List Field → Bool → Settings → Bytes → Except ReadError (Settings × Bytes)
  | [], _, settings, s => do
    let rest ← readListEnd s
    return (settings, rest)
  | f :: fields, first, settings, s => do
    match ← readNextElement first s with
    | .finished rest => return (settings, rest)
    | .more rest =>
      let (settings, rest) ← readField f settings rest
      readElements fields false settings rest

/-- Read settings in either form. -/
def readSettings (s : Bytes) : Except ReadError (Settings × Bytes) :=
  match skipSpace s with
  | [] => .error .endInValue
  | b :: rest =>
    if b = Byte.openBracket then readElements Field.all true default rest
    else if b = Byte.openBrace then readMembers Field.all true default rest
    else .error (mistyped .settings (b :: rest))

/-- Settings from the bytes of a whole file. -/
def ofBytes (s : Bytes) : Except ReadError Settings := do
  let (settings, rest) ← readSettings s
  match skipSpace rest with
  | [] => return settings
  | _ => throw .trailingCharacters

/-- Settings from bytes, or the fault of bytes that hold none. -/
def parse {α : Type} (s : Bytes) : Except (Fault α) Settings :=
  (ofBytes s).mapError fun cause => .serialization (.malformed cause)

/-- Settings from a text. -/
def parseText {α : Type} (text : String) : Except (Fault α) Settings :=
  parse text.toUTF8.data.toList

end Settings

end FormulaArt
