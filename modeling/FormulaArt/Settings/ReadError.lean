import FormulaArt.Decimal.Layout
import FormulaArt.Settings.Field
import FormulaArt.Text.Quoted

/-!
# Why a settings file cannot be read

The faults that reading a settings file finds, from the level of single bytes up to the fields, and
the words for each.

## Main definitions

* `Settings.Found` — what stands where another kind of value is expected
* `Settings.Expected` — the kinds of value that are expected somewhere
* `Settings.ReadError` — the faults, and `ReadError.message`
-/

namespace FormulaArt

namespace Settings

/-- What stands in the place of a value. -/
inductive Found where
  /-- The literal `null`. -/
  | null
  | boolean (b : Bool)
  /-- An integer literal within 64 bits. -/
  | integer (n : Int)
  /-- Any other number literal, as read. -/
  | floating (v : Float)
  /-- A string, as read. -/
  | string (s : String)
  | sequence
  | map
deriving DecidableEq

namespace Found

/-- Numbers are quoted positionally between `10 ^ -5` and `10 ^ 16`, integral ones with a zero after
the point. -/
def numberLayout : Decimal.Layout where
  positional leading := -5 ≤ leading && leading < 16
  pointZero := true
  tie := .toEven

/-- What was found, in words. -/
def describe : Found → String
  | null => "null"
  | boolean b => "boolean `" ++ toString b ++ "`"
  | integer n => "integer `" ++ toString n ++ "`"
  | floating v => "floating point `" ++ numberLayout.render v ++ "`"
  | string s => "string " ++ Text.quoted s
  | sequence => "sequence"
  | map => "map"

end Found

/-- A kind of value that is expected somewhere. -/
inductive Expected where
  | settings
  | unsigned32
  | signed32
  | unsigned64
  /-- A count of things in memory. -/
  | count
  /-- Nothing: the literal `null`. -/
  | unit
deriving Repr, DecidableEq

/-- What was expected, in words. -/
def Expected.describe : Expected → String
  | settings => "struct ArtConfig"
  | unsigned32 => "u32"
  | signed32 => "i32"
  | unsigned64 => "u64"
  | count => "usize"
  | unit => "unit"

/-- Why a settings file cannot be read. -/
inductive ReadError where
  | endInValue
  | endInObject
  | endInList
  | endInString
  | expectedValue
  /-- A word that starts like `null`, `true` or `false` is another one. -/
  | expectedIdent
  /-- A number literal is broken off or badly formed. -/
  | invalidNumber
  /-- A number literal is too large for a double. -/
  | numberOutOfRange
  | expectedColon
  | expectedCommaOrBrace
  | expectedCommaOrBracket
  | keyNotString
  | trailingComma
  | trailingCharacters
  | invalidEscape
  | controlCharacter
  | invalidCodePoint
  /-- One half of a surrogate pair stands alone. -/
  | loneSurrogate
  /-- The second half of a surrogate pair is missing. -/
  | unfinishedPair
  | unknownField (name : String)
  | duplicateField (field : Field)
  | unknownVariant (name : String)
  | invalidType (found : Found) (expected : Expected)
  | invalidValue (n : Int) (expected : Expected)
deriving DecidableEq

namespace ReadError

/-- Names in back quotes, separated by commas. -/
def listNames (names : List String) : String :=
  String.intercalate ", " (names.map fun n => "`" ++ n ++ "`")

/-- The fault in words. -/
def message : ReadError → String
  | endInValue => "EOF while parsing a value"
  | endInObject => "EOF while parsing an object"
  | endInList => "EOF while parsing a list"
  | endInString => "EOF while parsing a string"
  | expectedValue => "expected value"
  | expectedIdent => "expected ident"
  | invalidNumber => "invalid number"
  | numberOutOfRange => "number out of range"
  | expectedColon => "expected `:`"
  | expectedCommaOrBrace => "expected `,` or `\x7d`"
  | expectedCommaOrBracket => "expected `,` or `]`"
  | keyNotString => "key must be a string"
  | trailingComma => "trailing comma"
  | trailingCharacters => "trailing characters"
  | invalidEscape => "invalid escape"
  | controlCharacter => "control character (\\u0000-\\u001F) found while parsing a string"
  | invalidCodePoint => "invalid unicode code point"
  | loneSurrogate => "lone leading surrogate in hex escape"
  | unfinishedPair => "unexpected end of hex escape"
  | unknownField name =>
    "unknown field `" ++ name ++ "`, expected one of " ++ listNames (Field.all.map Field.name)
  | duplicateField field => "duplicate field `" ++ field.name ++ "`"
  | unknownVariant name =>
    "unknown variant `" ++ name ++ "`, expected `sequential` or `parallel`"
  | invalidType found expected =>
    "invalid type: " ++ found.describe ++ ", expected " ++ expected.describe
  | invalidValue n expected =>
    "invalid value: integer `" ++ toString n ++ "`, expected " ++ expected.describe

end ReadError

end Settings

end FormulaArt
