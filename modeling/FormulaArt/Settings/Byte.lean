import FormulaArt.Settings.ReadError

/-!
# Bytes of a settings file

The bytes that have a meaning in a settings file, and the classes of bytes that its reader passes
over: blanks and digits.

## Main definitions

* `Bytes` — what is left to read
* `skipSpace` — pass over blanks
* `Digits.take`, `Digits.skip` — pass over digits, with their value or without it
* `readWord` — the rest of a word whose start has been seen
-/

namespace FormulaArt

namespace Settings

/-- What is left to read. -/
abbrev Bytes := List UInt8

namespace Byte

/-- A double quote. -/
abbrev quote : UInt8 := 0x22

/-- A plus sign. -/
abbrev plus : UInt8 := 0x2B

/-- A comma. -/
abbrev comma : UInt8 := 0x2C

/-- A minus sign. -/
abbrev minus : UInt8 := 0x2D

/-- A decimal point. -/
abbrev point : UInt8 := 0x2E

/-- The digit zero. -/
abbrev zero : UInt8 := 0x30

/-- A colon. -/
abbrev colon : UInt8 := 0x3A

/-- The capital letter of an exponent. -/
abbrev upperE : UInt8 := 0x45

/-- An opening bracket. -/
abbrev openBracket : UInt8 := 0x5B

/-- A backslash. -/
abbrev backslash : UInt8 := 0x5C

/-- A closing bracket. -/
abbrev closeBracket : UInt8 := 0x5D

/-- The small letter of an exponent. -/
abbrev lowerE : UInt8 := 0x65

/-- The first letter of `false`. -/
abbrev lowerF : UInt8 := 0x66

/-- The first letter of `null`. -/
abbrev lowerN : UInt8 := 0x6E

/-- The first letter of `true`. -/
abbrev lowerT : UInt8 := 0x74

/-- The letter of an escape by code unit. -/
abbrev lowerU : UInt8 := 0x75

/-- An opening brace. -/
abbrev openBrace : UInt8 := 0x7B

/-- A closing brace. -/
abbrev closeBrace : UInt8 := 0x7D

/-- Whether a byte is a blank: a space, a tabulator, a line feed or a carriage return. -/
def isSpace (b : UInt8) : Bool :=
  b == 0x20 || b == 0x09 || b == 0x0A || b == 0x0D

/-- Whether a byte is a decimal digit. -/
def isDigit (b : UInt8) : Bool :=
  0x30 ≤ b && b ≤ 0x39

/-- The value of a decimal digit. -/
def digit (b : UInt8) : Nat :=
  b.toNat - 0x30

/-- The value of a hexadecimal digit. -/
def hexDigit? (b : UInt8) : Option Nat :=
  if isDigit b then some (digit b)
  else if 0x41 ≤ b ∧ b ≤ 0x46 then some (b.toNat - 0x37)
  else if 0x61 ≤ b ∧ b ≤ 0x66 then some (b.toNat - 0x57)
  else none

end Byte

/-- What follows any blanks. -/
def skipSpace (s : Bytes) : Bytes :=
  s.dropWhile Byte.isSpace

/-- A run of digits: its value after the digits read before, how many digits it has, and what
follows. -/
structure Digits where
  /-- The value of all digits read so far. -/
  value : Nat
  /-- The number of digits in the run. -/
  count : Nat
  /-- What follows the run. -/
  rest : Bytes
deriving Repr, DecidableEq

namespace Digits

/-- Take digits as long as their value, with `value` in front, does not exceed a limit. -/
def take (limit value : Nat) : Bytes → Digits
  | [] => ⟨value, 0, []⟩
  | b :: rest =>
    if Byte.isDigit b ∧ value * 10 + Byte.digit b ≤ limit then
      let more := take limit (value * 10 + Byte.digit b) rest
      { more with count := more.count + 1 }
    else
      ⟨value, 0, b :: rest⟩

/-- Pass over all digits, whatever their value. -/
def skip : Bytes → Digits
  | [] => ⟨0, 0, []⟩
  | b :: rest =>
    if Byte.isDigit b then
      let more := skip rest
      { more with count := more.count + 1 }
    else
      ⟨0, 0, b :: rest⟩

end Digits

/-- Read the bytes of a word that is due. -/
def readWord : Bytes → Bytes → Except ReadError Bytes
  | [], s => .ok s
  | _ :: _, [] => .error .endInValue
  | c :: word, b :: s => if b = c then readWord word s else .error .expectedIdent

/-- Read the rest of `null`. -/
def readNullTail : Bytes → Except ReadError Bytes :=
  readWord [0x75, 0x6C, 0x6C]

/-- Read the rest of `true`. -/
def readTrueTail : Bytes → Except ReadError Bytes :=
  readWord [0x72, 0x75, 0x65]

/-- Read the rest of `false`. -/
def readFalseTail : Bytes → Except ReadError Bytes :=
  readWord [0x61, 0x6C, 0x73, 0x65]

end Settings

end FormulaArt
