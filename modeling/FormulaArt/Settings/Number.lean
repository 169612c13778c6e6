import FormulaArt.Settings.Byte

/-!
# Number literals

A literal without point and exponent that fits into 64 bits is an integer; every other literal is a
floating-point number. Its digits are gathered into a significand as long as that fits into 64 bits,
later digits only count for the exponent, and the significand is scaled by one power of ten.

## Main definitions

* `NumberLiteral` — what a literal stands for
* `scale` — the double for a significand and a power of ten
* `readNumber` — a literal whose sign has been read
-/

namespace FormulaArt

namespace Settings

/-- What a number literal stands for. -/
inductive NumberLiteral where
  /-- An integer from `-2 ^ 63` to `2 ^ 64 - 1`, never written `-0`. -/
  | integer (n : Int)
  /-- A floating-point number. -/
  | floating (v : Float)
deriving DecidableEq

/-- The greatest significand. -/
def significandLimit : Nat :=
  UInt64.size - 1

/-- The greatest exponent that is read digit by digit. -/
def exponentLimit : Nat :=
  Int32.maxValue.toInt.toNat

/-- The greatest power of ten that is applied in one step. -/
def powerLimit : Nat :=
  308

/-- A power of ten as a double. -/
def powerOfTen (n : Nat) : Float :=
  Float.ofScientific 1 false n

/-- A significand as a double. -/
def significandValue (m : Nat) : Float :=
  m.toUInt64.toFloat

/-- Scale a number by a power of ten: one rounded multiplication or division. Exponents that are too
small for one step are taken in steps, until the number is zero or the rest fits. -/
def scale (v : Float) (exponent : Int) : Except ReadError Float :=
  if exponent.natAbs ≤ powerLimit then
    if 0 ≤ exponent then
      let product := v * powerOfTen exponent.natAbs
      if product.isInf then .error .numberOutOfRange else .ok product
    else
      .ok (v / powerOfTen exponent.natAbs)
  else if v == 0 then
    .ok v
  else if _h : 0 ≤ exponent then
    .error .numberOutOfRange
  else
    scale (v / powerOfTen powerLimit) (exponent + powerLimit)
termination_by (-exponent).toNat
decreasing_by simp only [powerLimit] at *; omega

/-- Give a number its sign. -/
def signed (negative : Bool) (v : Float) : Float :=
  if negative then -v else v

/-- The double of a sign, a significand and a power of ten, in front of what follows. -/
def floatingOf (negative : Bool) (significand : Nat) (exponent : Int) (rest : Bytes) :
    Except ReadError (NumberLiteral × Bytes) := do
  let v ← scale (significandValue significand) exponent
  return (.floating (signed negative v), rest)

/-- Read the sign of an exponent; without one it is positive. -/
def readExponentSign (s : Bytes) : Bool × Bytes :=
  match s with
  | [] => (false, s)
  | b :: rest =>
    if b = Byte.plus then (false, rest)
    else if b = Byte.minus then (true, rest)
    else (false, s)

/-- Whether a digit follows. -/
def startsWithDigit : Bytes → Bool
  | b :: _ => Byte.isDigit b
  | [] => false

/-- Read an exponent after its letter. An exponent beyond 31 bits makes the number zero if the
significand is zero or the exponent negative. -/
def readExponent (negative : Bool) (significand : Nat) (exponent : Int) (s : Bytes) :
    Except ReadError (NumberLiteral × Bytes) :=
  let (down, s) := readExponentSign s
  match s with
  | [] => .error .endInValue
  | b :: s =>
    if Byte.isDigit b then
      let digits := Digits.take exponentLimit (Byte.digit b) s
      if startsWithDigit digits.rest then
        if significand ≠ 0 ∧ ¬down then .error .numberOutOfRange
        else .ok (.floating (signed negative 0), (Digits.skip digits.rest).rest)
      else
        let shift : Int := if down then -digits.value else digits.value
        floatingOf negative significand (exponent + shift) digits.rest
    else
      .error .invalidNumber

/-- Whether a byte starts an exponent. -/
def isExponentLetter (b : UInt8) : Bool :=
  b == Byte.lowerE || b == Byte.upperE

/-- Read an exponent if its letter follows, and finish the number. -/
def readExponent? (negative : Bool) (significand : Nat) (exponent : Int) (s : Bytes) :
    Except ReadError (NumberLiteral × Bytes) :=
  match s with
  | [] => floatingOf negative significand exponent s
  | b :: rest =>
    if isExponentLetter b then readExponent negative significand exponent rest
    else floatingOf negative significand exponent s

/-- Read the digits after a decimal point, of which there has to be one. -/
def readFraction (negative : Bool) (significand : Nat) (exponent : Int) (s : Bytes) :
    Except ReadError (NumberLiteral × Bytes) :=
  let digits := Digits.take significandLimit significand s
  let ignored := Digits.skip digits.rest
  if digits.count + ignored.count = 0 then
    .error (if s.isEmpty then .endInValue else .invalidNumber)
  else
    readExponent? negative digits.value (exponent - digits.count) ignored.rest

/-- The integer of a sign and a magnitude below `2 ^ 64`, if it is one of 64 bits; a zero with a minus
sign and what lies below `-2 ^ 63` are floating-point numbers. -/
def integerOf (negative : Bool) (magnitude : Nat) : NumberLiteral :=
  if negative then
    if 0 < magnitude ∧ magnitude ≤ Nat.pow 2 63 then .integer (-magnitude)
    else .floating (-significandValue magnitude)
  else
    .integer magnitude

/-- Finish a number that has neither point nor exponent, the last `ignored` digits of which were too
many for the significand. -/
def wholeNumber (negative : Bool) (significand ignored : Nat) (s : Bytes) :
    Except ReadError (NumberLiteral × Bytes) :=
  if ignored = 0 then .ok (integerOf negative significand, s)
  else floatingOf negative significand ignored s

/-- Finish a number after its integer digits, the last `ignored` of which were too many for the
significand. -/
def readAfterInteger (negative : Bool) (significand ignored : Nat) (s : Bytes) :
    Except ReadError (NumberLiteral × Bytes) :=
  match s with
  | [] => wholeNumber negative significand ignored s
  | b :: rest =>
    if b = Byte.point then readFraction negative significand ignored rest
    else if isExponentLetter b then readExponent negative significand ignored rest
    else wholeNumber negative significand ignored s

/-- Read a number whose sign has been read. A zero at the start is the only integer digit. -/
def readNumber (negative : Bool) (s : Bytes) : Except ReadError (NumberLiteral × Bytes) :=
  match s with
  | [] => .error .endInValue
  | b :: rest =>
    if b = Byte.zero then
      if startsWithDigit rest then .error .invalidNumber
      else readAfterInteger negative 0 0 rest
    else if Byte.isDigit b then
      let digits := Digits.take significandLimit (Byte.digit b) rest
      let ignored := Digits.skip digits.rest
      readAfterInteger negative digits.value ignored.count ignored.rest
    else
      .error .invalidNumber

end Settings

end FormulaArt
