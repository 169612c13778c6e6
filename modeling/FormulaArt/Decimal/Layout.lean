import FormulaArt.Decimal.Shortest

/-!
# Decimal layouts

How the digits of a number are laid out as text. Which digits they are is settled by
`FormulaArt.Decimal.Shortest`; a layout says where the point goes, when an exponent is written and
which of two equally near decimals is taken.

## Main definitions

* `Decimal.Layout` — the decisions
* `Decimal.Layout.render` — a floating-point number as text
-/

namespace FormulaArt

namespace Decimal

/-- How numbers are written. -/
structure Layout where
  /-- Whether a number whose leading digit stands for this power of ten is written without an
  exponent. -/
  positional : Int → Bool
  /-- Whether an integral number ends in `.0`. -/
  pointZero : Bool
  /-- Which of two equally near decimals is taken. -/
  tie : Tie

namespace Layout

/-- A run of zeros. -/
def zeros (n : Nat) : String :=
  String.ofList (List.replicate n '0')

/-- Digits around the decimal point: after them, among them or before them. -/
def withPoint (layout : Layout) (digits : List Char) (exponent : Int) : String :=
  let integral := (digits.length : Int) + exponent
  if 0 ≤ exponent then
    String.ofList digits ++ zeros exponent.toNat ++ (if layout.pointZero then ".0" else "")
  else if 0 < integral then
    String.ofList (digits.take integral.toNat) ++ "." ++ String.ofList (digits.drop integral.toNat)
  else
    "0." ++ zeros (-integral).toNat ++ String.ofList digits

/-- One digit before the point, the others after it, and a signed exponent. -/
def withExponent (digits : List Char) (exponent : Int) : String :=
  let fraction := match digits.drop 1 with
    | [] => ""
    | rest => "." ++ String.ofList rest
  let sign := if exponent < 0 then "-" else "+"
  String.ofList (digits.take 1) ++ fraction ++ "e" ++ sign ++ toString exponent.natAbs

/-- A positive decimal. -/
def positive (layout : Layout) (d : Decimal) : String :=
  let digits := Nat.toDigits 10 d.digits
  let leading := (digits.length : Int) - 1 + d.exponent
  if layout.positional leading then layout.withPoint digits d.exponent
  else withExponent digits leading

/-- A floating-point number as text. The sign of a zero is kept; what is not a number has none. -/
def render (layout : Layout) (v : Float) : String :=
  if v.isNaN then "NaN"
  else
    let sign := if v.toBits >>> 63 == 1 then "-" else ""
    if v.isInf then sign ++ "inf"
    else
      let magnitude := Binary.ofBits v.toBits
      if magnitude.significand == 0 then sign ++ (if layout.pointZero then "0.0" else "0")
      else sign ++ layout.positive (magnitude.shortest layout.tie)

end Layout

end Decimal

end FormulaArt
