import FormulaArt.Expr.Basic

/-!
# The text of a formula

Formulas are written with their functions by name, products in brackets and the identity not at all.
A text therefore stands for one formula up to identities, and `Expr.parse?` finds it.

## Main definitions

* `Expr.formula` — the text
* `Expr.eraseIdentity` — the formula without its identities
* `Expr.parse?` — the formula that a text stands for

## Design notes

Writing is a function onto the characters that follow (`writeOnto`), so that no text is copied twice
and the reader can be stated against any continuation.
-/

namespace FormulaArt

/-- The character of an axis. -/
def Axis.letter : Axis → Char
  | .x => 'x'
  | .y => 'y'

namespace Expr

/-- The characters before the argument of a unary function. -/
def opening : UnaryKind → List Char
  | .identity => []
  | .cosPi => "cos(pi*".toList
  | .sinPi => "sin(pi*".toList
  | .tanh => "tanh(".toList

/-- The characters after the argument of a unary function. -/
def closing : UnaryKind → List Char
  | .identity => []
  | _ => [')']

/-- The characters before the first argument of a binary function. -/
def openingPair : BinaryKind → List Char
  | .product => ['(']
  | .average => "avg(".toList

/-- The characters between the arguments of a binary function. -/
def between : BinaryKind → List Char
  | .product => " * ".toList
  | .average => ", ".toList

/-- The text of a formula in front of other characters. -/
def writeOnto : Expr → List Char → List Char
  | coordinate axis, rest => axis.letter :: rest
  | unary kind child, rest => opening kind ++ child.writeOnto (closing kind ++ rest)
  | binary kind left right, rest =>
    openingPair kind ++ left.writeOnto (between kind ++ right.writeOnto (')' :: rest))

/-- The text of a formula. -/
def formula (e : Expr) : String :=
  String.ofList (e.writeOnto [])

/-- The formula without its identities, each replaced by its argument. -/
def eraseIdentity : Expr → Expr
  | coordinate axis => coordinate axis
  | unary .identity child => child.eraseIdentity
  | unary kind child => unary kind child.eraseIdentity
  | binary kind left right => binary kind left.eraseIdentity right.eraseIdentity

/-- The rest of a text after some characters that it has to start with. -/
def after? : List Char → List Char → Option (List Char)
  | [], s => some s
  | c :: expected, d :: s => if c = d then after? expected s else none
  | _ :: _, [] => none

/-- A way in which the text of a formula starts. -/
inductive Head where
  /-- A coordinate, which is a whole formula. -/
  | coordinate (axis : Axis)
  /-- A unary function, whose argument follows. -/
  | unary (kind : UnaryKind)
  /-- A binary function, whose first argument follows. -/
  | binary (kind : BinaryKind)

/-- The way in which a text starts, and what follows. -/
def head? (s : List Char) : Option (Head × List Char) :=
  match s with
  | 'x' :: rest => some (.coordinate .x, rest)
  | 'y' :: rest => some (.coordinate .y, rest)
  | 'c' :: _ => (after? (opening .cosPi) s).map (.unary .cosPi, ·)
  | 's' :: _ => (after? (opening .sinPi) s).map (.unary .sinPi, ·)
  | 't' :: _ => (after? (opening .tanh) s).map (.unary .tanh, ·)
  | 'a' :: _ => (after? (openingPair .average) s).map (.binary .average, ·)
  | '(' :: _ => (after? (openingPair .product) s).map (.binary .product, ·)
  | _ => none

/-- Read a formula at the start of a text, and give what follows. Each function nests at most `fuel`
deep; the number of characters is always enough. -/
def read? : Nat → List Char → Option (Expr × List Char)
  | 0, _ => none
  | fuel + 1, s => do
    match ← head? s with
    | (.coordinate axis, rest) => some (.coordinate axis, rest)
    | (.unary kind, rest) =>
      let (child, rest) ← read? fuel rest
      let rest ← after? (closing kind) rest
      some (.unary kind child, rest)
    | (.binary kind, rest) =>
      let (left, rest) ← read? fuel rest
      let rest ← after? (between kind) rest
      let (right, rest) ← read? fuel rest
      let rest ← after? [')'] rest
      some (.binary kind left right, rest)

/-- The formula that a whole text stands for. -/
def parse? (s : String) : Option Expr :=
  match read? s.length s.toList with
  | some (e, []) => some e
  | _ => none

end Expr

end FormulaArt
