import FormulaArt.Scalar

/-!
# Operators

The functions that formulas are made of. An operator acts on a pair of numbers; a unary one reads
only the component that its axis selects.

## Main definitions

* `Point` — a pair of numbers, such as a place in the evaluation domain
* `Axis`, `UnaryKind`, `BinaryKind` — the parts of an operator
* `Operator` — an operator, and `Operator.all`, the table that the builder draws from
-/

namespace FormulaArt

/-- A pair of numbers. -/
structure Point (α : Type) where
  x : α
  y : α
deriving Repr, DecidableEq

/-- The component of a pair that an operator reads. -/
inductive Axis where
  | x
  | y
deriving Repr, DecidableEq

/-- A function of one number. -/
inductive UnaryKind where
  | identity
  /-- The cosine of that many half turns. -/
  | cosPi
  /-- The sine of that many half turns. -/
  | sinPi
  | tanh
deriving Repr, DecidableEq

/-- A function of two numbers. -/
inductive BinaryKind where
  | product
  | average
deriving Repr, DecidableEq

/-- An entry of the table that the builder draws from. -/
inductive Operator where
  /-- A function of one component of a pair. -/
  | unary (kind : UnaryKind) (axis : Axis)
  /-- A function of both components of a pair. -/
  | binary (kind : BinaryKind)
deriving Repr, DecidableEq

section Apply

variable {α : Type}

/-- The component of a pair on an axis. -/
@[inline] def Point.component (p : Point α) : Axis → α
  | .x => p.x
  | .y => p.y

variable [Scalar α]

/-- The value of a unary function. -/
@[inline] def UnaryKind.apply (kind : UnaryKind) (v : α) : α :=
  match kind with
  | identity => v
  | cosPi => Scalar.cos (Scalar.pi * v)
  | sinPi => Scalar.sin (Scalar.pi * v)
  | tanh => Scalar.tanh v

/-- The value of a binary function. -/
@[inline] def BinaryKind.apply (kind : BinaryKind) (a b : α) : α :=
  match kind with
  | product => a * b
  | average => Scalar.average a b

/-- The value of an operator on a pair. -/
@[specialize] def Operator.apply (op : Operator) (p : Point α) : α :=
  match op with
  | unary kind axis => kind.apply (p.component axis)
  | binary kind => kind.apply p.x p.y

end Apply

namespace Operator

/-- Every operator. The builder picks each with the same chance. -/
def all : List Operator := [
  binary .product,
  binary .average,
  unary .cosPi .x,
  unary .cosPi .y,
  unary .sinPi .x,
  unary .sinPi .y,
  unary .identity .x,
  unary .identity .y,
  unary .tanh .x,
  unary .tanh .y]

/-- The number of operators. -/
abbrev count : Nat := 10

theorem length_all : all.length = count := rfl

/-- The operator at a place of the table. -/
def ofIndex (i : Fin count) : Operator :=
  all.get (i.cast length_all.symm)

end Operator

end FormulaArt
