import FormulaArt.Proofs.Expr.Measures
import Mathlib.Data.List.Infix
import Mathlib.Data.Set.Card

/-!
# Addresses in a formula

An address leads from the root of a formula to one of its nodes, step by step.  The nodes of a formula are
the addresses at which something stands, and the ways through it are the addresses at which a coordinate
stands.  Neither of these says how a formula is measured.  The measures are recursions that know nothing of
addresses, and this module shows what they measure: the number of nodes, and the greatest and the least
number of operators on a way.

## Main definitions

* `Expr.Step`, `Expr.at?` — steps from an operator down, and what stands at the end of some of them
* `Expr.addresses`, `Expr.ways` — the addresses of all nodes, and those of the coordinates
* `Expr.operatorsOn` — the number of operators that an address leads past

## Main statements

* `Expr.mem_pathLengths_iff` — the lengths of paths are the numbers of operators on the ways
* `Expr.encard_addresses` — the number of nodes
* `Expr.depth_lt_nodeCount`, `Expr.nodeCount_lt_two_pow` — how the measures bound each other
* `Expr.measures_of_addresses` — all measures, and those of an operator on two formulas
-/

namespace FormulaArt

namespace Expr

/-- A step from an operator to a formula that it reads. -/
inductive Step where
  /-- To the only formula that a unary operator reads. -/
  | only
  | left
  | right
deriving Repr, DecidableEq

/-- What stands at the end of some steps, if they can be made. -/
def at? : Expr → List Step → Option Expr
  | e, [] => some e
  | unary _ child, .only :: address => child.at? address
  | binary _ left _, .left :: address => left.at? address
  | binary _ _ right, .right :: address => right.at? address
  | _, _ :: _ => none

/-- The node is an operator and not a coordinate. -/
def isOperator : Expr → Bool
  | coordinate _ => false
  | unary .. | binary .. => true

/-- The addresses of the nodes. -/
def addresses (e : Expr) : Set (List Step) :=
  {address | (e.at? address).isSome}

/-- The addresses of the coordinates: the ways from the root to a coordinate. -/
def ways (e : Expr) : Set (List Step) :=
  {way | ∃ axis, e.at? way = some (coordinate axis)}

/-- The number of operators that stand on the way to an address, from the root on. -/
def operatorsOn (e : Expr) (address : List Step) : Nat :=
  address.inits.countP fun visited => (e.at? visited).any isOperator

/-! ### What stands where -/

@[simp] theorem at?_nil (e : Expr) : e.at? [] = some e := by
  cases e <;> rfl

theorem addresses_coordinate (axis : Axis) : (coordinate axis).addresses = {[]} := by
  ext address
  cases address with
  | nil => simp [addresses]
  | cons step address => simp [addresses, at?]

theorem addresses_unary (kind : UnaryKind) (child : Expr) :
    (unary kind child).addresses = insert [] (List.cons .only '' child.addresses) := by
  ext address
  cases address with
  | nil => simp [addresses]
  | cons step address => cases step <;> simp [addresses, at?]

theorem addresses_binary (kind : BinaryKind) (left right : Expr) :
    (binary kind left right).addresses =
      insert [] (List.cons .left '' left.addresses ∪ List.cons .right '' right.addresses) := by
  ext address
  cases address with
  | nil => simp [addresses]
  | cons step address => cases step <;> simp [addresses, at?]

theorem ways_coordinate (axis : Axis) : (coordinate axis).ways = {[]} := by
  ext way
  cases way with
  | nil => simp [ways]
  | cons step way => simp [ways, at?]

theorem ways_unary (kind : UnaryKind) (child : Expr) :
    (unary kind child).ways = List.cons .only '' child.ways := by
  ext way
  cases way with
  | nil => simp [ways]
  | cons step way => cases step <;> simp [ways, at?]

theorem ways_binary (kind : BinaryKind) (left right : Expr) :
    (binary kind left right).ways =
      List.cons .left '' left.ways ∪ List.cons .right '' right.ways := by
  ext way
  cases way with
  | nil => simp [ways]
  | cons step way => cases step <;> simp [ways, at?]

/-! ### The operators on a way -/

@[simp] theorem operatorsOn_coordinate (axis : Axis) : (coordinate axis).operatorsOn [] = 0 := rfl

/-- One step into a formula passes the operator at its root, and then what the formula there has on the rest
of the way. -/
theorem operatorsOn_cons {e child : Expr} {step : Step} (operator : e.isOperator)
    (below : ∀ rest, e.at? (step :: rest) = child.at? rest) (rest : List Step) :
    e.operatorsOn (step :: rest) = child.operatorsOn rest + 1 := by
  simp [operatorsOn, List.countP_map, Function.comp_def, below, operator]

@[simp] theorem operatorsOn_unary (kind : UnaryKind) (child : Expr) (rest : List Step) :
    (unary kind child).operatorsOn (.only :: rest) = child.operatorsOn rest + 1 :=
  operatorsOn_cons rfl (fun _ => rfl) rest

@[simp] theorem operatorsOn_binary_left (kind : BinaryKind) (left right : Expr)
    (rest : List Step) :
    (binary kind left right).operatorsOn (.left :: rest) = left.operatorsOn rest + 1 :=
  operatorsOn_cons rfl (fun _ => rfl) rest

@[simp] theorem operatorsOn_binary_right (kind : BinaryKind) (left right : Expr)
    (rest : List Step) :
    (binary kind left right).operatorsOn (.right :: rest) = right.operatorsOn rest + 1 :=
  operatorsOn_cons rfl (fun _ => rfl) rest

/-- The lengths of paths are the numbers of operators on the ways. -/
theorem mem_pathLengths_iff {e : Expr} {n : Nat} :
    n ∈ e.pathLengths ↔ ∃ way ∈ e.ways, e.operatorsOn way = n := by
  induction e generalizing n with
  | coordinate axis =>
      rw [ways_coordinate]
      simp [pathLengths, eq_comm]
  | unary kind child ih =>
      rw [mem_pathLengths_unary, ways_unary]
      simp [ih]
  | binary kind left right ihl ihr =>
      rw [mem_pathLengths_binary, ways_binary]
      simp [ihl, ihr, or_and_right, exists_or]

/-- The depth is the greatest number of operators on a way. -/
theorem isGreatest_depth (e : Expr) : IsGreatest (e.operatorsOn '' e.ways) e.depth := by
  constructor
  · exact mem_pathLengths_iff.mp e.depth_mem_pathLengths
  · intro n onWay
    exact (le_of_mem_pathLengths (mem_pathLengths_iff.mpr onWay)).2

/-- The least depth is the least number of operators on a way. -/
theorem isLeast_minDepth (e : Expr) : IsLeast (e.operatorsOn '' e.ways) e.minDepth := by
  constructor
  · exact mem_pathLengths_iff.mp e.minDepth_mem_pathLengths
  · intro n onWay
    exact (le_of_mem_pathLengths (mem_pathLengths_iff.mpr onWay)).1

/-! ### The number of nodes -/

/-- A formula has as many nodes as its count says. -/
theorem encard_addresses (e : Expr) : e.addresses.encard = e.nodeCount := by
  induction e with
  | coordinate axis =>
      rw [addresses_coordinate, Set.encard_singleton]
      rfl
  | unary kind child ih =>
      have root : [] ∉ List.cons Step.only '' child.addresses := by simp
      rw [addresses_unary, Set.encard_insert_of_notMem root, List.cons_injective.encard_image, ih,
        nodeCount, Nat.cast_add, add_comm]
      rfl
  | binary kind left right ihl ihr =>
      have root : [] ∉ List.cons Step.left '' left.addresses ∪
          List.cons Step.right '' right.addresses := by simp
      -- no address starts with both steps
      have apart : Disjoint (List.cons Step.left '' left.addresses)
          (List.cons Step.right '' right.addresses) := by
        rw [Set.disjoint_left]
        rintro _ ⟨address, -, rfl⟩ ⟨other, -, same⟩
        cases same
      rw [addresses_binary, Set.encard_insert_of_notMem root, Set.encard_union_eq apart,
        List.cons_injective.encard_image, List.cons_injective.encard_image, ihl, ihr, nodeCount,
        Nat.cast_add, Nat.cast_add, add_comm, add_assoc]
      rfl

/-- The longest way alone has a node for each operator and one for the coordinate. -/
theorem depth_lt_nodeCount (e : Expr) : e.depth < e.nodeCount := by
  induction e with
  | coordinate axis => exact Nat.zero_lt_one
  | unary kind child ih =>
      rw [depth, nodeCount]
      omega
  | binary kind left right ihl ihr =>
      rw [depth, nodeCount]
      omega

/-- A formula has no more nodes than one in which all ways are as long as the longest. -/
theorem nodeCount_lt_two_pow (e : Expr) : e.nodeCount < 2 ^ (e.depth + 1) := by
  induction e with
  | coordinate axis => exact Nat.one_lt_two
  | unary kind child ih =>
      have some : 1 < 2 ^ (child.depth + 1) := Nat.one_lt_two_pow (Nat.succ_ne_zero _)
      rw [depth, nodeCount, Nat.add_comm 1 child.depth, pow_succ]
      omega
  | binary kind left right ihl ihr =>
      -- both sides are at most as deep as the deeper one
      have leftBound : 2 ^ (left.depth + 1) ≤ 2 ^ (max left.depth right.depth + 1) :=
        Nat.pow_le_pow_right Nat.two_pos (Nat.succ_le_succ (Nat.le_max_left _ _))
      have rightBound : 2 ^ (right.depth + 1) ≤ 2 ^ (max left.depth right.depth + 1) :=
        Nat.pow_le_pow_right Nat.two_pos (Nat.succ_le_succ (Nat.le_max_right _ _))
      rw [depth, nodeCount, Nat.add_comm 1 (max left.depth right.depth), pow_succ]
      omega

/-- **What the measures of a formula measure.**  The depth is the greatest and the least depth the least
number of operators on a way from the root to a coordinate, and the count is the number of nodes.  The least
depth is no more than the depth, and the depth bounds the number of nodes from both sides.  An operator on two
formulas has at least one more than the lesser of their least depths, at most one more than the greater of
their depths, and at most one node more than both of them together. -/
theorem measures_of_addresses :
    (∀ e : Expr,
      IsGreatest (e.operatorsOn '' e.ways) e.depth ∧
      IsLeast (e.operatorsOn '' e.ways) e.minDepth ∧
      e.addresses.encard = e.nodeCount ∧
      e.minDepth ≤ e.depth ∧
      e.depth + 1 ≤ e.nodeCount ∧ e.nodeCount ≤ 2 ^ (e.depth + 1) - 1) ∧
    ∀ (op : Operator) (left right : Expr),
      1 + min left.minDepth right.minDepth ≤ (compose op left right).minDepth ∧
      (compose op left right).depth ≤ 1 + max left.depth right.depth ∧
      (compose op left right).nodeCount ≤ 1 + left.nodeCount + right.nodeCount := by
  constructor
  · intro e
    exact ⟨e.isGreatest_depth, e.isLeast_minDepth, e.encard_addresses, e.minDepth_le_depth,
      e.depth_lt_nodeCount, Nat.le_sub_one_of_lt e.nodeCount_lt_two_pow⟩
  · intro op left right
    exact ⟨le_minDepth_compose op left right, depth_compose_le op left right,
      nodeCount_compose_le op left right⟩

end Expr

end FormulaArt
