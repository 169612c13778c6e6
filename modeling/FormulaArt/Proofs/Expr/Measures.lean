import FormulaArt.Expr.Basic

/-!
# The ways through a formula

`Expr.pathLengths` lists the number of operators on each way from the root to a coordinate.  The two
depths are its extremes: each is the length of some way, and all other lengths lie between them.

## Main statements

* `Expr.minDepth_mem_pathLengths`, `Expr.depth_mem_pathLengths` — the depths are lengths of ways
* `Expr.le_of_mem_pathLengths` — every way is as long as the one and as short as the other
* `Expr.forall_pathLengths_iff` — bounds on all ways are bounds on the depths
* `Expr.le_minDepth_compose`, `Expr.depth_compose_le`, `Expr.nodeCount_compose_le` — the measures of an
  operator on two formulas
-/

namespace FormulaArt

namespace Expr

theorem mem_pathLengths_unary {kind : UnaryKind} {child : Expr} {n : Nat} :
    n ∈ (unary kind child).pathLengths ↔ ∃ m ∈ child.pathLengths, m + 1 = n := by
  rw [pathLengths, List.mem_map]

theorem mem_pathLengths_binary {kind : BinaryKind} {left right : Expr} {n : Nat} :
    n ∈ (binary kind left right).pathLengths ↔
      ∃ m, (m ∈ left.pathLengths ∨ m ∈ right.pathLengths) ∧ m + 1 = n := by
  rw [pathLengths, List.mem_map]
  simp only [List.mem_append]

/-- The least depth is the length of a way. -/
theorem minDepth_mem_pathLengths (e : Expr) : e.minDepth ∈ e.pathLengths := by
  induction e with
  | coordinate axis => exact List.mem_singleton_self 0
  | unary kind child ih =>
      rw [minDepth, Nat.add_comm]
      exact mem_pathLengths_unary.mpr ⟨_, ih, rfl⟩
  | binary kind left right ihl ihr =>
      rw [minDepth, Nat.add_comm]
      refine mem_pathLengths_binary.mpr ⟨_, ?_, rfl⟩
      rcases Nat.le_total left.minDepth right.minDepth with h | h
      · rw [Nat.min_eq_left h]
        exact Or.inl ihl
      · rw [Nat.min_eq_right h]
        exact Or.inr ihr

/-- The depth is the length of a way. -/
theorem depth_mem_pathLengths (e : Expr) : e.depth ∈ e.pathLengths := by
  induction e with
  | coordinate axis => exact List.mem_singleton_self 0
  | unary kind child ih =>
      rw [depth, Nat.add_comm]
      exact mem_pathLengths_unary.mpr ⟨_, ih, rfl⟩
  | binary kind left right ihl ihr =>
      rw [depth, Nat.add_comm]
      refine mem_pathLengths_binary.mpr ⟨_, ?_, rfl⟩
      rcases Nat.le_total left.depth right.depth with h | h
      · rw [Nat.max_eq_right h]
        exact Or.inr ihr
      · rw [Nat.max_eq_left h]
        exact Or.inl ihl

/-- The length of every way lies between the depths. -/
theorem le_of_mem_pathLengths {e : Expr} {n : Nat} (h : n ∈ e.pathLengths) :
    e.minDepth ≤ n ∧ n ≤ e.depth := by
  induction e generalizing n with
  | coordinate axis =>
      rw [pathLengths, List.mem_singleton] at h
      rw [h]
      exact ⟨Nat.le_refl 0, Nat.le_refl 0⟩
  | unary kind child ih =>
      obtain ⟨m, member, rfl⟩ := mem_pathLengths_unary.mp h
      have := ih member
      rw [minDepth, depth]
      omega
  | binary kind left right ihl ihr =>
      obtain ⟨m, member, rfl⟩ := mem_pathLengths_binary.mp h
      rw [minDepth, depth]
      rcases member with member | member
      · have := ihl member
        omega
      · have := ihr member
        omega

/-- No way is shorter than the shortest. -/
theorem minDepth_le_depth (e : Expr) : e.minDepth ≤ e.depth :=
  (le_of_mem_pathLengths e.minDepth_mem_pathLengths).2

/-- All ways keep to two bounds if and only if the depths do. -/
theorem forall_pathLengths_iff {e : Expr} {least greatest : Nat} :
    (∀ n ∈ e.pathLengths, least ≤ n ∧ n ≤ greatest) ↔ least ≤ e.minDepth ∧ e.depth ≤ greatest := by
  constructor
  · intro h
    exact ⟨(h _ e.minDepth_mem_pathLengths).1, (h _ e.depth_mem_pathLengths).2⟩
  · rintro ⟨low, high⟩ n member
    obtain ⟨above, below⟩ := le_of_mem_pathLengths member
    exact ⟨Nat.le_trans low above, Nat.le_trans below high⟩

/-! ### The depths of an applied operator -/

@[simp] theorem minDepth_leaf (op : Operator) : (leaf op).minDepth = 1 := by
  cases op <;> rfl

@[simp] theorem depth_leaf (op : Operator) : (leaf op).depth = 1 := by
  cases op <;> rfl

/-- An operator on two formulas adds one to what it keeps, and keeps at least the shorter ways. -/
theorem le_minDepth_compose (op : Operator) (left right : Expr) :
    1 + min left.minDepth right.minDepth ≤ (compose op left right).minDepth := by
  match op with
  | .unary _ .x => exact Nat.add_le_add_left (Nat.min_le_left _ _) 1
  | .unary _ .y => exact Nat.add_le_add_left (Nat.min_le_right _ _) 1
  | .binary _ => exact Nat.le_refl _

/-- An operator on two formulas adds one to what it keeps, which is no more than both. -/
theorem depth_compose_le (op : Operator) (left right : Expr) :
    (compose op left right).depth ≤ 1 + max left.depth right.depth := by
  match op with
  | .unary _ .x => exact Nat.add_le_add_left (Nat.le_max_left _ _) 1
  | .unary _ .y => exact Nat.add_le_add_left (Nat.le_max_right _ _) 1
  | .binary _ => exact Nat.le_refl _

/-- An operator on two formulas adds one node to those that it keeps. -/
theorem nodeCount_compose_le (op : Operator) (left right : Expr) :
    (compose op left right).nodeCount ≤ 1 + left.nodeCount + right.nodeCount := by
  match op with
  | .unary _ .x => exact Nat.le_add_right _ _
  | .unary _ .y =>
      show 1 + right.nodeCount ≤ 1 + left.nodeCount + right.nodeCount
      omega
  | .binary _ => exact Nat.le_refl _

end Expr

end FormulaArt
