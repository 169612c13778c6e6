import FormulaArt.Expr.Formula

/-!
# The text determines the function

The text of a formula starts with what tells its outermost function apart and is closed when that
function has its arguments.  So it can be read back in front of any characters, and no text of a formula
goes on as the text of another one.  Only the identity leaves no trace; it has no influence on the value
either, and therefore two formulas with the same text have the same value everywhere.

## Main statements

* `Expr.eval_eraseIdentity` — leaving out identities keeps every value
* `Expr.read?_writeOnto` — what is written is read back, and what follows is left
* `Expr.parse?_formula` — the formula that a text stands for
* `Expr.formula_eq_formula_iff` — formulas with the same text

## Design notes

The reader is given more steps than the formula without its identities is deep.  That a text has enough
characters for that is a matter of its own (`Expr.depth_eraseIdentity_lt_length`), so that the induction
on the formula does not have to count.
-/

namespace FormulaArt

namespace Expr

/-! ### Formulas without identities -/

theorem eraseIdentity_unary {kind : UnaryKind} (h : kind ≠ .identity) (child : Expr) :
    (unary kind child).eraseIdentity = unary kind child.eraseIdentity := by
  cases kind with
  | identity => exact absurd rfl h
  | cosPi => rfl
  | sinPi => rfl
  | tanh => rfl

/-- An identity that is left out has no influence on the value, over any scalars. -/
theorem eval_eraseIdentity {α : Type} [Scalar α] (e : Expr) (p : Point α) :
    e.eraseIdentity.eval p = e.eval p := by
  induction e with
  | coordinate axis => rfl
  | unary kind child ih =>
      by_cases h : kind = .identity
      · subst h
        exact ih
      · rw [eraseIdentity_unary h, eval, eval, ih]
  | binary kind left right ihl ihr => rw [eraseIdentity, eval, eval, ihl, ihr]

/-- An identity is not written. -/
theorem writeOnto_eraseIdentity (e : Expr) (rest : List Char) :
    e.eraseIdentity.writeOnto rest = e.writeOnto rest := by
  induction e generalizing rest with
  | coordinate axis => rfl
  | unary kind child ih =>
      by_cases h : kind = .identity
      · subst h
        exact ih rest
      · rw [eraseIdentity_unary h, writeOnto, writeOnto, ih]
  | binary kind left right ihl ihr => rw [eraseIdentity, writeOnto, writeOnto, ihl, ihr]

theorem formula_eraseIdentity (e : Expr) : e.eraseIdentity.formula = e.formula := by
  rw [formula, formula, writeOnto_eraseIdentity]

/-! ### The parts of a text -/

/-- What is expected and there is passed over. -/
@[simp] theorem after?_append (expected rest : List Char) :
    after? expected (expected ++ rest) = some rest := by
  induction expected with
  | nil => rfl
  | cons c expected ih => simp [after?, ih]

/-- The letter of a coordinate starts no function. -/
theorem head?_letter (axis : Axis) (rest : List Char) :
    head? (axis.letter :: rest) = some (.coordinate axis, rest) := by
  cases axis with
  | x => rfl
  | y => rfl

/-- The functions with one argument differ in their first characters. -/
theorem head?_opening {kind : UnaryKind} (h : kind ≠ .identity) (rest : List Char) :
    head? (opening kind ++ rest) = some (.unary kind, rest) := by
  cases kind with
  | identity => exact absurd rfl h
  | cosPi => rfl
  | sinPi => rfl
  | tanh => rfl

/-- The functions with two arguments differ in their first characters. -/
theorem head?_openingPair (kind : BinaryKind) (rest : List Char) :
    head? (openingPair kind ++ rest) = some (.binary kind, rest) := by
  cases kind with
  | product => rfl
  | average => rfl

theorem length_opening_pos {kind : UnaryKind} (h : kind ≠ .identity) :
    0 < (opening kind).length := by
  cases kind with
  | identity => exact absurd rfl h
  | cosPi => decide
  | sinPi => decide
  | tanh => decide

theorem length_openingPair_pos (kind : BinaryKind) : 0 < (openingPair kind).length := by
  cases kind with
  | product => decide
  | average => decide

/-! ### Reading what is written -/

/-- One level of reading, for a function with one argument that can be read. -/
theorem read?_unary {fuel : Nat} {kind : UnaryKind} {child : Expr} {s body rest : List Char}
    (head : head? s = some (.unary kind, body))
    (argument : read? fuel body = some (child, closing kind ++ rest)) :
    read? (fuel + 1) s = some (unary kind child, rest) := by
  rw [read?, head, Option.bind_eq_bind, Option.bind_some]
  dsimp only
  rw [argument, Option.bind_eq_bind, Option.bind_some, after?_append]
  rfl

/-- One level of reading, for a function with two arguments that can be read. -/
theorem read?_binary {fuel : Nat} {kind : BinaryKind} {left right : Expr}
    {s body second rest : List Char} (head : head? s = some (.binary kind, body))
    (first : read? fuel body = some (left, between kind ++ second))
    (last : read? fuel second = some (right, ')' :: rest)) :
    read? (fuel + 1) s = some (binary kind left right, rest) := by
  rw [read?, head, Option.bind_eq_bind, Option.bind_some]
  dsimp only
  rw [first, Option.bind_eq_bind, Option.bind_some, after?_append, Option.bind_eq_bind,
    Option.bind_some]
  dsimp only
  rw [last]
  rfl

/-- A text that starts with a written formula is read up to the end of that formula. -/
theorem read?_writeOnto (e : Expr) (rest : List Char) {fuel : Nat}
    (enough : e.eraseIdentity.depth < fuel) :
    read? fuel (e.writeOnto rest) = some (e.eraseIdentity, rest) := by
  induction e generalizing rest fuel with
  | coordinate axis =>
      obtain ⟨fuel, rfl⟩ := Nat.exists_eq_add_of_le' (Nat.zero_lt_of_lt enough)
      rw [writeOnto, read?, head?_letter]
      rfl
  | unary kind child ih =>
      by_cases h : kind = .identity
      · subst h
        exact ih rest enough
      · rw [eraseIdentity_unary h, depth] at enough
        obtain ⟨fuel, rfl⟩ := Nat.exists_eq_add_of_le' (Nat.zero_lt_of_lt enough)
        rw [eraseIdentity_unary h]
        exact read?_unary (head?_opening h _) (ih _ (by omega))
  | binary kind left right ihl ihr =>
      rw [eraseIdentity, depth] at enough
      obtain ⟨fuel, rfl⟩ := Nat.exists_eq_add_of_le' (Nat.zero_lt_of_lt enough)
      exact read?_binary (head?_openingPair kind _) (ihl _ (by omega)) (ihr _ (by omega))

/-- The text of a formula has more characters than the formula has levels without its identities. -/
theorem depth_eraseIdentity_lt_length (e : Expr) (rest : List Char) :
    e.eraseIdentity.depth + rest.length < (e.writeOnto rest).length := by
  induction e generalizing rest with
  | coordinate axis =>
      show 0 + rest.length < rest.length + 1
      omega
  | unary kind child ih =>
      have below := ih (closing kind ++ rest)
      by_cases h : kind = .identity
      · subst h
        exact below
      · have opened := length_opening_pos h
        rw [List.length_append] at below
        rw [eraseIdentity_unary h, depth, writeOnto, List.length_append]
        omega
  | binary kind left right ihl ihr =>
      have belowl := ihl (between kind ++ right.writeOnto (')' :: rest))
      have belowr := ihr (')' :: rest)
      have opened := length_openingPair_pos kind
      rw [List.length_append] at belowl
      rw [List.length_cons] at belowr
      rw [eraseIdentity, depth, writeOnto, List.length_append]
      omega

@[simp] theorem toList_formula (e : Expr) : e.formula.toList = e.writeOnto [] :=
  String.toList_ofList

/-- The text of a formula stands for the formula without its identities. -/
theorem parse?_formula (e : Expr) : parse? e.formula = some e.eraseIdentity := by
  have enough : e.eraseIdentity.depth < e.formula.length := by
    rw [← String.length_toList, toList_formula]
    exact e.depth_eraseIdentity_lt_length []
  rw [parse?, toList_formula, read?_writeOnto e [] enough]

/-- **The text of a formula determines its function.**  Two formulas have the same text if and only if
they are the same formula up to identities, which is the one that the text is read as.  They then have the
same value at every point, over any scalars. -/
theorem formula_eq_formula_iff (a b : Expr) :
    (a.formula = b.formula ↔ a.eraseIdentity = b.eraseIdentity) ∧
    parse? a.formula = some a.eraseIdentity ∧
    (a.formula = b.formula →
      ∀ {α : Type} [Scalar α] (p : Point α), a.eval p = b.eval p) := by
  have same : a.formula = b.formula ↔ a.eraseIdentity = b.eraseIdentity := by
    constructor
    · intro text
      have read := congrArg parse? text
      rw [parse?_formula, parse?_formula] at read
      exact Option.some.inj read
    · intro formula
      rw [← formula_eraseIdentity a, formula, formula_eraseIdentity]
  refine ⟨same, parse?_formula a, ?_⟩
  intro text α _ p
  rw [← eval_eraseIdentity a, same.mp text, eval_eraseIdentity]

/-- The average of two functions, with an identity around one of them and another one inside. -/
theorem formula_eq_formula_iff_of_identities :
    (binary .average (unary .identity (unary .cosPi (coordinate .x)))
        (unary .tanh (coordinate .y))).formula = "avg(cos(pi*x), tanh(y))" ∧
    (binary .average (unary .cosPi (coordinate .x))
        (unary .tanh (unary .identity (coordinate .y)))).formula = "avg(cos(pi*x), tanh(y))" ∧
    ∀ p : Point Float,
      (binary .average (unary .identity (unary .cosPi (coordinate .x)))
        (unary .tanh (coordinate .y))).eval p
      = (binary .average (unary .cosPi (coordinate .x))
        (unary .tanh (unary .identity (coordinate .y)))).eval p :=
  ⟨by decide, by decide, fun p => (formula_eq_formula_iff _ _).2.2 (by decide) p⟩

end Expr

end FormulaArt
