import FormulaArt.Settings.Number

/-!
# Tokens with blanks around them

The bytes of a settings file are tokens, and between them blanks that mean nothing.  `Spaced` relates
the tokens to all the ways of writing them down.  A reader that is due to read a token passes over the
blanks in front of it, so that what it has left over is again a way of writing down the other tokens.

## Main definitions

* `Blank` — bytes that a reader passes over
* `Spaced` — the ways of writing tokens down
* `Delimits` — tokens in front of which no number literal goes on

## Main statements

* `skipSpace_append` — blanks are passed over
* `spaced_flatten` — tokens may be written without blanks
* `Spaced.exists_skipSpace_eq` — a token that is due stands behind the blanks
* `Spaced.stopsNumber` — what follows a number literal
-/

namespace FormulaArt

namespace Settings

/-- Bytes that are all blanks. -/
def Blank (s : Bytes) : Prop :=
  ∀ b ∈ s, Byte.isSpace b = true

instance (s : Bytes) : Decidable (Blank s) :=
  List.decidableBAll _ s

theorem blank_nil : Blank [] := by
  intro b h
  cases h

/-- At the end of the bytes, blanks leave nothing to read. -/
theorem skipSpace_of_blank {w : Bytes} (blank : Blank w) : skipSpace w = [] := by
  have all : skipSpace (w ++ []) = [] := List.dropWhile_append_of_pos blank
  rwa [List.append_nil] at all

/-- Blanks in front of a byte that is none are passed over. -/
theorem skipSpace_append {w : Bytes} (blank : Blank w) {b : UInt8} (solid : Byte.isSpace b = false)
    (rest : Bytes) : skipSpace (w ++ b :: rest) = b :: rest := by
  rw [skipSpace, List.dropWhile_append_of_pos blank, List.dropWhile_cons_of_neg]
  rw [solid]
  exact Bool.false_ne_true

/-- The tokens in order, with any blanks in front of each and behind the last. -/
inductive Spaced : List Bytes → Bytes → Prop
  | done {w : Bytes} (blank : Blank w) : Spaced [] w
  | token {w : Bytes} (blank : Blank w) (t : Bytes) {ts : List Bytes} {rest : Bytes}
      (more : Spaced ts rest) : Spaced (t :: ts) (w ++ (t ++ rest))

/-- Tokens may be written one after the other. -/
theorem spaced_flatten (ts : List Bytes) : Spaced ts ts.flatten := by
  induction ts with
  | nil => exact .done blank_nil
  | cons t ts ih => exact .token blank_nil t ih

namespace Spaced

/-- When all tokens have been read, only blanks are left. -/
theorem skipSpace_eq_nil {s : Bytes} (h : Spaced [] s) : skipSpace s = [] := by
  cases h with
  | done blank => exact skipSpace_of_blank blank

/-- A token that is due stands behind the blanks, and behind it are the other tokens. -/
theorem exists_skipSpace_eq {b : UInt8} {t : Bytes} {ts : List Bytes} {s : Bytes}
    (h : Spaced ((b :: t) :: ts) s) (solid : Byte.isSpace b = false) :
    ∃ rest, skipSpace s = b :: (t ++ rest) ∧ Spaced ts rest := by
  cases h with
  | @token w blank _ _ rest more => exact ⟨rest, skipSpace_append blank solid _, more⟩

end Spaced

/-! ### What follows a number -/

/-- A number literal does not go on with these bytes. -/
def StopsNumber (s : Bytes) : Prop :=
  ∀ b rest, s = b :: rest →
    Byte.isDigit b = false ∧ b ≠ Byte.point ∧ isExponentLetter b = false

/-- The first token is one that stands behind a value, if there is a token left. -/
def Delimits : List Bytes → Prop
  | [] => True
  | t :: _ => t = [Byte.comma] ∨ t = [Byte.closeBrace] ∨ t = [Byte.closeBracket]

theorem stopsNumber_nil : StopsNumber [] := by
  intro b rest h
  cases h

theorem stopsNumber_cons {b : UInt8} (digit : Byte.isDigit b = false) (point : b ≠ Byte.point)
    (exponent : isExponentLetter b = false) (rest : Bytes) : StopsNumber (b :: rest) := by
  rintro _ _ ⟨⟩
  exact ⟨digit, point, exponent⟩

/-- No number goes on with a blank. -/
theorem stopsNumber_of_isSpace {b : UInt8} (space : Byte.isSpace b = true) (rest : Bytes) :
    StopsNumber (b :: rest) := by
  simp only [Byte.isSpace, Bool.or_eq_true, beq_iff_eq] at space
  obtain ((rfl | rfl) | rfl) | rfl := space
  all_goals exact stopsNumber_cons (by decide) (by decide) (by decide) rest

/-- No number goes on with blanks, or with a token that stands behind a value. -/
theorem Spaced.stopsNumber {ts : List Bytes} {s : Bytes} (h : Spaced ts s) (ends : Delimits ts) :
    StopsNumber s := by
  cases h with
  | done blank =>
      cases s with
      | nil => exact stopsNumber_nil
      | cons b s => exact stopsNumber_of_isSpace (blank b (List.mem_cons_self ..)) s
  | @token w blank t ts rest more =>
      cases w with
      | nil =>
          obtain rfl | rfl | rfl := ends
          all_goals exact stopsNumber_cons (by decide) (by decide) (by decide) rest
      | cons b w => exact stopsNumber_of_isSpace (blank b (List.mem_cons_self ..)) _

end Settings

end FormulaArt
