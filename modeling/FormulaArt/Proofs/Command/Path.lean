import FormulaArt.Command.Path
import Mathlib.Data.List.Basic

/-!
# Paths of names

A path of names between slashes is taken apart into these names again, and the paths above it are
those of its first names.

## Main definitions

* `Path.IsName` — names that lead one step down

## Main statements

* `Path.split_join` — a path of names is taken apart
* `Path.parent?_join`, `Path.ancestors_join` — the paths above it
-/

namespace FormulaArt

namespace Path

/-- A name that leads one step down: it is no dots, has nothing in it that a path gives a meaning, and
is not too long. -/
structure IsName (name : String) : Prop where
  some : name ≠ ""
  dot : name ≠ "."
  dots : name ≠ ".."
  slash : '/' ∉ name.toList
  null : '\x00' ∉ name.toList
  short : name.utf8ByteSize ≤ nameLimit

instance (name : String) : Decidable (IsName name) :=
  decidable_of_iff (name ≠ "" ∧ name ≠ "." ∧ name ≠ ".." ∧ '/' ∉ name.toList ∧ '\x00' ∉ name.toList ∧
      name.utf8ByteSize ≤ nameLimit)
    ⟨fun ⟨h, dot, dots, slash, null, short⟩ => ⟨h, dot, dots, slash, null, short⟩,
      fun h => ⟨h.some, h.dot, h.dots, h.slash, h.null, h.short⟩⟩

theorem IsName.isSkipped {name : String} (h : IsName name) : isSkipped name = false := by
  rw [Path.isSkipped, beq_eq_false_iff_ne.mpr h.some, beq_eq_false_iff_ne.mpr h.dot]
  rfl

/-! ### Pieces -/

theorem cut_of_not_mem {cs : List Char} (slash : '/' ∉ cs) : cut cs = (cs, []) := by
  induction cs with
  | nil => rfl
  | cons c cs ih =>
      rw [cut, ih (List.not_mem_of_not_mem_cons slash)]
      exact if_neg (List.ne_of_not_mem_cons slash).symm

theorem cut_append {cs : List Char} (slash : '/' ∉ cs) (ds : List Char) :
    cut (cs ++ '/' :: ds) = (cs, (cut ds).1 :: (cut ds).2) := by
  induction cs with
  | nil =>
      rw [List.nil_append, cut]
      exact if_pos rfl
  | cons c cs ih =>
      rw [List.cons_append, cut, ih (List.not_mem_of_not_mem_cons slash)]
      exact if_neg (List.ne_of_not_mem_cons slash).symm

theorem pieces_of_not_mem {name : String} (slash : '/' ∉ name.toList) : pieces name = [name] := by
  rw [pieces, cut_of_not_mem slash]
  simp only [List.map_cons, List.map_nil, String.ofList_toList]

/-- What stands in front of the first slash is a piece. -/
theorem pieces_append {name : String} (slash : '/' ∉ name.toList) (rest : String) :
    pieces (name ++ "/" ++ rest) = name :: pieces rest := by
  have chars : (name ++ "/" ++ rest).toList = name.toList ++ '/' :: rest.toList := by
    simp only [String.toList_append, List.append_assoc]
    rfl
  rw [pieces, chars, cut_append slash]
  simp only [List.map_cons, String.ofList_toList]
  rfl

theorem pieces_intercalate {names : List String} (some : names ≠ [])
    (slash : ∀ n ∈ names, '/' ∉ n.toList) : pieces (String.intercalate "/" names) = names := by
  induction names with
  | nil => exact absurd rfl some
  | cons name names ih =>
      have first := slash name (List.mem_cons_self ..)
      cases names with
      | nil =>
          rw [String.intercalate_singleton]
          exact pieces_of_not_mem first
      | cons next names =>
          rw [String.intercalate_cons_cons, pieces_append first,
            ih (List.cons_ne_nil _ _) fun n mem => slash n (List.mem_cons_of_mem _ mem)]

/-- Behind a slash at the start are the other pieces. -/
theorem pieces_slash (rest : String) : pieces ("/" ++ rest) = "" :: pieces rest := by
  have front : pieces ("" ++ "/" ++ rest) = "" :: pieces rest :=
    pieces_append List.not_mem_nil rest
  rwa [String.empty_append] at front

theorem mem_toList_intercalate {names : List String} {c : Char}
    (mem : c ∈ (String.intercalate "/" names).toList) : c = '/' ∨ ∃ n ∈ names, c ∈ n.toList := by
  induction names with
  | nil => cases mem
  | cons name names ih =>
      cases names with
      | nil =>
          rw [String.intercalate_singleton] at mem
          exact Or.inr ⟨name, List.mem_cons_self .., mem⟩
      | cons next names =>
          simp only [String.intercalate_cons_cons, String.toList_append, List.mem_append] at mem
          obtain (mem | slash) | mem := mem
          · exact Or.inr ⟨name, List.mem_cons_self .., mem⟩
          · exact Or.inl (List.mem_singleton.mp slash)
          · obtain slash | ⟨n, listed, inside⟩ := ih mem
            · exact Or.inl slash
            · exact Or.inr ⟨n, List.mem_cons_of_mem _ listed, inside⟩

/-! ### Paths of names -/

section Join

variable {anchor : Anchor} {names : List String}

theorem pieces_join_plain (some : names ≠ []) (all : ∀ n ∈ names, IsName n) :
    pieces (join .plain names) = names :=
  pieces_intercalate some fun n mem => (all n mem).slash

theorem pieces_join_root (some : names ≠ []) (all : ∀ n ∈ names, IsName n) :
    pieces (join .root names) = "" :: names := by
  rw [join, pieces_slash, pieces_intercalate some fun n mem => (all n mem).slash]

/-- A path of names is taken apart again. -/
theorem split_join (dot : anchor ≠ .dot) (some : names ≠ []) (all : ∀ n ∈ names, IsName n) :
    split (join anchor names) = (anchor, names) := by
  cases anchor with
  | dot => exact absurd rfl dot
  | root =>
      obtain ⟨name, names, rfl⟩ := List.exists_cons_of_ne_nil some
      rw [split, pieces_join_root some all]
      rfl
  | plain =>
      rw [split, pieces_join_plain some all]
      split
      · exact absurd rfl (all "" (List.mem_cons_self ..)).some
      · exact absurd rfl (all "" (List.mem_cons_self ..)).some
      · exact absurd rfl (all "." (List.mem_cons_self ..)).dot
      · rfl

theorem trim_of_names (all : ∀ n ∈ names, IsName n) : trim names = names := by
  cases reversed : names.reverse with
  | nil => rw [trim, reversed, List.reverse_eq_nil_iff.mp reversed]; rfl
  | cons name rest =>
      have last : name ∈ names := List.mem_reverse.mp (reversed ▸ List.mem_cons_self ..)
      have kept : ¬ isSkipped name = true := by
        rw [(all name last).isSkipped]
        exact Bool.false_ne_true
      rw [trim, reversed, List.dropWhile_cons_of_neg kept, ← reversed, List.reverse_reverse]

/-- Above the last name of a path are the other names. -/
theorem parent?_join {name : String} (dot : anchor ≠ .dot) (all : ∀ n ∈ names ++ [name], IsName n) :
    parent? (join anchor (names ++ [name])) = some (join anchor names) := by
  have some : names ++ [name] ≠ [] := List.append_ne_nil_of_right_ne_nil _ (List.cons_ne_nil _ _)
  have above : ∀ n ∈ names, IsName n := fun n mem => all n (List.mem_append_left _ mem)
  rw [parent?, split_join dot some all]
  simp only [trim_of_names all, List.isEmpty_eq_false_iff.mpr some, Bool.false_eq_true, if_false,
    List.dropLast_concat, trim_of_names above]

/-- The paths of the first names, the longest first. -/
def climb (anchor : Anchor) (names : List String) : List String :=
  (List.range names.length).reverse.map fun n => join anchor (names.take (n + 1))

theorem climb_concat (anchor : Anchor) (names : List String) (name : String) :
    climb anchor (names ++ [name]) = join anchor (names ++ [name]) :: climb anchor names := by
  have whole : (names ++ [name]).take (names.length + 1) = names ++ [name] :=
    List.take_of_length_le (List.length_append ▸ Nat.le_refl _)
  rw [climb, climb, List.length_append, List.length_singleton, List.range_succ, List.reverse_append,
    List.reverse_singleton, List.singleton_append, List.map_cons, whole]
  refine congrArg _ (List.map_congr_left fun n mem => ?_)
  have bound := List.mem_range.mp (List.mem_reverse.mp mem)
  rw [List.take_append_of_le_length bound]

/-- The paths above a path of names, the longest first, are those of its first names. -/
theorem ancestors_join (dot : anchor ≠ .dot) (all : ∀ n ∈ names, IsName n) :
    ancestors (join anchor names) = climb anchor names := by
  by_cases none : names = []
  · rw [none]
    cases anchor with
    | dot => exact absurd rfl dot
    | plain | root => decide
  · have kept : (List.range names.length).filter (fun n => !isSkipped (names.getD n ""))
        = List.range names.length := by
      refine List.filter_eq_self.mpr fun n mem => ?_
      have bound := List.mem_range.mp mem
      rw [List.getD_eq_getElem?_getD, List.getElem?_eq_getElem bound, Option.getD_some,
        (all _ (List.getElem_mem bound)).isSkipped]
      rfl
    rw [ancestors, split_join dot none all]
    simp only [kept, if_neg dot, climb]

/-- Every path above a path of names is shorter. -/
theorem utf8ByteSize_join_le (anchor : Anchor) (names more : List String) :
    (join anchor names).utf8ByteSize ≤ (join anchor (names ++ more)).utf8ByteSize := by
  have shorter : ∀ names : List String, (String.intercalate "/" names).utf8ByteSize
      ≤ (String.intercalate "/" (names ++ more)).utf8ByteSize := by
    intro names
    by_cases first : names = []
    · rw [first, String.intercalate_nil]
      exact Nat.zero_le _
    · by_cases last : more = []
      · exact Nat.le_of_eq (by rw [last, List.append_nil])
      · rw [String.intercalate_append_of_ne_nil first last, String.utf8ByteSize_append,
          String.utf8ByteSize_append]
        omega
  cases anchor with
  | plain => exact shorter names
  | root =>
      rw [join, join, String.utf8ByteSize_append, String.utf8ByteSize_append]
      exact Nat.add_le_add_left (shorter names) _
  | dot => exact shorter ("." :: names)

/-- A character of a path of names is a slash or stands in a name. -/
theorem mem_toList_join (dot : anchor ≠ .dot) {c : Char} (mem : c ∈ (join anchor names).toList) :
    c = '/' ∨ ∃ n ∈ names, c ∈ n.toList := by
  cases anchor with
  | dot => exact absurd rfl dot
  | plain => exact mem_toList_intercalate mem
  | root =>
      rw [join, String.toList_append, List.mem_append] at mem
      obtain slash | mem := mem
      · exact Or.inl (List.mem_singleton.mp slash)
      · exact mem_toList_intercalate mem

end Join

end Path

end FormulaArt
