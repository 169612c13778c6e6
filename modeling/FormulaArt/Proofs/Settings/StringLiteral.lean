import FormulaArt.Proofs.Runs
import FormulaArt.Settings.StringLiteral

/-!
# What string literals spell

`Spells` says which bytes stand for which characters between the quotes of a literal: a byte for
itself, an escape of one letter for another byte, a code unit of four hexadecimal digits for a
character, and two code units for a character beyond the basic plane.  Reading a literal finds what it
spells and stops behind the closing quote.  A literal that spells nothing, such as one with half a pair
of code units, is not read, but neither is anything behind its closing quote.

## Main definitions

* `bytesOf` — the bytes of characters
* `codeUnit?` — the code unit of four digits
* `Spells` — the bytes between quotes, and the bytes that they stand for
* `IsLiteral` — the bytes between quotes, whatever they spell

## Main statements

* `stringBytes_of_spells` — what a literal spells is read
* `readString_of_spells_text` — and is the text whose bytes it spells
* `spells_self` — bytes without quotes, backslashes and controls spell themselves
* `IsLiteral.rest_of_readString` — any literal that is read ends at its closing quote
-/

namespace FormulaArt

namespace Settings

/-! ### The bytes of characters -/

/-- The bytes of some characters. -/
def bytesOf (cs : List Char) : Bytes :=
  cs.flatMap String.utf8EncodeChar

@[simp] theorem bytesOf_nil : bytesOf [] = [] := rfl

@[simp] theorem bytesOf_cons (c : Char) (cs : List Char) :
    bytesOf (c :: cs) = String.utf8EncodeChar c ++ bytesOf cs := rfl

@[simp] theorem bytesOf_append (cs ds : List Char) :
    bytesOf (cs ++ ds) = bytesOf cs ++ bytesOf ds :=
  List.flatMap_append

/-- The bytes of a text are those of its characters. -/
theorem toList_toUTF8 (text : String) : text.toUTF8.data.toList = bytesOf text.toList := by
  obtain ⟨cs, rfl⟩ : ∃ cs, text = String.ofList cs := ⟨text.toList, String.ofList_toList.symm⟩
  rw [String.toList_ofList, bytesOf]
  exact congrArg Array.toList List.data_toByteArray

/-- A text is found again in the bytes of its characters. -/
theorem fromUTF8?_bytesOf (text : String) :
    String.fromUTF8? (ByteArray.mk (bytesOf text.toList).toArray) = some text := by
  rw [← toList_toUTF8]
  have valid : (ByteArray.mk text.toUTF8.data.toList.toArray).IsValidUTF8 := text.isValidUTF8
  rw [String.fromUTF8?, dif_pos valid]
  rfl

/-! ### Literals -/

/-- The code unit of four hexadecimal digits. -/
def codeUnit? (a b c d : UInt8) : Option Nat := do
  let a ← Byte.hexDigit? a
  let b ← Byte.hexDigit? b
  let c ← Byte.hexDigit? c
  let d ← Byte.hexDigit? d
  return ((a * 16 + b) * 16 + c) * 16 + d

/-- The bytes between two quotes, and the bytes that they stand for. -/
inductive Spells : Bytes → Bytes → Prop
  | nil : Spells [] []
  | plain {b : UInt8} (quote : b ≠ Byte.quote) (backslash : b ≠ Byte.backslash)
      (printable : ¬ b < 0x20) {s t : Bytes} (more : Spells s t) : Spells (b :: s) (b :: t)
  | escape {letter b : UInt8} (entry : simpleEscapes.lookup letter = some b) {s t : Bytes}
      (more : Spells s t) : Spells (Byte.backslash :: letter :: s) (b :: t)
  | point {a b c d : UInt8} {n : Nat} (unit : codeUnit? a b c d = some n)
      (leading : isLeading n = false) (trailing : isTrailing n = false) {s t : Bytes}
      (more : Spells s t) :
      Spells (Byte.backslash :: Byte.lowerU :: a :: b :: c :: d :: s) (encodePoint n ++ t)
  | pair {a b c d a' b' c' d' : UInt8} {m n : Nat} (first : codeUnit? a b c d = some m)
      (second : codeUnit? a' b' c' d' = some n) (leading : isLeading m = true)
      (trailing : isTrailing n = true) {s t : Bytes} (more : Spells s t) :
      Spells (Byte.backslash :: Byte.lowerU :: a :: b :: c :: d ::
          Byte.backslash :: Byte.lowerU :: a' :: b' :: c' :: d' :: s)
        (encodePoint (0x10000 + (m - 0xD800) * 0x400 + (n - 0xDC00)) ++ t)

theorem readCodeUnit_of_codeUnit? {a b c d : UInt8} {n : Nat} (h : codeUnit? a b c d = some n)
    (rest : Bytes) : readCodeUnit (a :: b :: c :: d :: rest) = .ok (n, rest) := by
  simp only [codeUnit?, Option.bind_eq_bind, Option.bind_eq_some_iff, Option.pure_def,
    Option.some.injEq] at h
  obtain ⟨i, hi, j, hj, k, hk, l, hl, rfl⟩ := h
  simp only [readCodeUnit, hi, hj, hk, hl]

/-- A code unit that is no surrogate is escaped by itself. -/
theorem unescape_point {a b c d : UInt8} {n : Nat} (unit : codeUnit? a b c d = some n)
    (leading : isLeading n = false) (trailing : isTrailing n = false) (rest : Bytes) :
    unescape (Byte.lowerU :: a :: b :: c :: d :: rest) = .ok (encodePoint n, rest) := by
  rw [unescape, if_pos rfl, readPoint, readCodeUnit_of_codeUnit? unit]
  simp [bind, Except.bind, leading, trailing, pure, Except.pure]

/-- Surrogates are escaped in pairs. -/
theorem unescape_pair {a b c d a' b' c' d' : UInt8} {m n : Nat} (first : codeUnit? a b c d = some m)
    (second : codeUnit? a' b' c' d' = some n) (leading : isLeading m = true)
    (trailing : isTrailing n = true) (rest : Bytes) :
    unescape (Byte.lowerU :: a :: b :: c :: d ::
        Byte.backslash :: Byte.lowerU :: a' :: b' :: c' :: d' :: rest)
      = .ok (encodePoint (0x10000 + (m - 0xD800) * 0x400 + (n - 0xDC00)), rest) := by
  -- no code unit is both halves of a pair
  have notTrailing : isTrailing m = false := by
    simp only [isLeading, isTrailing, Bool.and_eq_true, decide_eq_true_eq, Bool.and_eq_false_iff,
      decide_eq_false_iff_not] at leading ⊢
    omega
  rw [unescape, if_pos rfl, readPoint, readCodeUnit_of_codeUnit? first]
  simp [bind, Except.bind, leading, trailing, notTrailing, readTrailing,
    readCodeUnit_of_codeUnit? second, pure, Except.pure]

/-- A string goes on behind an escape. -/
theorem stringBytes_backslash (s : Bytes) :
    stringBytes (Byte.backslash :: s)
      = unescape s >>= fun p => stringBytes p.2 >>= fun q => pure (p.1 ++ q.1, q.2) := by
  rw [stringBytes, if_neg (by decide), if_pos rfl]
  split
  · rename_i e h
    rw [h]
    rfl
  · rename_i bytes rest h
    rw [h]
    rfl

theorem stringBytes_escape {s bytes rest : Bytes} (h : unescape s = .ok (bytes, rest)) :
    stringBytes (Byte.backslash :: s)
      = stringBytes rest >>= fun q => pure (bytes ++ q.1, q.2) := by
  rw [stringBytes_backslash, h]
  rfl

/-- What a literal spells is read, up to its closing quote. -/
theorem stringBytes_of_spells {s t : Bytes} (h : Spells s t) (rest : Bytes) :
    stringBytes (s ++ Byte.quote :: rest) = .ok (t, rest) := by
  induction h with
  | nil =>
      rw [List.nil_append, stringBytes]
      rfl
  | plain quote backslash printable _ ih =>
      rw [List.cons_append, stringBytes, if_neg quote, if_neg backslash, if_neg printable, ih]
      rfl
  | @escape letter b entry s _ _ ih =>
      have read : unescape (letter :: (s ++ Byte.quote :: rest))
          = .ok ([b], s ++ Byte.quote :: rest) := by
        have notUnit : letter ≠ Byte.lowerU := by
          rintro rfl
          cases entry
        simp only [unescape, if_neg notUnit, entry]
      rw [List.cons_append, List.cons_append, stringBytes_escape read, ih]
      rfl
  | point unit leading trailing _ ih =>
      simp only [List.cons_append]
      rw [stringBytes_escape (unescape_point unit leading trailing _), ih]
      rfl
  | pair first second leading trailing _ ih =>
      simp only [List.cons_append]
      rw [stringBytes_escape (unescape_pair first second leading trailing _), ih]
      rfl

/-- A literal is read as the text whose bytes it spells. -/
theorem readString_of_spells_text {s : Bytes} {text : String} (h : Spells s (bytesOf text.toList))
    (rest : Bytes) : readString (s ++ Byte.quote :: rest) = .ok (text, rest) := by
  rw [readString, stringBytes_of_spells h]
  simp only [bind, Except.bind, fromUTF8?_bytesOf]
  rfl

/-- Whether a byte stands for itself in a literal. -/
def isPlain (b : UInt8) : Bool :=
  b != Byte.quote && b != Byte.backslash && !decide (b < 0x20)

/-- Bytes without quotes, backslashes and controls spell themselves. -/
theorem spells_self {s : Bytes} (h : s.all isPlain = true) : Spells s s := by
  induction s with
  | nil => exact .nil
  | cons b s ih =>
      rw [List.all_cons, Bool.and_eq_true] at h
      obtain ⟨plain, others⟩ := h
      simp only [isPlain, Bool.and_eq_true, bne_iff_ne, Bool.not_eq_true', decide_eq_false_iff_not]
        at plain
      exact .plain plain.1.1 plain.1.2 plain.2 (ih others)

/-! ### Where a literal ends -/

/-- The bytes between the quotes of a literal, whatever they spell: no quote without a backslash in
front of it. -/
inductive IsLiteral : Bytes → Prop
  | nil : IsLiteral []
  | plain {b : UInt8} (quote : b ≠ Byte.quote) (backslash : b ≠ Byte.backslash) {s : Bytes}
      (more : IsLiteral s) : IsLiteral (b :: s)
  | escape (b : UInt8) {s : Bytes} (more : IsLiteral s) : IsLiteral (Byte.backslash :: b :: s)

namespace IsLiteral

variable {s u r rest : Bytes}

/-- A digit in front of the closing quote is one of the literal. -/
theorem of_hexDigit {a : UInt8} {i : Nat} (h : IsLiteral s) (eq : s ++ Byte.quote :: rest = a :: u)
    (digit : Byte.hexDigit? a = some i) : ∃ t, IsLiteral t ∧ u = t ++ Byte.quote :: rest := by
  cases h with
  | nil =>
      cases eq
      cases digit
  | plain quote backslash more =>
      cases eq
      exact ⟨_, more, rfl⟩
  | escape b more =>
      cases eq
      cases digit

/-- The digits of a code unit stand in front of the closing quote. -/
theorem of_readCodeUnit {n : Nat} (h : IsLiteral s)
    (read : readCodeUnit (s ++ Byte.quote :: rest) = .ok (n, r)) :
    ∃ t, IsLiteral t ∧ r = t ++ Byte.quote :: rest := by
  rw [readCodeUnit.eq_def] at read
  split at read
  · rename_i a b c d u eq
    split at read
    · rename_i i j k l first second third fourth
      cases read
      obtain ⟨t, more, eq⟩ := h.of_hexDigit eq first
      obtain ⟨t, more, eq⟩ := more.of_hexDigit eq.symm second
      obtain ⟨t, more, eq⟩ := more.of_hexDigit eq.symm third
      exact more.of_hexDigit eq.symm fourth
    · cases read
  · cases read

theorem of_readTrailing {n : Nat} {bytes : Bytes} (h : IsLiteral s)
    (read : readTrailing n (s ++ Byte.quote :: rest) = .ok (bytes, r)) :
    ∃ t, IsLiteral t ∧ r = t ++ Byte.quote :: rest := by
  rw [readTrailing.eq_def] at read
  split at read
  · cases read
  · split at read <;> cases read
  · rename_i b c u eq
    split at read
    · rename_i pair
      obtain ⟨rfl, rfl⟩ := pair
      have inside : ∃ t, IsLiteral t ∧ u = t ++ Byte.quote :: rest := by
        cases h with
        | nil => cases eq
        | plain quote backslash more => exact absurd (List.cons.inj eq).1 backslash
        | escape b more => exact ⟨_, more, (List.cons.inj (List.cons.inj eq).2).2.symm⟩
      obtain ⟨t, more, rfl⟩ := inside
      obtain ⟨⟨n, behind⟩, unit, read⟩ := of_bind_eq_ok read
      obtain ⟨t, more, rfl⟩ := more.of_readCodeUnit unit
      dsimp only at read
      split at read
      · exact ⟨t, more, (Prod.mk.inj (Except.ok.inj read)).2.symm⟩
      · cases read
    · cases read

/-- An escape ends in front of the closing quote. -/
theorem of_unescape {b : UInt8} {bytes : Bytes} (h : IsLiteral s)
    (read : unescape (b :: (s ++ Byte.quote :: rest)) = .ok (bytes, r)) :
    ∃ t, IsLiteral t ∧ r = t ++ Byte.quote :: rest := by
  rw [unescape] at read
  split at read
  · rw [readPoint] at read
    obtain ⟨⟨n, behind⟩, unit, read⟩ := of_bind_eq_ok read
    obtain ⟨t, more, rfl⟩ := h.of_readCodeUnit unit
    dsimp only at read
    split at read
    · cases read
    · split at read
      · exact more.of_readTrailing read
      · cases read
        exact ⟨t, more, rfl⟩
  · split at read
    · cases read
      exact ⟨s, h, rfl⟩
    · cases read

/-- Whatever a literal spells, reading it ends behind its closing quote. -/
theorem rest_of_stringBytes {t : Bytes} (h : IsLiteral s)
    (read : stringBytes (s ++ Byte.quote :: rest) = .ok (t, r)) : r = rest := by
  induction n : s.length using Nat.strongRecOn generalizing s t with
  | ind n ih =>
      cases h with
      | nil =>
          rw [List.nil_append, stringBytes, if_pos rfl] at read
          cases read
          rfl
      | @plain b quote backslash s more =>
          rw [List.cons_append, stringBytes, if_neg quote, if_neg backslash] at read
          split at read
          · cases read
          · obtain ⟨⟨bytes, behind⟩, inner, read⟩ := of_bind_eq_ok read
            cases read
            exact ih s.length (by rw [← n]; exact Nat.lt_succ_self _) more inner rfl
      | @escape b s more =>
          rw [List.cons_append, List.cons_append, stringBytes_backslash] at read
          obtain ⟨⟨bytes, behind⟩, escaped, read⟩ := of_bind_eq_ok read
          obtain ⟨⟨others, behind'⟩, inner, read⟩ := of_bind_eq_ok read
          cases read
          have shorter := length_of_unescape escaped
          obtain ⟨t, more, rfl⟩ := more.of_unescape escaped
          refine ih t.length ?_ more inner rfl
          simp only [List.length_append, List.length_cons] at shorter n
          omega

theorem rest_of_readString {text : String} (h : IsLiteral s)
    (read : readString (s ++ Byte.quote :: rest) = .ok (text, r)) : r = rest := by
  rw [readString] at read
  obtain ⟨⟨bytes, behind⟩, inner, read⟩ := of_bind_eq_ok read
  dsimp only at read
  split at read
  · cases read
    exact h.rest_of_stringBytes inner
  · cases read

end IsLiteral

end Settings

end FormulaArt
