import FormulaArt.Proofs.Settings.StringLiteral
import FormulaArt.Proofs.Settings.Tokens
import FormulaArt.Settings.Printer

/-!
# Numbers in decimal digits

A natural number is written with its digits, the first of which is no zero unless it is the only one.
As long as it fits into 64 bits, reading the digits gives it back, and a larger number is read as a
floating-point number, if it is not too large even for that.  A literal that is read as an integer is
a run of digits.

## Main definitions

* `digitsValue` — the value of decimal digits
* `AllDigits` — bytes that are all digits

## Main statements

* `exists_take_eq`, `skip_append` — the digits that fit, and those that are passed over
* `readNumber_writeNat` — digits of a number of 64 bits
* `readNumber_writeNat_of_lt` — digits of a larger number
* `of_readNumber_eq_integer` — literals that are read as integers
-/

namespace FormulaArt

namespace Settings

/-! ### Digits -/

/-- Bytes that are all decimal digits. -/
def AllDigits (ds : Bytes) : Prop :=
  ∀ b ∈ ds, Byte.isDigit b = true

/-- The value of decimal digits behind those of `v`. -/
def digitsValue (v : Nat) (ds : Bytes) : Nat :=
  ds.foldl (fun n b => n * 10 + Byte.digit b) v

/-- The byte of a digit. -/
def digitByte (d : Nat) : UInt8 :=
  UInt8.ofNat (0x30 + d)

theorem isDigit_digitByte : ∀ d < 10, Byte.isDigit (digitByte d) = true := by
  decide

theorem digit_digitByte : ∀ d < 10, Byte.digit (digitByte d) = d := by
  decide

theorem digitByte_ne_zero : ∀ d < 10, d ≠ 0 → digitByte d ≠ Byte.zero := by
  decide

theorem utf8EncodeChar_digitChar : ∀ d < 10, String.utf8EncodeChar d.digitChar = [digitByte d] := by
  decide

theorem digitsValue_append (v : Nat) (ds es : Bytes) :
    digitsValue v (ds ++ es) = digitsValue (digitsValue v ds) es :=
  List.foldl_append

theorem le_digitsValue (v : Nat) (ds : Bytes) : v ≤ digitsValue v ds := by
  induction ds generalizing v with
  | nil => exact Nat.le_refl v
  | cons b ds ih =>
      calc
        v ≤ v * 10 + Byte.digit b := by omega
        _ ≤ digitsValue (v * 10 + Byte.digit b) ds := ih _

/-- A number of one digit. -/
theorem bytesOf_writeNat_of_lt {n : Nat} (small : n < 10) : bytesOf (writeNat n) = [digitByte n] := by
  rw [writeNat, Nat.toDigits_of_lt_base small, bytesOf_cons, utf8EncodeChar_digitChar n small]
  rfl

/-- The last digit of a number is its remainder, and the others are those of its tenth. -/
theorem bytesOf_writeNat_of_le {n : Nat} (large : 10 ≤ n) :
    bytesOf (writeNat n) = bytesOf (writeNat (n / 10)) ++ [digitByte (n % 10)] := by
  rw [writeNat, Nat.toDigits_eq_if (by decide), if_neg (Nat.not_lt.mpr large), bytesOf_append,
    bytesOf_cons, utf8EncodeChar_digitChar _ (Nat.mod_lt n (by decide))]
  rfl

theorem allDigits_writeNat (n : Nat) : AllDigits (bytesOf (writeNat n)) := by
  induction n using Nat.strongRecOn with
  | ind n ih =>
      rcases Nat.lt_or_ge n 10 with small | large
      · rw [bytesOf_writeNat_of_lt small]
        simpa [AllDigits] using isDigit_digitByte n small
      · rw [bytesOf_writeNat_of_le large]
        intro b mem
        rcases List.mem_append.mp mem with mem | mem
        · exact ih (n / 10) (by omega) b mem
        · rw [List.mem_singleton.mp mem]
          exact isDigit_digitByte _ (Nat.mod_lt n (by decide))

/-- The digits of a number have its value. -/
theorem digitsValue_writeNat (n : Nat) : digitsValue 0 (bytesOf (writeNat n)) = n := by
  induction n using Nat.strongRecOn with
  | ind n ih =>
      rcases Nat.lt_or_ge n 10 with small | large
      · rw [bytesOf_writeNat_of_lt small]
        show 0 * 10 + Byte.digit (digitByte n) = n
        rw [digit_digitByte n small]
        omega
      · rw [bytesOf_writeNat_of_le large, digitsValue_append, ih (n / 10) (by omega)]
        show n / 10 * 10 + Byte.digit (digitByte (n % 10)) = n
        rw [digit_digitByte _ (Nat.mod_lt n (by decide))]
        omega

/-- A number has a digit, and the first digit of a positive number is no zero. -/
theorem exists_bytesOf_writeNat_eq (n : Nat) :
    ∃ b ds, bytesOf (writeNat n) = b :: ds ∧ (n ≠ 0 → b ≠ Byte.zero) := by
  induction n using Nat.strongRecOn with
  | ind n ih =>
      rcases Nat.lt_or_ge n 10 with small | large
      · exact ⟨_, [], bytesOf_writeNat_of_lt small, digitByte_ne_zero n small⟩
      · obtain ⟨b, ds, eq, first⟩ := ih (n / 10) (by omega)
        refine ⟨b, ds ++ [digitByte (n % 10)], ?_, fun _ => first (by omega)⟩
        rw [bytesOf_writeNat_of_le large, eq, List.cons_append]

/-! ### Runs of digits -/

theorem startsWithDigit_of_stops {s : Bytes} (stop : StopsNumber s) : startsWithDigit s = false := by
  cases s with
  | nil => rfl
  | cons b s => exact (stop b s rfl).1

namespace Digits

/-- Of a run of digits, those are taken that do not exceed the limit; all are if their value does not
exceed it. -/
theorem exists_take_eq (limit : Nat) {ds rest : Bytes} (digits : AllDigits ds)
    (stop : startsWithDigit rest = false) (v : Nat) :
    ∃ a b, ds = a ++ b ∧ take limit v (ds ++ rest) = ⟨digitsValue v a, a.length, b ++ rest⟩ ∧
      (digitsValue v ds ≤ limit → b = []) ∧ (b = [] → v ≤ limit → digitsValue v ds ≤ limit) := by
  induction ds generalizing v with
  | nil =>
      refine ⟨[], [], rfl, ?_, fun _ => rfl, fun _ fits => fits⟩
      cases rest with
      | nil => rfl
      | cons b rest =>
          rw [List.nil_append, take, if_neg]
          · rfl
          · rintro ⟨digit, -⟩
            rw [startsWithDigit, digit] at stop
            cases stop
  | cons d ds ih =>
      have digit : Byte.isDigit d = true := digits d (List.mem_cons_self ..)
      have others : AllDigits ds := fun b mem => digits b (List.mem_cons_of_mem _ mem)
      rw [List.cons_append, take]
      by_cases fits : v * 10 + Byte.digit d ≤ limit
      · obtain ⟨a, b, rfl, taken, all, only⟩ := ih others (v * 10 + Byte.digit d)
        rw [if_pos ⟨digit, fits⟩, taken]
        exact ⟨d :: a, b, rfl, rfl, all, fun h _ => only h fits⟩
      · rw [if_neg fun h => fits h.2]
        refine ⟨[], d :: ds, rfl, rfl, fun below => ?_, fun h => nomatch h⟩
        -- further digits do not make the value smaller
        exact absurd (Nat.le_trans (le_digitsValue _ ds) below) fits

/-- A run of digits is passed over as a whole. -/
theorem skip_append {ds rest : Bytes} (digits : AllDigits ds) (stop : startsWithDigit rest = false) :
    skip (ds ++ rest) = ⟨0, ds.length, rest⟩ := by
  induction ds with
  | nil =>
      cases rest with
      | nil => rfl
      | cons b rest =>
          rw [startsWithDigit] at stop
          rw [List.nil_append, skip, stop]
          rfl
  | cons d ds ih =>
      have digit : Byte.isDigit d = true := digits d (List.mem_cons_self ..)
      have others : AllDigits ds := fun b mem => digits b (List.mem_cons_of_mem _ mem)
      rw [List.cons_append, skip, if_pos digit, ih others]
      rfl

end Digits

/-! ### Number literals -/

/-- A number literal that stops behind its integer digits is finished there. -/
theorem readAfterInteger_of_stops (negative : Bool) (significand ignored : Nat) {rest : Bytes}
    (stop : StopsNumber rest) :
    readAfterInteger negative significand ignored rest
      = wholeNumber negative significand ignored rest := by
  cases rest with
  | nil => rfl
  | cons b rest =>
      obtain ⟨-, point, exponent⟩ := stop b rest rfl
      rw [readAfterInteger, if_neg point, exponent]
      rfl

/-- The digits of a number are a whole number, in which digits are passed over only if it does not fit
into 64 bits. -/
theorem exists_readNumber_writeNat_eq (negative : Bool) (n : Nat) {rest : Bytes}
    (stop : StopsNumber rest) :
    ∃ significand ignored,
      readNumber negative (bytesOf (writeNat n) ++ rest)
          = wholeNumber negative significand ignored rest ∧
        (n ≤ significandLimit → significand = n ∧ ignored = 0) ∧
        (significandLimit < n → ignored ≠ 0) := by
  have behind : startsWithDigit rest = false := startsWithDigit_of_stops stop
  by_cases positive : n = 0
  · subst positive
    refine ⟨0, 0, ?_, fun _ => ⟨rfl, rfl⟩, fun large => absurd large (Nat.not_lt_zero _)⟩
    show readNumber negative (Byte.zero :: rest) = _
    rw [readNumber, if_pos rfl, behind, if_neg Bool.false_ne_true,
      readAfterInteger_of_stops _ _ _ stop]
  · obtain ⟨b, ds, eq, first⟩ := exists_bytesOf_writeNat_eq n
    have digits := allDigits_writeNat n
    have value := digitsValue_writeNat n
    rw [eq] at digits value ⊢
    change digitsValue (0 * 10 + Byte.digit b) ds = n at value
    rw [Nat.zero_mul, Nat.zero_add] at value
    have digit : Byte.isDigit b = true := digits b (List.mem_cons_self ..)
    have others : AllDigits ds := fun c mem => digits c (List.mem_cons_of_mem _ mem)
    have small : Byte.digit b ≤ significandLimit :=
      calc
        Byte.digit b ≤ b.toNat := Nat.sub_le _ _
        _ ≤ 255 := Nat.le_of_lt_succ b.toNat_lt
        _ ≤ significandLimit := by decide
    -- some digits are taken, and those behind them are passed over
    obtain ⟨a, c, rfl, taken, all, only⟩ :=
      Digits.exists_take_eq significandLimit others behind (Byte.digit b)
    have skipped : Digits.skip (c ++ rest) = ⟨0, c.length, rest⟩ :=
      Digits.skip_append (fun d mem => others d (List.mem_append_right a mem)) behind
    refine ⟨digitsValue (Byte.digit b) a, c.length, ?_, fun fits => ?_, fun large none => ?_⟩
    · rw [List.cons_append, readNumber, if_neg (first positive), if_pos digit]
      simp only [taken, skipped, readAfterInteger_of_stops _ _ _ stop]
    · obtain rfl : c = [] := all (value ▸ fits)
      rw [List.append_nil] at value
      exact ⟨value, rfl⟩
    · have below := only (List.eq_nil_of_length_eq_zero none) small
      rw [value] at below
      exact Nat.not_lt_of_le below large

/-- The digits of a number that fits into 64 bits are an integer. -/
theorem readNumber_writeNat (negative : Bool) {n : Nat} (fits : n ≤ significandLimit) {rest : Bytes}
    (stop : StopsNumber rest) :
    readNumber negative (bytesOf (writeNat n) ++ rest) = .ok (integerOf negative n, rest) := by
  obtain ⟨significand, ignored, read, small, -⟩ := exists_readNumber_writeNat_eq negative n stop
  obtain ⟨rfl, rfl⟩ := small fits
  rw [read, wholeNumber, if_pos rfl]

/-- Scaling gives a number, unless it is too large. -/
theorem scale_cases (v : Float) (exponent : Int) :
    (∃ w, scale v exponent = .ok w) ∨ scale v exponent = .error .numberOutOfRange := by
  induction v, exponent using scale.induct with
  | case1 v exponent fits up product infinite =>
      refine Or.inr ?_
      rw [scale, if_pos fits, if_pos up]
      exact if_pos infinite
  | case2 v exponent fits up product finite =>
      refine Or.inl ⟨product, ?_⟩
      rw [scale, if_pos fits, if_pos up]
      exact if_neg finite
  | case3 v exponent fits down => exact Or.inl ⟨_, by rw [scale, if_pos fits, if_neg down]⟩
  | case4 v exponent far zero => exact Or.inl ⟨v, by rw [scale, if_neg far, if_pos zero]⟩
  | case5 v exponent far nonzero up =>
      exact Or.inr (by rw [scale, if_neg far, if_neg nonzero, dif_pos up])
  | case6 v exponent far nonzero down ih =>
      rw [scale, if_neg far, if_neg nonzero, dif_neg down]
      exact ih

/-- The digits of a larger number are a floating-point number, if it is not too large even for that. -/
theorem readNumber_writeNat_of_lt (negative : Bool) {n : Nat} (large : significandLimit < n)
    {rest : Bytes} (stop : StopsNumber rest) :
    (∃ v, readNumber negative (bytesOf (writeNat n) ++ rest) = .ok (.floating v, rest)) ∨
      readNumber negative (bytesOf (writeNat n) ++ rest) = .error .numberOutOfRange := by
  obtain ⟨significand, ignored, read, -, many⟩ := exists_readNumber_writeNat_eq negative n stop
  rw [read, wholeNumber, if_neg (many large), floatingOf]
  rcases scale_cases (significandValue significand) ignored with ⟨w, scaled⟩ | scaled
  · exact Or.inl ⟨signed negative w, by rw [scaled]; rfl⟩
  · exact Or.inr (by rw [scaled]; rfl)

/-! ### Literals that are read as integers -/

/-- A number that is scaled is no integer. -/
theorem floatingOf_ne_integer (negative : Bool) (significand : Nat) (exponent n : Int)
    (s rest : Bytes) : floatingOf negative significand exponent s ≠ .ok (.integer n, rest) := by
  intro h
  rw [floatingOf] at h
  obtain ⟨v, -, h⟩ := of_bind_eq_ok h
  cases h

/-- A number with an exponent is no integer. -/
theorem readExponent_ne_integer (negative : Bool) (significand : Nat) (exponent n : Int)
    (s rest : Bytes) : readExponent negative significand exponent s ≠ .ok (.integer n, rest) := by
  intro h
  simp only [readExponent] at h
  split at h
  · cases h
  · split at h
    · split at h
      · split at h <;> cases h
      · exact floatingOf_ne_integer _ _ _ _ _ _ h
    · cases h

/-- A number with a decimal point is no integer. -/
theorem readFraction_ne_integer (negative : Bool) (significand : Nat) (exponent n : Int)
    (s rest : Bytes) : readFraction negative significand exponent s ≠ .ok (.integer n, rest) := by
  intro h
  simp only [readFraction] at h
  split at h
  · cases h
  · simp only [readExponent?] at h
    split at h
    · exact floatingOf_ne_integer _ _ _ _ _ _ h
    · split at h
      · exact readExponent_ne_integer _ _ _ _ _ _ h
      · exact floatingOf_ne_integer _ _ _ _ _ _ h

/-- Behind an integer, the literal does not go on. -/
theorem of_readAfterInteger_eq_integer {negative : Bool} {significand ignored : Nat} {n : Int}
    {s rest : Bytes} (digit : startsWithDigit s = false)
    (h : readAfterInteger negative significand ignored s = .ok (.integer n, rest)) :
    rest = s ∧ StopsNumber rest := by
  have whole : ∀ {s : Bytes},
      wholeNumber negative significand ignored s = .ok (.integer n, rest) → rest = s := by
    intro s h
    rw [wholeNumber] at h
    split at h
    · exact (Prod.mk.inj (Except.ok.inj h)).2.symm
    · exact absurd h (floatingOf_ne_integer _ _ _ _ _ _)
  cases s with
  | nil =>
      obtain rfl := whole h
      exact ⟨rfl, stopsNumber_nil⟩
  | cons b s =>
      rw [readAfterInteger] at h
      split at h
      · exact absurd h (readFraction_ne_integer _ _ _ _ _ _)
      · rename_i point
        split at h
        · exact absurd h (readExponent_ne_integer _ _ _ _ _ _)
        · rename_i exponent
          obtain rfl := whole h
          exact ⟨rfl, stopsNumber_cons digit point (Bool.not_eq_true _ ▸ exponent) s⟩

/-- Any bytes are a run of digits and what follows it. -/
theorem exists_digits_append (s : Bytes) :
    ∃ ds rest, s = ds ++ rest ∧ AllDigits ds ∧ startsWithDigit rest = false := by
  induction s with
  | nil => exact ⟨[], [], rfl, (fun _ h => nomatch h), rfl⟩
  | cons b s ih =>
      cases digit : Byte.isDigit b with
      | false => exact ⟨[], b :: s, rfl, (fun _ h => nomatch h), digit⟩
      | true =>
          obtain ⟨ds, rest, rfl, digits, stop⟩ := ih
          refine ⟨b :: ds, rest, rfl, fun c mem => ?_, stop⟩
          rcases List.mem_cons.mp mem with rfl | mem
          · exact digit
          · exact digits c mem

/-- What is read as an integer is a run of digits, and no number goes on behind it. -/
theorem of_readNumber_eq_integer {negative : Bool} {n : Int} {s rest : Bytes}
    (h : readNumber negative s = .ok (.integer n, rest)) :
    ∃ ds, s = ds ++ rest ∧ ds ≠ [] ∧ AllDigits ds ∧ StopsNumber rest := by
  cases s with
  | nil => cases h
  | cons b s =>
      rw [readNumber] at h
      split at h
      · rename_i zero
        split at h
        · cases h
        · rename_i behind
          obtain ⟨rfl, stop⟩ := of_readAfterInteger_eq_integer (Bool.not_eq_true _ ▸ behind) h
          refine ⟨[b], rfl, List.cons_ne_nil _ _, fun c mem => ?_, stop⟩
          rw [List.mem_singleton.mp mem, zero]
          decide
      · split at h
        · rename_i digit
          obtain ⟨ds, t, rfl, digits, behind⟩ := exists_digits_append s
          obtain ⟨a, c, rfl, taken, -, -⟩ :=
            Digits.exists_take_eq significandLimit digits behind (Byte.digit b)
          have skipped : Digits.skip (c ++ t) = ⟨0, c.length, t⟩ :=
            Digits.skip_append (fun d mem => digits d (List.mem_append_right a mem)) behind
          simp only [taken, skipped] at h
          obtain ⟨rfl, stop⟩ := of_readAfterInteger_eq_integer behind h
          refine ⟨b :: (a ++ c), rfl, List.cons_ne_nil _ _, fun d mem => ?_, stop⟩
          rcases List.mem_cons.mp mem with rfl | mem
          · exact digit
          · exact digits d mem
        · cases h

end Settings

end FormulaArt
