import FormulaArt.Proofs.Settings.Number
import FormulaArt.Settings.Reader

/-!
# Values of fields

Every field has a way of writing its values, and a way of reading them.  What is written is read back,
with blanks in front of it and other tokens behind it.  An integer in decimal digits that does not lie
between the bounds of its field is refused, however many digits it has.

## Main definitions

* `OutOfRange` — why an integer is refused
* `Settings.withFields` — settings with the values of some fields in place of theirs
* `Field.integers?` — the integers that a field holds

## Main statements

* `readInteger_writeInt`, `readInteger_writeInt_of_not_mem` — an integer between the bounds, and any
  other
* `readField_writeField` — the value of a field is read back
* `readField_writeInt_of_not_mem` — an integer that a field does not hold is refused
-/

namespace FormulaArt

namespace Settings

/-! ### Integers -/

theorem writeInt_natCast (n : Nat) : writeInt n = writeNat n := by
  rw [writeInt, if_neg (by omega), Int.natAbs_natCast]

/-- Digits are no blanks. -/
theorem isSpace_of_isDigit {b : UInt8} (digit : Byte.isDigit b = true) : Byte.isSpace b = false := by
  cases space : Byte.isSpace b with
  | false => rfl
  | true =>
      have stop := (stopsNumber_of_isSpace space [] b [] rfl).1
      rw [digit] at stop
      cases stop

/-- A number literal does not start like a value of another kind, or with a blank. -/
theorem of_startsNumber {b : UInt8} (start : b = Byte.minus ∨ Byte.isDigit b = true) :
    Byte.isSpace b = false ∧ b ≠ Byte.lowerN ∧ b ≠ Byte.quote ∧ b ≠ Byte.openBrace := by
  rcases start with rfl | digit
  · decide
  · refine ⟨isSpace_of_isDigit digit, ?_, ?_, ?_⟩
    all_goals
      rintro rfl
      cases digit

/-- An integer starts with its sign or with a digit. -/
theorem exists_bytesOf_writeInt_eq (n : Int) :
    ∃ b t, bytesOf (writeInt n) = b :: t ∧ (b = Byte.minus ∨ Byte.isDigit b = true) := by
  by_cases negative : n < 0
  · rw [writeInt, if_pos negative]
    exact ⟨Byte.minus, _, rfl, Or.inl rfl⟩
  · rw [writeInt, if_neg negative]
    obtain ⟨b, ds, eq, -⟩ := exists_bytesOf_writeNat_eq n.natAbs
    exact ⟨b, ds, eq, Or.inr (allDigits_writeNat n.natAbs b (eq ▸ List.mem_cons_self ..))⟩

/-- Reading an integer is reading its digits behind its sign, and then holding it to the bounds. -/
theorem exists_readInteger_eq (expected : Expected) (low high : Int) {n : Int} {ts : List Bytes}
    {s : Bytes} (h : Spaced (bytesOf (writeInt n) :: ts) s) :
    ∃ rest, Spaced ts rest ∧
      readInteger expected low high s
        = (readNumber (decide (n < 0)) (bytesOf (writeNat n.natAbs) ++ rest)).bind
            fun (literal, rest) =>
              (checkInteger expected low high literal).map fun n => (n, rest) := by
  by_cases negative : n < 0
  · rw [writeInt, if_pos negative, bytesOf_cons] at h
    obtain ⟨rest, found, more⟩ := h.exists_skipSpace_eq (by decide)
    refine ⟨rest, more, ?_⟩
    rw [readInteger, found, decide_eq_true negative]
    rfl
  · rw [writeInt, if_neg negative] at h
    rw [decide_eq_false negative]
    have digits := allDigits_writeNat n.natAbs
    obtain ⟨b, ds, eq, -⟩ := exists_bytesOf_writeNat_eq n.natAbs
    rw [eq] at h digits ⊢
    have digit : Byte.isDigit b = true := digits b (List.mem_cons_self ..)
    obtain ⟨rest, found, more⟩ := h.exists_skipSpace_eq (isSpace_of_isDigit digit)
    refine ⟨rest, more, ?_⟩
    have notMinus : b ≠ Byte.minus := by
      rintro rfl
      cases digit
    simp only [readInteger, found, if_neg notMinus, if_pos digit]
    rfl

/-- A literal of 64 bits stands for its integer. -/
theorem integerOf_natAbs {n : Int} (low : -Nat.pow 2 63 ≤ n) :
    integerOf (decide (n < 0)) n.natAbs = .integer n := by
  by_cases negative : n < 0
  · have magnitude : 0 < n.natAbs ∧ n.natAbs ≤ Nat.pow 2 63 := by omega
    have value : -(n.natAbs : Int) = n := by omega
    rw [decide_eq_true negative, integerOf, if_pos rfl, if_pos magnitude, value]
  · have value : (n.natAbs : Int) = n := by omega
    rw [decide_eq_false negative, integerOf, if_neg Bool.false_ne_true, value]

variable (expected : Expected) (low high : Int) {n : Int} {ts : List Bytes} {s : Bytes}

/-- An integer between the bounds is read. -/
theorem readInteger_writeInt (lower : -Nat.pow 2 63 ≤ low) (upper : high ≤ significandLimit)
    (above : low ≤ n) (below : n ≤ high) (h : Spaced (bytesOf (writeInt n) :: ts) s)
    (ends : Delimits ts) :
    ∃ rest, readInteger expected low high s = .ok (n, rest) ∧ Spaced ts rest := by
  obtain ⟨rest, more, eq⟩ := exists_readInteger_eq expected low high h
  have fits : n.natAbs ≤ significandLimit := by
    have power : Nat.pow 2 63 = 9223372036854775808 := rfl
    simp only [significandLimit, UInt64.size] at upper ⊢
    omega
  refine ⟨rest, ?_, more⟩
  rw [eq, readNumber_writeNat _ fits (more.stopsNumber ends),
    integerOf_natAbs (Int.le_trans lower above)]
  simp only [Except.bind, checkInteger, if_pos (And.intro above below), Except.map]

/-- Why an integer in decimal digits is refused: it does not lie between the bounds, or it is too large
for an integer or even for a floating-point number. -/
def OutOfRange (expected : Expected) (n : Int) (e : ReadError) : Prop :=
  e = .invalidValue n expected ∨ (∃ v, e = .invalidType (.floating v) expected) ∨
    e = .numberOutOfRange

/-- Any other integer is refused, however many digits it has. -/
theorem readInteger_writeInt_of_not_mem (outside : ¬ (low ≤ n ∧ n ≤ high))
    (h : Spaced (bytesOf (writeInt n) :: ts) s) (ends : Delimits ts) :
    ∃ e, readInteger expected low high s = .error e ∧ OutOfRange expected n e := by
  obtain ⟨rest, more, eq⟩ := exists_readInteger_eq expected low high h
  rcases Nat.lt_or_ge significandLimit n.natAbs with large | fits
  · rcases readNumber_writeNat_of_lt (decide (n < 0)) large (more.stopsNumber ends) with
      ⟨v, read⟩ | read
    · exact ⟨_, by rw [eq, read]; rfl, Or.inr (Or.inl ⟨v, rfl⟩)⟩
    · exact ⟨_, by rw [eq, read]; rfl, Or.inr (Or.inr rfl)⟩
  · rw [eq, readNumber_writeNat _ fits (more.stopsNumber ends)]
    rcases Int.lt_or_le n (-Nat.pow 2 63) with small | inside
    · -- below the least integer of 64 bits
      have magnitude : ¬ (0 < n.natAbs ∧ n.natAbs ≤ Nat.pow 2 63) := by omega
      have negative : n < 0 := by omega
      rw [decide_eq_true negative, integerOf, if_pos rfl, if_neg magnitude]
      exact ⟨_, rfl, Or.inr (Or.inl ⟨_, rfl⟩)⟩
    · rw [integerOf_natAbs inside]
      simp only [Except.bind, checkInteger, if_neg outside]
      exact ⟨_, rfl, Or.inl rfl⟩

/-! ### Values of each type -/

section Values

variable {ts : List Bytes} {s : Bytes}

theorem readUnsigned32_writeNat {n : UInt32} (h : Spaced (bytesOf (writeNat n.toNat) :: ts) s)
    (ends : Delimits ts) : ∃ rest, readUnsigned32 s = .ok (n, rest) ∧ Spaced ts rest := by
  rw [← writeInt_natCast] at h
  have below : (n.toNat : Int) ≤ UInt32.size - 1 := by
    have := n.toNat_lt
    simp only [UInt32.size]
    omega
  obtain ⟨rest, read, more⟩ := readInteger_writeInt .unsigned32 0 (UInt32.size - 1)
    (by decide) (by decide) (Int.natCast_nonneg _) below h ends
  refine ⟨rest, ?_, more⟩
  rw [readUnsigned32, read]
  simp only [bind, Except.bind, Int.toNat_natCast, UInt32.ofNat_toNat]
  rfl

theorem readSigned32_writeInt {n : Int32} (h : Spaced (bytesOf (writeInt n.toInt) :: ts) s)
    (ends : Delimits ts) : ∃ rest, readSigned32 s = .ok (n, rest) ∧ Spaced ts rest := by
  obtain ⟨rest, read, more⟩ := readInteger_writeInt .signed32 _ _
    (by decide) (by decide) n.minValue_le_toInt n.toInt_le h ends
  refine ⟨rest, ?_, more⟩
  rw [readSigned32, read]
  simp only [bind, Except.bind, Int32.ofInt_toInt]
  rfl

theorem readUnsigned64_writeNat (expected : Expected) {n : UInt64}
    (h : Spaced (bytesOf (writeNat n.toNat) :: ts) s) (ends : Delimits ts) :
    ∃ rest, readUnsigned64 expected s = .ok (n, rest) ∧ Spaced ts rest := by
  rw [← writeInt_natCast] at h
  have below : (n.toNat : Int) ≤ UInt64.size - 1 := by
    have := n.toNat_lt
    simp only [UInt64.size]
    omega
  obtain ⟨rest, read, more⟩ := readInteger_writeInt expected 0 (UInt64.size - 1)
    (by decide) (by decide) (Int.natCast_nonneg _) below h ends
  refine ⟨rest, ?_, more⟩
  rw [readUnsigned64, read]
  simp only [bind, Except.bind, Int.toNat_natCast, UInt64.ofNat_toNat]
  rfl

/-- A value that does not start like `null` is read as one that is present.  It is read without the blanks in
front of it, which is another way of writing it. -/
theorem exists_readOptional_eq {β : Type} (read : Bytes → Except ReadError (β × Bytes)) {b : UInt8}
    {t : Bytes} (solid : Byte.isSpace b = false) (notNull : b ≠ Byte.lowerN)
    (h : Spaced ((b :: t) :: ts) s) :
    ∃ s', Spaced ((b :: t) :: ts) s' ∧ readOptional read s = readPresent read s' := by
  obtain ⟨rest, found, more⟩ := h.exists_skipSpace_eq solid
  refine ⟨b :: (t ++ rest), .token blank_nil (b :: t) more, ?_⟩
  simp only [readOptional, found, if_neg notNull]

/-- What may be absent is read back: `null` if it is, and else its value, which does not start like
`null`. -/
theorem readOptional_writeOptional {β : Type} {write : β → List Char}
    {read : Bytes → Except ReadError (β × Bytes)} {v : Option β}
    (start : ∀ b, v = some b → ∃ c t,
      bytesOf (write b) = c :: t ∧ Byte.isSpace c = false ∧ c ≠ Byte.lowerN)
    (present : ∀ b, v = some b → ∀ s, Spaced (bytesOf (write b) :: ts) s →
      ∃ rest, read s = .ok (b, rest) ∧ Spaced ts rest)
    (h : Spaced (bytesOf (writeOptional write v) :: ts) s) :
    ∃ rest, readOptional read s = .ok (v, rest) ∧ Spaced ts rest := by
  cases v with
  | none =>
      obtain ⟨rest, found, more⟩ := h.exists_skipSpace_eq (b := Byte.lowerN) (by decide)
      refine ⟨rest, ?_, more⟩
      rw [readOptional, found]
      rfl
  | some b =>
      obtain ⟨c, t, eq, solid, notNull⟩ := start b rfl
      rw [writeOptional, eq] at h
      obtain ⟨s', h, asPresent⟩ := exists_readOptional_eq read solid notNull h
      obtain ⟨rest, value, more⟩ := present b rfl s' (eq ▸ h)
      refine ⟨rest, ?_, more⟩
      rw [asPresent, readPresent, value]
      rfl

/-- A name in quotes. -/
theorem bytesOf_writeName (name : String) :
    bytesOf (writeName name) = Byte.quote :: (bytesOf name.toList ++ [Byte.quote]) := by
  rw [writeName, bytesOf_cons, bytesOf_append]
  rfl

theorem spells_strategy (strategy : Strategy) :
    Spells (bytesOf strategy.name.toList) (bytesOf strategy.name.toList) := by
  refine spells_self ?_
  cases strategy <;> decide

theorem strategyNamed_name (strategy : Strategy) : strategyNamed strategy.name = .ok strategy := by
  cases strategy <;> rfl

/-- A strategy is read from a string that spells its name. -/
theorem readStrategy_of_spells {strategy : Strategy} {key : Bytes}
    (spelled : Spells key (bytesOf strategy.name.toList))
    (h : Spaced ((Byte.quote :: (key ++ [Byte.quote])) :: ts) s) :
    ∃ rest, readStrategy s = .ok (strategy, rest) ∧ Spaced ts rest := by
  obtain ⟨rest, found, more⟩ := h.exists_skipSpace_eq (by decide)
  refine ⟨rest, ?_, more⟩
  rw [List.append_assoc, List.singleton_append] at found
  simp only [readStrategy, found, if_pos, readVariant, readString_of_spells_text spelled, bind,
    Except.bind, strategyNamed_name strategy]
  rfl

theorem readStrategy_writeName {strategy : Strategy}
    (h : Spaced (bytesOf (writeName strategy.name) :: ts) s) :
    ∃ rest, readStrategy s = .ok (strategy, rest) ∧ Spaced ts rest := by
  rw [bytesOf_writeName] at h
  exact readStrategy_of_spells (spells_strategy strategy) h

end Values

/-! ### Fields -/

/-- The settings with the values of some fields in place of theirs. -/
def withFields (s : Settings) (fields : List Field) (values : Settings) : Settings where
  width := if .width ∈ fields then values.width else s.width
  height := if .height ∈ fields then values.height else s.height
  minDepth := if .minDepth ∈ fields then values.minDepth else s.minDepth
  maxDepth := if .maxDepth ∈ fields then values.maxDepth else s.maxDepth
  seed := if .seed ∈ fields then values.seed else s.seed
  strategy := if .strategy ∈ fields then values.strategy else s.strategy
  threads := if .threads ∈ fields then values.threads else s.threads

@[simp] theorem withFields_nil (s values : Settings) : s.withFields [] values = s := rfl

@[simp] theorem withFields_all (s values : Settings) : s.withFields Field.all values = values := rfl

/-- Fields may be replaced one after the other. -/
theorem withFields_cons (s values : Settings) (f : Field) (fields : List Field) :
    s.withFields (f :: fields) values = (s.withFields [f] values).withFields fields values := by
  cases f <;> simp [withFields]

/-- The value of a field that a line of settings holds is read back, and no other field is changed. -/
theorem readField_writeField (f : Field) (settings values : Settings) {ts : List Bytes} {s : Bytes}
    (h : Spaced (bytesOf (values.writeField f) :: ts) s) (ends : Delimits ts) :
    ∃ rest, readField f settings s = .ok (settings.withFields [f] values, rest) ∧
      Spaced ts rest := by
  have digitStart : ∀ n : Nat, ∃ c t,
      bytesOf (writeNat n) = c :: t ∧ Byte.isSpace c = false ∧ c ≠ Byte.lowerN := by
    intro n
    obtain ⟨c, t, eq, start⟩ := exists_bytesOf_writeInt_eq n
    rw [writeInt_natCast] at eq
    exact ⟨c, t, eq, (of_startsNumber start).1, (of_startsNumber start).2.1⟩
  have read64 : ∀ (expected : Expected) (v : Option UInt64),
      Spaced (bytesOf (writeOptional (fun n => writeNat n.toNat) v) :: ts) s →
        ∃ rest, readOptional (readUnsigned64 expected) s = .ok (v, rest) ∧ Spaced ts rest := by
    intro expected v h
    refine readOptional_writeOptional (fun n _ => digitStart n.toNat) (fun n _ s h => ?_) h
    exact readUnsigned64_writeNat expected h ends
  cases f with
  | width =>
      obtain ⟨rest, read, more⟩ := readUnsigned32_writeNat h ends
      exact ⟨rest, by rw [readField, read]; rfl, more⟩
  | height =>
      obtain ⟨rest, read, more⟩ := readUnsigned32_writeNat h ends
      exact ⟨rest, by rw [readField, read]; rfl, more⟩
  | minDepth =>
      obtain ⟨rest, read, more⟩ := readSigned32_writeInt h ends
      exact ⟨rest, by rw [readField, read]; rfl, more⟩
  | maxDepth =>
      obtain ⟨rest, read, more⟩ := readSigned32_writeInt h ends
      exact ⟨rest, by rw [readField, read]; rfl, more⟩
  | seed =>
      obtain ⟨rest, read, more⟩ := read64 .unsigned64 values.seed h
      exact ⟨rest, by rw [readField, read]; rfl, more⟩
  | strategy =>
      have quoted : ∀ v : Strategy, ∃ c t,
          bytesOf (writeName v.name) = c :: t ∧ Byte.isSpace c = false ∧ c ≠ Byte.lowerN :=
        fun v => ⟨_, _, bytesOf_writeName v.name, by decide, by decide⟩
      obtain ⟨rest, read, more⟩ := readOptional_writeOptional (v := values.strategy)
        (fun v _ => quoted v) (fun v _ s h => readStrategy_writeName h) h
      exact ⟨rest, by rw [readField, read]; rfl, more⟩
  | threads =>
      obtain ⟨rest, read, more⟩ := read64 .count values.threads h
      exact ⟨rest, by rw [readField, read]; rfl, more⟩

/-- The value of a field starts neither with a blank nor like the end of a list. -/
theorem exists_bytesOf_writeField_eq (values : Settings) (f : Field) :
    ∃ b t, bytesOf (values.writeField f) = b :: t ∧ Byte.isSpace b = false ∧ b ≠ Byte.closeBracket := by
  have integer (n : Int) : ∃ b t,
      bytesOf (writeInt n) = b :: t ∧ Byte.isSpace b = false ∧ b ≠ Byte.closeBracket := by
    obtain ⟨b, t, eq, start⟩ := exists_bytesOf_writeInt_eq n
    refine ⟨b, t, eq, (of_startsNumber start).1, ?_⟩
    rintro rfl
    exact absurd start (by decide)
  have number (n : Nat) := writeInt_natCast n ▸ integer n
  have optional (v : Option UInt64) : ∃ b t,
      bytesOf (writeOptional (fun n => writeNat n.toNat) v) = b :: t ∧ Byte.isSpace b = false ∧
        b ≠ Byte.closeBracket := by
    cases v with
    | none => exact ⟨Byte.lowerN, _, rfl, by decide, by decide⟩
    | some n => exact number n.toNat
  cases f with
  | width => exact number _
  | height => exact number _
  | minDepth => exact integer _
  | maxDepth => exact integer _
  | seed => exact optional _
  | threads => exact optional _
  | strategy =>
      rw [writeField]
      cases values.strategy with
      | none => exact ⟨Byte.lowerN, _, rfl, by decide, by decide⟩
      | some strategy => exact ⟨Byte.quote, _, bytesOf_writeName _, by decide, by decide⟩

/-! ### Integers out of range -/

/-- The integers that a field holds: what they are called, and the least and the greatest of them. -/
def Field.integers? : Field → Option (Expected × Int × Int)
  | .width | .height => some (.unsigned32, 0, UInt32.size - 1)
  | .minDepth | .maxDepth => some (.signed32, Int32.minValue.toInt, Int32.maxValue.toInt)
  | .seed => some (.unsigned64, 0, UInt64.size - 1)
  | .strategy => none
  | .threads => some (.count, 0, UInt64.size - 1)

/-- An integer in the place of an optional value is read as one that is present. -/
theorem readOptional_error_of_writeInt {β : Type} {read : Bytes → Except ReadError (β × Bytes)}
    {n : Int} {ts : List Bytes} {P : ReadError → Prop}
    (refused : ∀ s, Spaced (bytesOf (writeInt n) :: ts) s → ∃ e, read s = .error e ∧ P e)
    {s : Bytes} (h : Spaced (bytesOf (writeInt n) :: ts) s) :
    ∃ e, readOptional read s = .error e ∧ P e := by
  obtain ⟨b, t, eq, start⟩ := exists_bytesOf_writeInt_eq n
  obtain ⟨solid, notNull, -⟩ := of_startsNumber start
  rw [eq] at h
  obtain ⟨s', h, asPresent⟩ := exists_readOptional_eq read solid notNull h
  obtain ⟨e, refusal, reason⟩ := refused s' (eq ▸ h)
  refine ⟨e, ?_, reason⟩
  rw [asPresent, readPresent, refusal]
  rfl

theorem readOptional_writeInt_of_not_mem (expected : Expected) {n : Int}
    (outside : ¬ (0 ≤ n ∧ n ≤ UInt64.size - 1)) {ts : List Bytes} {s : Bytes}
    (h : Spaced (bytesOf (writeInt n) :: ts) s) (ends : Delimits ts) :
    ∃ e, readOptional (readUnsigned64 expected) s = .error e ∧ OutOfRange expected n e := by
  refine readOptional_error_of_writeInt (fun s h => ?_) h
  obtain ⟨e, read, reason⟩ := readInteger_writeInt_of_not_mem expected _ _ outside h ends
  refine ⟨e, ?_, reason⟩
  rw [readUnsigned64, read]
  rfl

/-- A field refuses every integer that it does not hold, however many digits it has. -/
theorem readField_writeInt_of_not_mem {f : Field} {expected : Expected} {low high n : Int}
    (bounds : f.integers? = some (expected, low, high)) (outside : ¬ (low ≤ n ∧ n ≤ high))
    (settings : Settings) {ts : List Bytes} {s : Bytes}
    (h : Spaced (bytesOf (writeInt n) :: ts) s) (ends : Delimits ts) :
    ∃ e, readField f settings s = .error e ∧ OutOfRange expected n e := by
  cases f with
  | width | height | minDepth | maxDepth =>
      cases bounds
      obtain ⟨e, read, reason⟩ := readInteger_writeInt_of_not_mem _ _ _ outside h ends
      refine ⟨e, ?_, reason⟩
      simp only [readField, readUnsigned32, readSigned32, read]
      rfl
  | seed | threads =>
      cases bounds
      obtain ⟨e, read, reason⟩ := readOptional_writeInt_of_not_mem _ outside h ends
      refine ⟨e, ?_, reason⟩
      rw [readField, read]
      rfl
  | strategy => cases bounds

end Settings

end FormulaArt
