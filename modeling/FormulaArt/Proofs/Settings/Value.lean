import FormulaArt.Proofs.Settings.Object

/-!
# Any value in the place of a field

`IsValue` is the grammar of values: literals, numbers, strings, lists and objects, as tokens.  Most of
them cannot be the value of a field.  Whatever value stands there, though, reading it either fails or
stops behind its last token, so that the members behind it are still read as members.

## Main definitions

* `IsNumber`, `IsValue` — number literals, and values of all kinds
* `Leaves` — what is left over, if something is read

## Main statements

* `IsNumber.rest_eq` — an integer is read up to the end of its literal
* `IsValue.leaves_readField` — reading a value into a field stops behind the value
-/

namespace FormulaArt

namespace Settings

/-! ### The grammar -/

/-- One digit or more. -/
def IsDigits (ds : Bytes) : Prop :=
  ds ≠ [] ∧ AllDigits ds

/-- A decimal point with its digits. -/
def IsFraction (t : Bytes) : Prop :=
  ∃ ds, IsDigits ds ∧ t = Byte.point :: ds

/-- A power of ten. -/
def IsExponent (t : Bytes) : Prop :=
  ∃ letter sign ds, isExponentLetter letter = true ∧
    (sign = [] ∨ sign = [Byte.plus] ∨ sign = [Byte.minus]) ∧ IsDigits ds ∧ t = letter :: (sign ++ ds)

/-- A number literal without its sign. -/
def IsMagnitude (t : Bytes) : Prop :=
  ∃ whole fraction exponent, t = whole ++ (fraction ++ exponent) ∧ IsDigits whole ∧
    (whole.head? = some Byte.zero → whole = [Byte.zero]) ∧
    (fraction = [] ∨ IsFraction fraction) ∧ (exponent = [] ∨ IsExponent exponent)

/-- A number literal. -/
def IsNumber (t : Bytes) : Prop :=
  IsMagnitude t ∨ ∃ u, IsMagnitude u ∧ t = Byte.minus :: u

/-- The tokens of a list. -/
def listTokens (items : List (List Bytes)) : List Bytes :=
  [Byte.openBracket] :: (separated true items ++ [[Byte.closeBracket]])

/-- The tokens of a value. -/
inductive IsValue : List Bytes → Prop
  | null : IsValue [bytesOf "null".toList]
  | boolean (b : Bool) : IsValue [bytesOf (toString b).toList]
  | number {t : Bytes} (literal : IsNumber t) : IsValue [t]
  | string {s : Bytes} (literal : IsLiteral s) : IsValue [quoted s]
  | list {items : List (List Bytes)} (values : ∀ item ∈ items, IsValue item) :
      IsValue (listTokens items)
  | object {members : List (Bytes × List Bytes)} (keys : ∀ m ∈ members, IsLiteral m.1)
      (values : ∀ m ∈ members, IsValue m.2) :
      IsValue (objectTokens (members.map fun m => memberTokens m.1 m.2))

/-- If something is read, these tokens are left over. -/
def Leaves {β : Type} (ts : List Bytes) (r : Except ReadError (β × Bytes)) : Prop :=
  ∀ v rest, r = .ok (v, rest) → Spaced ts rest

section Leaves

variable {β γ : Type} {ts : List Bytes}

theorem leaves_error (e : ReadError) : Leaves ts (.error e : Except ReadError (β × Bytes)) := by
  rintro v rest ⟨⟩

theorem leaves_ok (v : β) {rest : Bytes} (more : Spaced ts rest) : Leaves ts (.ok (v, rest)) := by
  rintro _ _ ⟨⟩
  exact more

/-- What is left over in the end is left over by the last reader. -/
theorem leaves_bind {r : Except ReadError γ} {k : γ → Except ReadError (β × Bytes)}
    (h : ∀ c, r = .ok c → Leaves ts (k c)) : Leaves ts (r >>= k) := by
  intro v rest eq
  obtain ⟨c, read, eq⟩ := of_bind_eq_ok eq
  exact h c read v rest eq

/-- What is made of the value that is read does not change what is left over. -/
theorem Leaves.bind_pure {r : Except ReadError (β × Bytes)} (h : Leaves ts r) (f : β → γ) :
    Leaves ts (r >>= fun (v, rest) => pure (f v, rest)) :=
  leaves_bind fun p read => leaves_ok (f p.1) (h p.1 p.2 read)

end Leaves

/-! ### Integers -/

/-- What is read as an integer ends with its literal. -/
theorem IsMagnitude.rest_eq {t behind rest : Bytes} (h : IsMagnitude t) (stop : StopsNumber behind)
    {negative : Bool} {n : Int} (read : readNumber negative (t ++ behind) = .ok (.integer n, rest)) :
    rest = behind := by
  obtain ⟨ds, eq, -, digits, stop'⟩ := of_readNumber_eq_integer read
  obtain ⟨whole, fraction, exponent, rfl, ⟨-, digits'⟩, -, point, power⟩ := h
  rw [List.append_assoc, List.append_assoc] at eq
  -- both ways of taking it apart skip the same digits
  have same : startsWithDigit (fraction ++ (exponent ++ behind)) = false →
      rest = fraction ++ (exponent ++ behind) := by
    intro behindWhole
    have skipped := Digits.skip_append digits (startsWithDigit_of_stops stop')
    rw [← eq, Digits.skip_append digits' behindWhole] at skipped
    exact (Digits.mk.inj skipped).2.2.symm
  rcases point with rfl | ⟨ds', -, rfl⟩
  · rcases power with rfl | ⟨letter, sign, ds', exponential, -, -, rfl⟩
    · exact same (startsWithDigit_of_stops stop)
    · have digit : Byte.isDigit letter = false := by
        simp only [isExponentLetter, Bool.or_eq_true, beq_iff_eq] at exponential
        obtain rfl | rfl := exponential <;> decide
      have contradiction := (stop' letter _ (same digit)).2.2
      rw [exponential] at contradiction
      cases contradiction
  · exact absurd rfl (stop' Byte.point _ (same rfl)).2.1

theorem IsMagnitude.exists_eq_cons {t : Bytes} (h : IsMagnitude t) :
    ∃ b u, t = b :: u ∧ Byte.isDigit b = true := by
  obtain ⟨whole, fraction, exponent, rfl, ⟨some, digits⟩, -⟩ := h
  obtain ⟨b, ds, rfl⟩ := List.exists_cons_of_ne_nil some
  exact ⟨b, ds ++ (fraction ++ exponent), rfl, digits b (List.mem_cons_self ..)⟩

section Values

variable {ts : List Bytes} {s : Bytes}

/-- A number literal that is read and then held to bounds. -/
theorem leaves_checkInteger (expected : Expected) (low high : Int) {negative : Bool} {t rest : Bytes}
    (h : IsMagnitude t) (more : Spaced ts rest) (ends : Delimits ts) :
    Leaves ts (do
      let (literal, rest) ← readNumber negative (t ++ rest)
      return (← checkInteger expected low high literal, rest)) := by
  refine leaves_bind fun p read => leaves_bind fun n checked => ?_
  obtain ⟨literal, behind⟩ := p
  cases literal with
  | floating v => cases checked
  | integer n =>
      obtain rfl := h.rest_eq (more.stopsNumber ends) read
      exact leaves_ok _ more

theorem IsNumber.exists_eq_cons {t : Bytes} (h : IsNumber t) :
    ∃ b u, t = b :: u ∧ (b = Byte.minus ∨ Byte.isDigit b = true) := by
  rcases h with magnitude | ⟨u, -, rfl⟩
  · obtain ⟨b, u, rfl, digit⟩ := magnitude.exists_eq_cons
    exact ⟨b, u, rfl, Or.inr digit⟩
  · exact ⟨Byte.minus, u, rfl, Or.inl rfl⟩

/-- The first byte of a value is no blank, and tells `null` and numbers from the other values. -/
theorem IsValue.exists_head {v : List Bytes} (value : IsValue v) :
    ∃ b t us, v = (b :: t) :: us ∧ Byte.isSpace b = false ∧
      (v = [bytesOf "null".toList] ∨ b ≠ Byte.lowerN) ∧
      ((∃ t, IsNumber t ∧ v = [t]) ∨ b ≠ Byte.minus ∧ Byte.isDigit b = false) := by
  cases value with
  | null =>
      exact ⟨Byte.lowerN, _, _, rfl, by decide, Or.inl rfl, Or.inr (by decide)⟩
  | boolean b =>
      cases b
      · exact ⟨Byte.lowerF, _, _, rfl, by decide, Or.inr (by decide), Or.inr (by decide)⟩
      · exact ⟨Byte.lowerT, _, _, rfl, by decide, Or.inr (by decide), Or.inr (by decide)⟩
  | string literal =>
      exact ⟨Byte.quote, _, _, rfl, by decide, Or.inr (by decide), Or.inr (by decide)⟩
  | list values =>
      exact ⟨Byte.openBracket, _, _, rfl, by decide, Or.inr (by decide), Or.inr (by decide)⟩
  | object keys values =>
      exact ⟨Byte.openBrace, _, _, rfl, by decide, Or.inr (by decide), Or.inr (by decide)⟩
  | @number literal number =>
      obtain ⟨b, u, rfl, start⟩ := number.exists_eq_cons
      obtain ⟨solid, notNull, -⟩ := of_startsNumber start
      exact ⟨b, u, [], rfl, solid, Or.inr notNull, Or.inl ⟨_, number, rfl⟩⟩

theorem IsNumber.leaves_readInteger (expected : Expected) (low high : Int) {t : Bytes}
    (number : IsNumber t) (h : Spaced (t :: ts) s) (ends : Delimits ts) :
    Leaves ts (readInteger expected low high s) := by
  rcases number with magnitude | ⟨u, magnitude, rfl⟩
  · obtain ⟨b, u, rfl, digit⟩ := magnitude.exists_eq_cons
    obtain ⟨rest, found, more⟩ := h.exists_skipSpace_eq (isSpace_of_isDigit digit)
    have minus : b ≠ Byte.minus := by
      rintro rfl
      cases digit
    simp only [readInteger, found, if_neg minus, digit, if_true]
    exact leaves_checkInteger expected low high magnitude more ends
  · obtain ⟨rest, found, more⟩ := h.exists_skipSpace_eq (by decide)
    rw [readInteger, found]
    exact leaves_checkInteger expected low high magnitude more ends

theorem IsValue.leaves_readInteger (expected : Expected) (low high : Int) {v : List Bytes}
    (value : IsValue v) (h : Spaced (v ++ ts) s) (ends : Delimits ts) :
    Leaves ts (readInteger expected low high s) := by
  obtain ⟨b, t, us, rfl, solid, -, ⟨t, number, eq⟩ | ⟨minus, digit⟩⟩ := value.exists_head
  · rw [eq] at h
    exact number.leaves_readInteger expected low high h ends
  · obtain ⟨rest, found, -⟩ := h.exists_skipSpace_eq solid
    simp only [readInteger, found, if_neg minus, digit, Bool.false_eq_true, if_false]
    exact leaves_error _

/-! ### Strategies -/

/-- A name of a strategy is read up to its closing quote. -/
theorem leaves_readVariant {key rest : Bytes} (literal : IsLiteral key) (more : Spaced ts rest) :
    Leaves ts (readVariant (key ++ Byte.quote :: rest)) := by
  rw [readVariant]
  refine leaves_bind fun p read => leaves_bind fun strategy _ => ?_
  obtain ⟨name, behind⟩ := p
  obtain rfl := literal.rest_of_readString read
  exact leaves_ok strategy more

/-- No value but `null` is read as `null`. -/
theorem IsValue.spaced_of_readUnit {v : List Bytes} (value : IsValue v) (h : Spaced (v ++ ts) s)
    {rest : Bytes} (read : readUnit s = .ok rest) : Spaced ts rest := by
  obtain ⟨b, t, us, rfl, solid, null | other, -⟩ := value.exists_head
  · rw [null] at h
    obtain ⟨behind, found, more⟩ := h.exists_skipSpace_eq (b := Byte.lowerN) (by decide)
    rw [readUnit, found] at read
    cases read
    exact more
  · obtain ⟨behind, found, -⟩ := h.exists_skipSpace_eq solid
    simp only [readUnit, found, if_neg other] at read
    cases read

/-- Behind its only member, an object is closed. -/
theorem spaced_of_readSingleEnd {members : List (List Bytes)}
    (h : Spaced (separated false members ++ [Byte.closeBrace] :: ts) s) {rest : Bytes}
    (read : readSingleEnd s = .ok rest) : Spaced ts rest := by
  cases members with
  | nil =>
      obtain ⟨behind, found, more⟩ := h.exists_skipSpace_eq (by decide)
      rw [readSingleEnd, found] at read
      cases read
      exact more
  | cons item members =>
      obtain ⟨behind, found, -⟩ := h.exists_skipSpace_eq (by decide)
      rw [readSingleEnd, found] at read
      cases read

/-- An object that is read as a strategy is read up to its closing brace. -/
theorem leaves_readStrategyObject {members : List (Bytes × List Bytes)}
    (keys : ∀ m ∈ members, IsLiteral m.1) (values : ∀ m ∈ members, IsValue m.2)
    (h : Spaced (separated true (members.map fun m => memberTokens m.1 m.2)
      ++ [Byte.closeBrace] :: ts) s) :
    Leaves ts (readStrategyObject s) := by
  rw [readStrategyObject]
  cases members with
  | nil =>
      obtain ⟨behind, finished, -⟩ := exists_readNextKey_eq_finished true h
      rw [finished]
      exact leaves_error _
  | cons m members =>
      obtain ⟨key, value⟩ := m
      have literal : IsLiteral key := keys (key, value) (List.mem_cons_self ..)
      have value : IsValue value := values (key, value) (List.mem_cons_self ..)
      obtain ⟨inside, next, more⟩ := exists_readNextKey_eq h
      refine leaves_bind fun found eq => ?_
      obtain rfl := Except.ok.inj (next.symm.trans eq)
      refine leaves_bind fun p variant => ?_
      obtain ⟨strategy, behind⟩ := p
      have more := leaves_readVariant literal more strategy behind variant
      obtain ⟨rest, colon, more⟩ := exists_readColon_eq more
      refine leaves_bind fun found eq => ?_
      obtain rfl := Except.ok.inj (colon.symm.trans eq)
      refine leaves_bind fun behind unit => leaves_bind fun behind closed => ?_
      have more := value.spaced_of_readUnit more unit
      exact leaves_ok strategy (spaced_of_readSingleEnd more closed)

/-- Only a string or an object is read as a strategy. -/
theorem leaves_readStrategy_of_ne {b : UInt8} {rest : Bytes} (found : skipSpace s = b :: rest)
    (quote : b ≠ Byte.quote) (brace : b ≠ Byte.openBrace) : Leaves ts (readStrategy s) := by
  simp only [readStrategy, found, if_neg quote, if_neg brace]
  exact leaves_error _

theorem IsValue.leaves_readStrategy {v : List Bytes} (value : IsValue v) (h : Spaced (v ++ ts) s) :
    Leaves ts (readStrategy s) := by
  cases value with
  | null =>
      obtain ⟨rest, found, -⟩ := h.exists_skipSpace_eq (b := Byte.lowerN) (by decide)
      exact leaves_readStrategy_of_ne found (by decide) (by decide)
  | boolean b =>
      cases b
      · obtain ⟨rest, found, -⟩ := h.exists_skipSpace_eq (b := Byte.lowerF) (by decide)
        exact leaves_readStrategy_of_ne found (by decide) (by decide)
      · obtain ⟨rest, found, -⟩ := h.exists_skipSpace_eq (b := Byte.lowerT) (by decide)
        exact leaves_readStrategy_of_ne found (by decide) (by decide)
  | @number literal number =>
      obtain ⟨b, u, rfl, start⟩ := number.exists_eq_cons
      obtain ⟨solid, -, quote, brace⟩ := of_startsNumber start
      obtain ⟨rest, found, -⟩ := h.exists_skipSpace_eq solid
      exact leaves_readStrategy_of_ne found quote brace
  | string literal =>
      obtain ⟨rest, found, more⟩ := h.exists_skipSpace_eq (b := Byte.quote) (by decide)
      rw [List.append_assoc, List.singleton_append] at found
      rw [readStrategy, found]
      exact leaves_readVariant literal more
  | list values =>
      obtain ⟨rest, found, -⟩ := h.exists_skipSpace_eq (b := Byte.openBracket) (by decide)
      exact leaves_readStrategy_of_ne found (by decide) (by decide)
  | object keys values =>
      rw [objectTokens, List.cons_append, List.append_assoc, List.singleton_append] at h
      obtain ⟨rest, found, more⟩ := h.exists_skipSpace_eq (by decide)
      rw [readStrategy, found]
      exact leaves_readStrategyObject keys values more

/-! ### Fields -/

theorem IsValue.leaves_readOptional {β : Type} {read : Bytes → Except ReadError (β × Bytes)}
    {v : List Bytes} (value : IsValue v) (present : ∀ s, Spaced (v ++ ts) s → Leaves ts (read s))
    (h : Spaced (v ++ ts) s) : Leaves ts (readOptional read s) := by
  obtain ⟨b, t, us, rfl, solid, null | other, -⟩ := value.exists_head
  · rw [null] at h
    obtain ⟨rest, found, more⟩ := h.exists_skipSpace_eq (b := Byte.lowerN) (by decide)
    rw [readOptional, found]
    exact leaves_ok none more
  · obtain ⟨rest, found, more⟩ := h.exists_skipSpace_eq solid
    simp only [readOptional, found, if_neg other]
    exact (present _ (.token blank_nil (b :: t) more)).bind_pure some

/-- Whatever value stands in the place of a field, reading it fails or stops behind the value. -/
theorem IsValue.leaves_readField {v : List Bytes} (value : IsValue v) (f : Field)
    (settings : Settings) (h : Spaced (v ++ ts) s) (ends : Delimits ts) :
    Leaves ts (readField f settings s) := by
  have unsigned32 : Leaves ts (readUnsigned32 s) :=
    (value.leaves_readInteger _ _ _ h ends).bind_pure fun n => UInt32.ofNat n.toNat
  have signed32 : Leaves ts (readSigned32 s) :=
    (value.leaves_readInteger _ _ _ h ends).bind_pure Int32.ofInt
  have unsigned64 (expected : Expected) :
      Leaves ts (readOptional (readUnsigned64 expected) s) :=
    value.leaves_readOptional
      (fun s h => (value.leaves_readInteger _ _ _ h ends).bind_pure fun n => UInt64.ofNat n.toNat) h
  have named : Leaves ts (readOptional readStrategy s) :=
    value.leaves_readOptional (fun s h => value.leaves_readStrategy h) h
  cases f with
  | width => exact unsigned32.bind_pure fun width => { settings with width }
  | height => exact unsigned32.bind_pure fun height => { settings with height }
  | minDepth => exact signed32.bind_pure fun minDepth => { settings with minDepth }
  | maxDepth => exact signed32.bind_pure fun maxDepth => { settings with maxDepth }
  | seed => exact (unsigned64 .unsigned64).bind_pure fun seed => { settings with seed }
  | strategy => exact named.bind_pure fun strategy => { settings with strategy }
  | threads => exact (unsigned64 .count).bind_pure fun threads => { settings with threads }

end Values

end Settings

end FormulaArt
