import FormulaArt.Settings.Byte

/-!
# String literals

The bytes between two quotes, with escapes undone. Characters beyond the basic plane are escaped as
pairs of surrogates. Whether the bytes are characters at all is asked when the closing quote is
reached, so that every other fault in the literal comes first.

## Main definitions

* `unescape` — the bytes of an escape whose backslash has been read
* `stringBytes` — the bytes up to the closing quote
* `readString` — the string
-/

namespace FormulaArt

namespace Settings

/-- The one-letter escapes: the letter and the byte that it stands for. -/
def simpleEscapes : List (UInt8 × UInt8) := [
  (0x22, 0x22), (0x5C, 0x5C), (0x2F, 0x2F), (0x62, 0x08), (0x66, 0x0C), (0x6E, 0x0A),
  (0x72, 0x0D), (0x74, 0x09)]

/-- Read the four hexadecimal digits of a code unit. -/
def readCodeUnit (s : Bytes) : Except ReadError (Nat × Bytes) :=
  match s with
  | a :: b :: c :: d :: rest =>
    match Byte.hexDigit? a, Byte.hexDigit? b, Byte.hexDigit? c, Byte.hexDigit? d with
    | some a, some b, some c, some d => .ok (((a * 16 + b) * 16 + c) * 16 + d, rest)
    | _, _, _, _ => .error .invalidEscape
  | _ => .error .endInString

/-- The bytes of the character of a code point. -/
def encodePoint (n : Nat) : Bytes :=
  String.utf8EncodeChar (Char.ofNat n)

/-- Whether a code unit is the first half of a surrogate pair. -/
def isLeading (n : Nat) : Bool :=
  0xD800 ≤ n && n ≤ 0xDBFF

/-- Whether a code unit is the second half of a surrogate pair. -/
def isTrailing (n : Nat) : Bool :=
  0xDC00 ≤ n && n ≤ 0xDFFF

/-- Read the second half of a surrogate pair, with its backslash and letter. -/
def readTrailing (leading : Nat) (s : Bytes) : Except ReadError (Bytes × Bytes) :=
  match s with
  | [] => .error .endInString
  | [b] => if b = Byte.backslash then .error .endInString else .error .unfinishedPair
  | b :: c :: rest =>
    if b = Byte.backslash ∧ c = Byte.lowerU then do
      let (trailing, rest) ← readCodeUnit rest
      if isTrailing trailing then
        return (encodePoint (0x10000 + (leading - 0xD800) * 0x400 + (trailing - 0xDC00)), rest)
      else
        throw .loneSurrogate
    else
      .error .unfinishedPair

/-- Read an escape by code unit, or by a pair of code units, whose letter has been read. -/
def readPoint (s : Bytes) : Except ReadError (Bytes × Bytes) := do
  let (n, rest) ← readCodeUnit s
  if isTrailing n then
    throw .loneSurrogate
  else if isLeading n then
    readTrailing n rest
  else
    return (encodePoint n, rest)

/-- Read an escape whose backslash has been read. -/
def unescape (s : Bytes) : Except ReadError (Bytes × Bytes) :=
  match s with
  | [] => .error .endInString
  | b :: rest =>
    if b = Byte.lowerU then readPoint rest
    else
      match simpleEscapes.lookup b with
      | some c => .ok ([c], rest)
      | none => .error .invalidEscape

theorem length_of_readCodeUnit {s rest : Bytes} {n : Nat} (h : readCodeUnit s = .ok (n, rest)) :
    rest.length < s.length := by
  unfold readCodeUnit at h
  split at h
  · split at h
    · cases h
      simp only [List.length_cons]
      omega
    · cases h
  · cases h

theorem length_of_readTrailing {leading : Nat} {s bytes rest : Bytes}
    (h : readTrailing leading s = .ok (bytes, rest)) : rest.length < s.length := by
  unfold readTrailing at h
  split at h
  · cases h
  · split at h <;> cases h
  · rename_i tail
    split at h
    · cases hu : readCodeUnit tail with
      | error e => simp [hu, bind, Except.bind] at h
      | ok p =>
        obtain ⟨n, r⟩ := p
        have := length_of_readCodeUnit hu
        simp only [hu, bind, Except.bind] at h
        split at h
        · simp only [pure, Except.pure, Except.ok.injEq, Prod.mk.injEq] at h
          obtain ⟨-, rfl⟩ := h
          simp only [List.length_cons]
          omega
        · cases h
    · cases h

theorem length_of_readPoint {s bytes rest : Bytes} (h : readPoint s = .ok (bytes, rest)) :
    rest.length < s.length := by
  unfold readPoint at h
  cases hu : readCodeUnit s with
  | error e => simp [hu, bind, Except.bind] at h
  | ok p =>
    obtain ⟨n, r⟩ := p
    have := length_of_readCodeUnit hu
    simp only [hu, bind, Except.bind] at h
    split at h
    · cases h
    · split at h
      · have := length_of_readTrailing h
        omega
      · cases h
        omega

theorem length_of_unescape {s bytes rest : Bytes} (h : unescape s = .ok (bytes, rest)) :
    rest.length < s.length := by
  unfold unescape at h
  split at h
  · cases h
  · split at h
    · have := length_of_readPoint h
      simp only [List.length_cons]
      omega
    · split at h
      · cases h
        simp
      · cases h

/-- The bytes of a string up to its closing quote, and what follows the quote. -/
def stringBytes (s : Bytes) : Except ReadError (Bytes × Bytes) :=
  match s with
  | [] => .error .endInString
  | b :: rest =>
    if b = Byte.quote then .ok ([], rest)
    else if b = Byte.backslash then
      match _h : unescape rest with
      | .error e => .error e
      | .ok (bytes, rest) => do
        let (more, rest) ← stringBytes rest
        return (bytes ++ more, rest)
    else if b < 0x20 then .error .controlCharacter
    else do
      let (more, rest) ← stringBytes rest
      return (b :: more, rest)
termination_by s.length
decreasing_by
  · have := length_of_unescape _h
    simp only [List.length_cons]
    omega
  · simp

/-- Read a string whose opening quote has been read. -/
def readString (s : Bytes) : Except ReadError (String × Bytes) := do
  let (bytes, rest) ← stringBytes s
  match String.fromUTF8? (ByteArray.mk bytes.toArray) with
  | some text => return (text, rest)
  | none => throw .invalidCodePoint

end Settings

end FormulaArt
