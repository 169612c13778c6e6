import FormulaArt.Text.Visible

/-!
# Quoted text

A string in double quotes in which every character can be seen: quotes, backslashes and the common
controls have short escapes, and what has no visible form of its own is written by its code point.

## Main definitions

* `Text.escape` — one character inside quotes
* `Text.quoted` — a string in quotes
-/

namespace FormulaArt

namespace Text

/-- One character inside quotes. -/
def escape (c : Char) : String :=
  match c with
  | '\x00' => "\\0"
  | '\t' => "\\t"
  | '\n' => "\\n"
  | '\r' => "\\r"
  | '"' => "\\\""
  | '\\' => "\\\\"
  | c =>
    if extendsGrapheme c || isInvisible c then
      "\\u\x7b" ++ String.ofList (Nat.toDigits 16 c.toNat) ++ "\x7d"
    else
      String.singleton c

/-- A string in double quotes. -/
def quoted (s : String) : String :=
  "\"" ++ String.join (s.toList.map escape) ++ "\""

end Text

end FormulaArt
