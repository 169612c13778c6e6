import FormulaArt.Settings
import FormulaArt.Settings.Field

/-!
# Writing settings

Settings as one line: an object with all seven fields in the order of their declaration, without
blanks, and `null` for what is not set.

## Main definitions

* `Settings.write` — the characters
* `Settings.toJson` — the line
-/

namespace FormulaArt

namespace Settings

/-- The digits of a natural number. -/
def writeNat (n : Nat) : List Char :=
  Nat.toDigits 10 n

/-- An integer, with a minus sign if it is negative. -/
def writeInt (n : Int) : List Char :=
  if n < 0 then '-' :: writeNat n.natAbs else writeNat n.natAbs

/-- A value that may be absent. -/
def writeOptional {β : Type} (write : β → List Char) : Option β → List Char
  | none => "null".toList
  | some v => write v

/-- Characters in double quotes. -/
def writeName (name : String) : List Char :=
  '"' :: (name.toList ++ ['"'])

/-- The value of a field. -/
def writeField (s : Settings) : Field → List Char
  | .width => writeNat s.width.toNat
  | .height => writeNat s.height.toNat
  | .minDepth => writeInt s.minDepth.toInt
  | .maxDepth => writeInt s.maxDepth.toInt
  | .seed => writeOptional (fun n => writeNat n.toNat) s.seed
  | .strategy => writeOptional (fun v => writeName v.name) s.strategy
  | .threads => writeOptional (fun n => writeNat n.toNat) s.threads

/-- A field with its name. -/
def writeMember (s : Settings) (f : Field) : List Char :=
  writeName f.name ++ ':' :: s.writeField f

/-- The characters of the line. -/
def write (s : Settings) : List Char :=
  '\x7b' :: ((Field.all.map s.writeMember).intersperse [',']).flatten ++ ['\x7d']

/-- Settings as one line. -/
def toJson (s : Settings) : String :=
  String.ofList s.write

end Settings

end FormulaArt
