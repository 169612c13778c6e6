/-!
# Paths

A path is a text of names between slashes. Empty names and single dots change nothing, except that a
slash at the start stands for the root and a dot at the start for the place where the program runs.

## Main definitions

* `Path.pieces` — what stands between the slashes
* `Path.split` — where a path starts, and its names
* `Path.parent?` — the path without its last name
* `Path.ancestors` — a path and those above it, the longest first
-/

namespace FormulaArt

namespace Path

/-- Where a path starts. -/
inductive Anchor where
  /-- At the first name. -/
  | plain
  /-- At the root. -/
  | root
  /-- At a dot. -/
  | dot
deriving Repr, DecidableEq

/-- The greatest number of bytes of a name. -/
def nameLimit : Nat :=
  255

/-- The greatest number of bytes of a whole path. -/
def limit : Nat :=
  4095

/-- Cut characters at the slashes: what stands in front of the first slash, and the pieces behind. -/
def cut : List Char → List Char × List (List Char)
  | [] => ([], [])
  | c :: cs =>
    let (piece, pieces) := cut cs
    if c = '/' then ([], piece :: pieces) else (c :: piece, pieces)

/-- The pieces of a path between its slashes. -/
def pieces (path : String) : List String :=
  let (piece, pieces) := cut path.toList
  (piece :: pieces).map String.ofList

/-- Whether a name changes nothing. -/
def isSkipped (name : String) : Bool :=
  name == "" || name == "."

/-- The start of a path and the names after it. -/
def split (path : String) : Anchor × List String :=
  match pieces path with
  | [""] => (.plain, [])
  | "" :: names => (.root, names)
  | "." :: names => (.dot, names)
  | names => (.plain, names)

/-- The path of a start and names. -/
def join (anchor : Anchor) (names : List String) : String :=
  match anchor with
  | .plain => String.intercalate "/" names
  | .dot => String.intercalate "/" ("." :: names)
  | .root => "/" ++ String.intercalate "/" names

/-- Names without those at the end that change nothing. -/
def trim (names : List String) : List String :=
  (names.reverse.dropWhile isSkipped).reverse

/-- The path without its last name, if it has a name. -/
def parent? (path : String) : Option String :=
  let (anchor, names) := split path
  let names := trim names
  if names.isEmpty then
    if anchor = .dot then some "" else none
  else
    some (join anchor (trim names.dropLast))

/-- A path and those above it, the longest first, without the root and the empty path. -/
def ancestors (path : String) : List String :=
  let (anchor, names) := split path
  let ends := (List.range names.length).filter fun n => !isSkipped (names.getD n "")
  let above := ends.reverse.map fun n => join anchor (names.take (n + 1))
  if anchor = .dot then above ++ ["."] else above

end Path

end FormulaArt
