import FormulaArt.Command.Workspace
import FormulaArt.Image.Png

/-!
# A model of the file system

Files and directories below one root, in one of which the program runs. It answers every operation of
a workspace and is a value, so that what a command leaves behind can be looked at.

## Main definitions

* `Folder` — the directories and files below the root
* `Folder.locate` — what a path leads to
* `Desk` — a folder, what has been printed, and a clock

## Design notes

A picture is kept as an image and not as the bytes of its file: what a file holds is then there to be
compared, and reading it as bytes encodes it. A clock may show anything, so it is a function from the
number of earlier looks at it to the time that it shows.
-/

namespace FormulaArt

namespace Command

/-- What stands at a place of a folder. -/
inductive Entry where
  | directory
  | bytes (content : Settings.Bytes)
  | picture (image : Image)
deriving Repr, DecidableEq

/-- The way from the root to a place: the names in reverse order. -/
abbrev Place := List String

/-- The directories and files below a root, which is always there. -/
structure Folder where
  /-- What stands at the places other than the root. -/
  entries : List (Place × Entry) := []
  /-- The directory where the program runs. -/
  here : Place := []
deriving Repr, DecidableEq

namespace Folder

/-- What stands at a place, if anything does. -/
def entryAt? (folder : Folder) : Place → Option Entry
  | [] => some .directory
  | place => folder.entries.lookup place

/-- Put an entry at a place, instead of what is there. -/
def put (folder : Folder) (place : Place) (entry : Entry) : Folder where
  entries := (place, entry) :: folder.entries.filter fun e => e.1 != place
  here := folder.here

/-- Nothing but the directories that lead to the place where the program runs. -/
def bare (names : List String) : Folder where
  entries := (List.range names.length).map fun n => ((names.take (n + 1)).reverse, .directory)
  here := names.reverse

/-- What the names of a path lead to. -/
inductive Target where
  | present (place : Place) (entry : Entry)
  | absent (place : Place)
deriving Repr, DecidableEq

/-- Follow names from a directory. Every name but the last has to lead to a directory. -/
def follow (folder : Folder) : Place → List String → Except FileError Target
  | place, [] => .ok (.present place .directory)
  | place, name :: names =>
    if Path.isSkipped name then folder.follow place names
    else if name = ".." then folder.follow place.tail names
    else if Path.nameLimit < name.utf8ByteSize then .error .nameTooLong
    else
      match folder.entryAt? (name :: place) with
      | some .directory => folder.follow (name :: place) names
      | some entry => if names.isEmpty then .ok (.present (name :: place) entry) else .error .notDirectory
      | none => if names.isEmpty then .ok (.absent (name :: place)) else .error .notFound

/-- The directory at which a path starts, and its names. The empty path starts nowhere. -/
def start (folder : Folder) (path : String) : Except FileError (Place × List String) :=
  if '\x00' ∈ path.toList then .error .nullInPath
  else if path.isEmpty then .error .notFound
  else if Path.limit < path.utf8ByteSize then .error .nameTooLong
  else
    match Path.pieces path with
    | "" :: names => .ok ([], names)
    | names => .ok (folder.here, names)

/-- What a path leads to. -/
def locate (folder : Folder) (path : String) : Except FileError Target := do
  let (place, names) ← folder.start path
  folder.follow place names

/-- Read a file. A directory can be opened and not read. -/
def read (folder : Folder) (path : String) : ReadOutcome :=
  match folder.locate path with
  | .error e => .unopened e
  | .ok (.absent _) => .unopened .notFound
  | .ok (.present _ .directory) => .unread .isDirectory
  | .ok (.present _ (.bytes content)) => .content content
  | .ok (.present _ (.picture image)) => .content (Png.encode image).data.toList

/-- Make a directory where nothing is. -/
def makeDirectory (folder : Folder) (path : String) : Except FileError Folder :=
  match folder.locate path with
  | .error e => .error e
  | .ok (.absent place) => .ok (folder.put place .directory)
  | .ok (.present ..) => .error .alreadyExists

/-- Whether a path leads to a directory. -/
def isDirectory (folder : Folder) (path : String) : Bool :=
  match folder.locate path with
  | .ok (.present _ .directory) => true
  | _ => false

/-- Save an image. A path that ends in a slash is that of a directory, whatever is there. -/
def save (folder : Folder) (path : String) (image : Image) : Except FileError Folder := do
  let (place, names) ← folder.start path
  let trimmed := (names.reverse.dropWhile (· == "")).reverse
  if trimmed.length < names.length then
    let _ ← folder.follow place (trimmed.dropLast ++ ["."])
    throw .isDirectory
  else
    match ← folder.follow place names with
    | .present _ .directory => throw .isDirectory
    | .present place _ | .absent place => return folder.put place (.picture image)

/-- The picture that a path leads to, if it leads to one. -/
def picture? (folder : Folder) (path : String) : Option Image :=
  match folder.locate path with
  | .ok (.present _ (.picture image)) => some image
  | _ => none

end Folder

/-- A model of the world around a command. -/
structure Desk where
  folder : Folder := {}
  printed : String := ""
  reported : String := ""
  /-- The time that the clock shows after so many looks at it. -/
  clock : Nat → UInt64 := fun _ => 0
  /-- The number of looks at the clock so far. -/
  looks : Nat := 0

namespace Desk

/-- Change the files, unless that is refused. -/
def change (f : Folder → Except FileError Folder) : StateM Desk (Except FileError Unit) :=
  fun desk =>
    match f desk.folder with
    | .ok folder => (.ok (), { desk with folder })
    | .error e => (.error e, desk)

instance : Workspace (StateM Desk) where
  read path := fun desk => (desk.folder.read path, desk)
  makeDirectory path := change fun folder => folder.makeDirectory path
  isDirectory path := fun desk => (desk.folder.isDirectory path, desk)
  save path image := change fun folder => folder.save path image
  print text := fun desk => ((), { desk with printed := desk.printed ++ text })
  report text := fun desk => ((), { desk with reported := desk.reported ++ text })
  now := fun desk => (desk.clock desk.looks, { desk with looks := desk.looks + 1 })

end Desk

end Command

end FormulaArt
