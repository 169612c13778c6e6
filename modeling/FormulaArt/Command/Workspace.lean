import FormulaArt.Command.Path
import FormulaArt.FileError
import FormulaArt.Frame
import FormulaArt.Settings.Byte

/-!
# Workspaces

What a command can do to the world around it: read files, make directories, save pictures, print
lines and look at the clock. Commands are written over any monad that offers this, so they run on the
file system of the machine as well as on a model of it.

## Main definitions

* `Workspace` — the operations
* `makeDirectories` — make a directory and those above it that are missing
-/

namespace FormulaArt

namespace Command

/-- What comes of reading a file. -/
inductive ReadOutcome where
  | unopened (cause : FileError)
  /-- The file can be opened and not read. -/
  | unread (cause : FileError)
  | content (bytes : Settings.Bytes)
deriving Repr, DecidableEq

/-- What a command can do to the world around it. -/
class Workspace (m : Type → Type) where
  read (path : String) : m ReadOutcome
  makeDirectory (path : String) : m (Except FileError Unit)
  /-- Whether a path is that of a directory. -/
  isDirectory (path : String) : m Bool
  /-- Save an image as a PNG file, in place of a file that is there. -/
  save (path : String) (image : Image) : m (Except FileError Unit)
  print (text : String) : m Unit
  report (text : String) : m Unit
  /-- The nanoseconds since some moment long ago. -/
  now : m UInt64

/-- A computation that may fail reaches the world of the computation underneath. -/
instance {ε : Type} {m : Type → Type} [Monad m] [Workspace m] : Workspace (ExceptT ε m) where
  read path := ExceptT.lift (Workspace.read path)
  makeDirectory path := ExceptT.lift (Workspace.makeDirectory path)
  isDirectory path := ExceptT.lift (Workspace.isDirectory path)
  save path image := ExceptT.lift (Workspace.save path image)
  print text := ExceptT.lift (Workspace.print text)
  report text := ExceptT.lift (Workspace.report text)
  now := ExceptT.lift Workspace.now

section MakeDirectories

variable {m : Type → Type} [Monad m] [Workspace m]

/-- Make one directory, or find that it is there already. -/
def ensureDirectory (path : String) : m (Except FileError Unit) := do
  match ← Workspace.makeDirectory path with
  | .error .alreadyExists =>
    if ← Workspace.isDirectory path then return .ok () else return .error .alreadyExists
  | outcome => return outcome

/-- Make the first directory of a list that can be made or is there already. The answer lists those
before it, in reverse order. -/
def makeFirst : List String → List String → m (Except FileError (List String))
  | [], missing => return .ok missing
  | path :: paths, missing => do
    match ← ensureDirectory path with
    | .ok () => return .ok missing
    | .error .notFound => makeFirst paths (path :: missing)
    | .error e => return .error e

/-- Make all directories of a list in order. -/
def makeEach : List String → m (Except FileError Unit)
  | [] => return .ok ()
  | path :: paths => do
    match ← ensureDirectory path with
    | .ok () => makeEach paths
    | .error e => return .error e

/-- Make a directory and those above it that are missing. -/
def makeDirectories (path : String) : m (Except FileError Unit) := do
  match ← makeFirst (Path.ancestors path) [] with
  | .ok missing => makeEach missing
  | .error e => return .error e

end MakeDirectories

end Command

end FormulaArt
