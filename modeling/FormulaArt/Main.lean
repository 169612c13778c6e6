import FormulaArt.Command.Run
import FormulaArt.Image.Png

/-!
# The program

The command line on the file system of the machine. All decisions are those of
`FormulaArt.Command.run`; this module only reaches files, the standard streams and the clock.
-/

namespace FormulaArt

namespace Command

/-- The reason that a failed file operation gives. -/
def FileError.ofSystem (e : IO.Error) : FileError :=
  match e with
  | .noFileOrDirectory .. => .notFound
  | .alreadyExists .. => .alreadyExists
  | .inappropriateType _ 20 _ => .notDirectory
  | .inappropriateType _ 21 _ => .isDirectory
  | .inappropriateType _ code details
  | .permissionDenied _ code details
  | .resourceExhausted _ code details
  | .invalidArgument _ code details
  | .otherError code details => .other code details
  | e => .other 0 (toString e)

/-- Perform a file operation, and give the reason if it fails. -/
def attempt {β : Type} (action : IO β) : IO (Except FileError β) := do
  match ← action.toBaseIO with
  | .ok v => return .ok v
  | .error e => return .error (FileError.ofSystem e)

instance : Workspace IO where
  read path := do
    match ← attempt (IO.FS.readBinFile path) with
    | .ok bytes => return .content bytes.data.toList
    | .error .isDirectory => return .unread .isDirectory
    | .error e => return .unopened e
  makeDirectory path := attempt (IO.FS.createDir path)
  isDirectory path := do
    match ← (IO.FS.realPath path).toBaseIO with
    | .ok found => found.isDir
    | .error _ => return false
  save path image := attempt (IO.FS.writeBinFile path (Png.encode image))
  print text := do
    let out ← IO.getStdout
    out.putStr text
    out.flush
  report text := IO.eprint text
  now := return UInt64.ofNat (← IO.monoNanosNow)

end Command

end FormulaArt

open FormulaArt in
/-- Run the command line with two workers, which evaluate one channel after the other and so need no pool
of threads that could fail to start. -/
def main (words : List String) : IO UInt32 :=
  Command.run { workers := 2, schedule := [] } words
