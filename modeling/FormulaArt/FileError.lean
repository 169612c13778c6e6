/-!
# What the file system refuses

The reasons for which opening, creating or writing a file fails, with their numbers and texts.
-/

namespace FormulaArt

/-- Why the file system refused an operation. -/
inductive FileError where
  | notFound
  | alreadyExists
  | notDirectory
  | isDirectory
  | nameTooLong
  /-- The path holds a null character, so it is not even passed on to the system. -/
  | nullInPath
  /-- Any other reason, by its number and text. -/
  | other (code : UInt32) (text : String)
deriving Repr, DecidableEq

namespace FileError

/-- The number that the system gives the reason. -/
def code? : FileError → Option UInt32
  | notFound => some 2
  | alreadyExists => some 17
  | notDirectory => some 20
  | isDirectory => some 21
  | nameTooLong => some 36
  | nullInPath => none
  | other code _ => some code

/-- The reason in words, without its number. -/
def text : FileError → String
  | notFound => "No such file or directory"
  | alreadyExists => "File exists"
  | notDirectory => "Not a directory"
  | isDirectory => "Is a directory"
  | nameTooLong => "File name too long"
  | nullInPath => "file name contained an unexpected NUL byte"
  | other _ text => text

/-- The reason in words and, if it has one, by number. -/
def message (e : FileError) : String :=
  match e.code? with
  | some code => e.text ++ " (os error " ++ toString code ++ ")"
  | none => e.text

end FileError

end FormulaArt
