/-!
# Files

What an agent sees of the file system: the text of a file, or why it has none.
-/

namespace Dunning

/-- Why a file has no text. -/
inductive FileError where
  | notFound
  | notDirectory
  | isDirectory
  | nameTooLong
  | nameHasNull
  | notText
deriving DecidableEq, Repr

namespace FileError

/-- The wording of a `FileError`. -/
def message : FileError → String
  | notFound => "No such file or directory (os error 2)"
  | notDirectory => "Not a directory (os error 20)"
  | isDirectory => "Is a directory (os error 21)"
  | nameTooLong => "File name too long (os error 36)"
  | nameHasNull => "file name contained an unexpected NUL byte"
  | notText => "stream did not contain valid UTF-8"

/-- Whether there is something at the path all the same: `isDirectory` and `notText`. -/
def isPresent : FileError → Bool
  | notFound | notDirectory | nameTooLong | nameHasNull => false
  | isDirectory | notText => true

end FileError

/-- The text at each path. -/
abbrev Files := String → Except FileError String

end Dunning
