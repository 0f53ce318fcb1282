/-!
# Files

Programs of this library reach files through `MonadFiles`, a handful of operations on texts by
their paths. `Reflex.File.Disk` has an instance that keeps the files in memory; the command line
supplies one that uses the disk of the machine.
-/

namespace Reflex

/-- Why an operation on files fails. -/
inductive FileError where
  | notFound
  | exists
  | notDirectory
  | isDirectory
  | nameTooLong
  /-- A file cannot take the place of what a path names. -/
  | busy
  /-- A path holds a character that no path may hold. -/
  | nulInPath
  /-- The file does not hold a text. -/
  | notText
  | other (message : String)
deriving DecidableEq

/-- The wording of a failure. -/
def FileError.message : FileError → String
  | .notFound => "No such file or directory (os error 2)"
  | .exists => "File exists (os error 17)"
  | .notDirectory => "Not a directory (os error 20)"
  | .isDirectory => "Is a directory (os error 21)"
  | .nameTooLong => "File name too long (os error 36)"
  | .busy => "Device or resource busy (os error 16)"
  | .nulInPath => "file name contained an unexpected NUL byte"
  | .notText => "stream did not contain valid UTF-8"
  | .other message => message

/-- Operations on files. -/
class MonadFiles (m : Type → Type) where
  /-- The path of the working directory. -/
  workingDirectory : m String
  /-- Whether there is a file or a directory. -/
  pathExists : String → m Bool
  /-- The text of a file. -/
  readText : String → m (Except FileError String)
  /-- Makes a file with a text, in place of one that is there. -/
  writeText : String → String → m (Except FileError Unit)
  /-- Gives a file another path, in place of a file that is there. -/
  rename : String → String → m (Except FileError Unit)
  /-- Makes a directory, and the directories above it. -/
  makeDirectories : String → m (Except FileError Unit)
  /-- The names of what is in a directory, in order. -/
  listDirectory : String → m (Except FileError (List String))

end Reflex
