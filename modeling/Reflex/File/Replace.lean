import Reflex.Failure
import Reflex.File.Path

/-!
# Replacing a file as a whole

A file is replaced in one step: its new text is written to a temporary file beside it, which then
takes its place. Whatever fails before that leaves the file as it was.
-/

namespace Reflex

variable {m : Type → Type} [Monad m] [MonadFiles m]

/-- The path of the temporary file that stands in for a file. -/
def temporaryPath (path extension : String) : String :=
  FilePath.withExtension path (extension ++ ".tmp")

/-- Replaces a file in a directory, which is made if it is not there. The name of what is written
appears in failures. -/
def replaceFile (what dir path extension text : String) : Attempt m Unit := do
  let temporary := temporaryPath path extension
  Attempt.file ("create directory " ++ dir) (MonadFiles.makeDirectories dir)
  Attempt.file ("write temp " ++ what ++ " " ++ temporary) (MonadFiles.writeText temporary text)
  Attempt.file ("replace " ++ what ++ " " ++ path) (MonadFiles.rename temporary path)

end Reflex
