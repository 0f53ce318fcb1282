import Reflex.File.Replace

/-!
# Stored documents

Documents are kept as files in one directory, a file for each key.

* `Storage.path` is the file of a key; some keys are refused, so that no file lies outside the
  directory.
* `Storage.read` and `Storage.write` read and replace the text of a key.
-/

namespace Reflex

/-- The directory of stored documents. -/
structure Storage where
  dir : String

namespace Storage

variable {m : Type → Type} [Monad m] [MonadFiles m]

/-- Whether a key can be part of a file name. -/
def isKey (key : String) : Bool :=
  !(key.isEmpty || key.toList.any isPathSeparator || key = "." || key = "..")

/-- The file of a key. -/
def path (storage : Storage) (key : String) : Attempt m String :=
  if isKey key then return FilePath.join storage.dir (key ++ ".json")
  else throw (.ofCause (.storageKey key))

/-- The text that is stored under a key; none if nothing was ever written. -/
def read (storage : Storage) (key : String) : Attempt m (Option String) := do
  let path ← storage.path key
  match ← (MonadFiles.readText path : m (Except FileError String)) with
  | .ok text => return some text
  | .error .notFound => return none
  | .error e => Attempt.within ("read " ++ path) (throw (.ofCause (.file e)))

/-- Stores a text under a key. -/
def write (storage : Storage) (key text : String) : Attempt m Unit := do
  let path ← storage.path key
  replaceFile "state" storage.dir path "json" text

end Storage

end Reflex
