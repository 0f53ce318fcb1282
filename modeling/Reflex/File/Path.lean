import Reflex.Text.Blank

/-!
# File paths

A file path is a text whose parts are separated by slashes. Empty parts and parts that are a single
dot change nothing, the first of a path aside.

* `FilePath.join` puts two paths together.
* `FilePath.parent?` and `FilePath.fileName?` take the last part off a path, and
  `FilePath.ancestors` takes off one part after the other.
* `FilePath.extension?` and `FilePath.withExtension` read and change what follows the last dot of
  the file name.
-/

namespace Reflex.FilePath

/-- Whether a path begins at the root. -/
def isAbsolute (path : String) : Bool :=
  path.toList.head? == some '/'

/-- The second path seen from the first; an absolute one stands for itself. -/
def join (path more : String) : String :=
  if isAbsolute more || path.isEmpty then more
  else if path.toList.getLast? == some '/' then path ++ more
  else path ++ "/" ++ more

/-- The reverse of a path without the slashes and single dots that its last part is followed by. -/
def trimReversed : List Char → List Char
  | '/' :: cs => trimReversed cs
  | '.' :: '/' :: cs => trimReversed cs
  | cs => cs

/-- A path split before its last part, both given in order. -/
def splitLast (path : String) : List Char × List Char :=
  let cs := trimReversed path.toList.reverse
  ((cs.dropWhile (· ≠ '/')).reverse, (cs.takeWhile (· ≠ '/')).reverse)

/-- The last part of a path, if it is the name of a file. -/
def fileName? (path : String) : Option String :=
  let (_, name) := splitLast path
  if name.isEmpty || name = ['.'] || name = ['.', '.'] then none else some (String.ofList name)

/-- The path without its last part, unless it has none. -/
def parent? (path : String) : Option String :=
  let (before, name) := splitLast path
  if name.isEmpty then none
  else
    let trimmed := (trimReversed before.reverse).reverse
    some (String.ofList (if trimmed.isEmpty && !before.isEmpty then ['/'] else trimmed))

/-- The directory of a path: its parent, or the working directory. -/
def directory (path : String) : String :=
  match parent? path with
  | some "" => "."
  | some parent => parent
  | none => "."

/-- At most `n` paths: the path, its parent and so on, as long as there is a part to take off. -/
def ancestorsUpTo : Nat → String → List String
  | 0, _ => []
  | n + 1, path =>
    match parent? path with
    | none => []
    | some parent => path :: ancestorsUpTo n parent

/-- The path, its parent, the parent of that and so on. Neither the empty path nor the root is
among them. -/
def ancestors (path : String) : List String :=
  ancestorsUpTo path.length path

/-- A file name split at its last dot, unless that is its first character. -/
def splitName (name : List Char) : List Char × Option (List Char) :=
  let extension := (name.reverse.takeWhile (· ≠ '.')).reverse
  let stem := name.take (name.length - extension.length - 1)
  if name.contains '.' && !stem.isEmpty then (stem, some extension) else (name, none)

/-- What follows the last dot of the file name. -/
def extension? (path : String) : Option String := do
  let name ← fileName? path
  let extension ← (splitName name.toList).2
  return String.ofList extension

/-- The path with another extension. The old one is taken off first, up to the dot, and a path that
does not end in the name of a file gets none: so `..x` becomes `..`. -/
def withExtension (path extension : String) : String :=
  match fileName? path with
  | none => path
  | some name =>
    let (before, _) := splitLast path
    let (stem, old) := splitName name.toList
    if stem = ['.'] && old.isSome && path.toList == before ++ name.toList then
      String.ofList before ++ ".."
    else String.ofList (before ++ stem) ++ "." ++ extension

end Reflex.FilePath
