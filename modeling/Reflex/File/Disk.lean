import Reflex.File.Basic
import Reflex.File.Path
import Reflex.Ordered

/-!
# Files in memory

A `Disk` is a working directory with the files and directories below it. Paths are followed part by
part, so that `..` leads out of a directory only if the directory is there.

* `Disk.locate` follows a path to its end, and `Disk.destination` up to its last name, under which
  something is to be put.
* `Disk.readText`, `Disk.writeText`, `Disk.rename`, `Disk.makeDirectories` and `Disk.listDirectory`
  are the operations on files.
* `Disk.files` lists the files with their texts.
-/

namespace Reflex

/-- A place: the names on the way to it from the working directory. A place that is not below the
working directory begins with `..` for each directory that is left, or with `/`, which is the root
of all directories. -/
abbrev Location := List String

/-- What is at a place. -/
inductive DiskNode where
  | directory
  | file (text : String)
deriving DecidableEq

/-- A working directory and what is below it. -/
structure Disk where
  /-- The path of the working directory. -/
  root : String
  nodes : List (Location × DiskNode)

/-- Where something is to be put: a directory that is there and a name in it. -/
structure Disk.Destination where
  directory : Location
  name : String
  /-- Whether slashes follow the name, so that it can only be the name of a directory. -/
  isDirectory : Bool

namespace Disk

/-- A disk without files. -/
def empty (root : String) : Disk := ⟨root, []⟩

/-- Whether a place is the working directory or a directory above it. -/
def isAtOrAbove (place : Location) : Bool :=
  place == ["/"] || place.all (· == "..")

/-- What is at a place. The working directory and those above it are always there. -/
def node? (disk : Disk) (place : Location) : Option DiskNode :=
  if isAtOrAbove place then some .directory else disk.nodes.lookup place

/-- Puts something at a place. -/
def put (disk : Disk) (place : Location) (node : DiskNode) : Disk :=
  { disk with nodes := (place, node) :: disk.nodes.filter (·.1 ≠ place) }

/-- Takes away what is at a place. -/
def erase (disk : Disk) (place : Location) : Disk :=
  { disk with nodes := disk.nodes.filter (·.1 ≠ place) }

/-- How many bytes a name may have. -/
def maxNameBytes : Nat := 255

/-- How many bytes a path may have. -/
def maxPathBytes : Nat := 4095

/-- The directory above a place; above the root there is none but itself. -/
def above (place : Location) : Location :=
  if place == ["/"] then place
  else if isAtOrAbove place then place ++ [".."]
  else place.dropLast

/-- Goes one part further from a directory. -/
def step (disk : Disk) (place : Location) (part : String) : Except FileError Location :=
  match disk.node? place with
  | none => .error .notFound
  | some (.file _) => .error .notDirectory
  | some .directory =>
    if part.isEmpty || part = "." then .ok place
    else if part = ".." then .ok (above place)
    else if part.utf8ByteSize > maxNameBytes then .error .nameTooLong
    else .ok (place ++ [part])

/-- The place where a path starts and its parts from there on. -/
def start (disk : Disk) (path : String) : Location × List String :=
  let split := fun cs => (cs.splitOn '/').map String.ofList
  let cs := path.toList
  let below := cs.drop disk.root.length
  if disk.root.toList.isPrefixOf cs && (below.isEmpty || below.head? == some '/') then
    ([], split below)
  else (if FilePath.isAbsolute path then ["/"] else [], split cs)

/-- Refuses a path that can lead nowhere. -/
def checkPath (path : String) : Except FileError Unit :=
  if path.toList.contains '\x00' then .error .nulInPath
  else if path.isEmpty then .error .notFound
  else if path.utf8ByteSize > maxPathBytes then .error .nameTooLong
  else .ok ()

/-- Follows a path. There need not be anything at its end. -/
def locate (disk : Disk) (path : String) : Except FileError Location := do
  checkPath path
  let (place, parts) := disk.start path
  parts.foldlM disk.step place

/-- The directory and the name that a path ends in. Nothing is given for a path that ends in `.` or
`..` or holds no name at all. -/
def destination (disk : Disk) (path : String) : Except FileError (Option Destination) := do
  checkPath path
  let (place, parts) := disk.start path
  let names := parts.filter (!·.isEmpty)
  let directory ← names.dropLast.foldlM disk.step place
  -- A step to the directory itself, which fails unless the directory is there.
  let directory ← disk.step directory "."
  match names.getLast? with
  | some name =>
    if name = "." || name = ".." then return none
    else return some ⟨directory, name, path.toList.getLast? == some '/'⟩
  | none => return none

/-- The place of a destination. -/
def place (disk : Disk) (d : Destination) : Except FileError Location :=
  disk.step d.directory d.name

/-- What a path leads to. -/
def at? (disk : Disk) (path : String) : Except FileError (Location × DiskNode) := do
  let place ← disk.locate path
  match disk.node? place with
  | some node => .ok (place, node)
  | none => .error .notFound

/-- Whether a path leads to something. -/
def pathExists (disk : Disk) (path : String) : Bool :=
  (disk.at? path).toOption.isSome

/-- Whether a path leads to a directory. -/
def isDirectory (disk : Disk) (path : String) : Bool :=
  ((disk.at? path).toOption.map (·.2)) == some .directory

/-- The text of the file that a path leads to. -/
def readText (disk : Disk) (path : String) : Except FileError String := do
  match ← disk.at? path with
  | (_, .file text) => .ok text
  | (_, .directory) => .error .isDirectory

/-- Makes a file with a text. -/
def writeText (disk : Disk) (path text : String) : Except FileError Disk := do
  match ← disk.destination path with
  | none => .error .isDirectory
  | some d =>
    if d.isDirectory then .error .isDirectory
    else
      let place ← disk.place d
      if disk.node? place = some .directory then .error .isDirectory
      else return disk.put place (.file text)

/-- Gives a file another path. -/
def rename (disk : Disk) (source target : String) : Except FileError Disk := do
  match ← disk.destination source, ← disk.destination target with
  | some s, some t =>
    let sourcePlace ← disk.place s
    match disk.node? sourcePlace with
    | none => .error .notFound
    | some .directory => .error .isDirectory
    | some (.file text) =>
      let place ← disk.place t
      if s.isDirectory || t.isDirectory then .error .notDirectory
      else if disk.node? place = some .directory then .error .isDirectory
      else return (disk.erase sourcePlace).put place (.file text)
  | _, _ => .error .busy

/-- Makes a directory in one that is there. -/
def makeDirectory (disk : Disk) (path : String) : Except FileError Disk := do
  match ← disk.destination path with
  | none => .error .exists
  | some d =>
    let place ← disk.place d
    if (disk.node? place).isSome then .error .exists else return disk.put place .directory

/-- Changes the disk if an operation succeeds. -/
def attempt (operation : Disk → Except FileError Disk) : StateM Disk (Except FileError Unit) :=
  fun disk =>
    match operation disk with
    | .ok changed => (.ok (), changed)
    | .error e => (.error e, disk)

/-- Makes a directory unless it is there. -/
def ensureDirectory (path : String) : StateM Disk (Except FileError Unit) := do
  match ← attempt (·.makeDirectory path) with
  | .error .exists => return if (← get).isDirectory path then .ok () else .error .exists
  | result => return result

/-- Makes the first of some directories, each of which lies in the one after it. The one after it is
made only if the first cannot be made without it, and stays even if the first still cannot be
made. -/
def ensureDirectories : List String → StateM Disk (Except FileError Unit)
  | [] => return .ok ()
  | path :: others => do
    match ← ensureDirectory path with
    | .error .notFound =>
      match ← ensureDirectories others with
      | .ok () => ensureDirectory path
      | failure => return failure
    | result => return result

/-- Makes a directory and the directories above it. -/
def makeDirectories (path : String) : StateM Disk (Except FileError Unit) :=
  ensureDirectories (FilePath.ancestors path)

/-- The names of what is in a directory, in order. -/
def listDirectory (disk : Disk) (path : String) : Except FileError (List String) := do
  match ← disk.at? path with
  | (_, .file _) => .error .notDirectory
  | (place, .directory) =>
    return NameSet.ofList (disk.nodes.filterMap fun (other, _) =>
      match other.getLast? with
      | some name => if other.dropLast = place then some name else none
      | none => none)

/-- The files below the working directory by their paths from it, in the order of the paths. -/
def files (disk : Disk) : List (String × String) :=
  Ordered.ofList (disk.nodes.filterMap fun (place, node) =>
    match place.head?, node with
    | some first, .file text =>
      if first == ".." || first == "/" then none
      else some (String.intercalate "/" place, text)
    | _, _ => none)

instance : MonadFiles (StateM Disk) where
  workingDirectory := return (← get).root
  pathExists path := return (← get).pathExists path
  readText path := return (← get).readText path
  writeText path text := attempt (·.writeText path text)
  rename source target := attempt (·.rename source target)
  makeDirectories := makeDirectories
  listDirectory path := return (← get).listDirectory path

/-- A disk with some files, each with the directories above it. -/
def ofFiles (root : String) (files : List (String × String)) : Disk :=
  files.foldl
    (fun disk (path, text) =>
      let made := (makeDirectories (FilePath.directory path) disk).2
      (made.writeText path text).toOption.getD made)
    (empty root)

end Disk

end Reflex
