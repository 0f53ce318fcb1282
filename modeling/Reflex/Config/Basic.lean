import Reflex.Session.Basic
import Reflex.Toml.Printer
import Reflex.Text.Blank

/-!
# Configuration

The configuration of the engine is a TOML file with three limits and the place where the document is
kept. Whatever the file leaves out has its usual value.

* `Config.ofDatum?` takes a configuration out of a table.
* `Config.check` refuses limits of zero and keys that name no file.
* `Config.text` writes a configuration.
-/

namespace Reflex

/-- The configuration of the engine. -/
structure Config where
  /-- How many cycles a dispatch may run. -/
  maxCycles : Nat
  /-- How many dispatches may be under way at once. -/
  maxNesting : Nat
  /-- How many updates may be under way at once. -/
  maxUpdateDepth : Nat
  /-- The directory in which documents are kept. -/
  dir : String
  /-- The name of the document. -/
  key : String
deriving DecidableEq

/-- What is wrong with a configuration. -/
inductive ConfigFlaw where
  /-- A limit is zero. -/
  | zeroLimit (name : String)
  | emptyKey
  /-- The key would lead to another directory. -/
  | keyWithSeparator
deriving DecidableEq

/-- The wording of a flaw. -/
def ConfigFlaw.message : ConfigFlaw → String
  | .zeroLimit name => name ++ " must be > 0"
  | .emptyKey => "storage.key must not be empty"
  | .keyWithSeparator => "storage.key must not contain path separators"

/-- Whether a character separates the parts of a path on some machine. -/
def isPathSeparator (c : Char) : Bool :=
  c == '/' || c == '\x5c'

namespace Config

/-- The usual configuration. -/
def default : Config := ⟨1000, 32, 64, ".actions/state", "4.state"⟩

/-- The limits of a session under a configuration. -/
def sessionOptions (c : Config) : SessionOptions :=
  ⟨c.maxCycles, c.maxNesting, c.maxUpdateDepth, c.key⟩

/-- Refuses a configuration that cannot be used; of several flaws the first counts. -/
def check (c : Config) : Except ConfigFlaw Unit :=
  if c.maxCycles = 0 then .error (.zeroLimit "max_cycles")
  else if c.maxNesting = 0 then .error (.zeroLimit "max_nesting")
  else if c.maxUpdateDepth = 0 then .error (.zeroLimit "max_update_depth")
  else if (Text.trim c.key.toList).isEmpty then .error .emptyKey
  else if c.key.toList.any isPathSeparator then .error .keyWithSeparator
  else .ok ()

/-- A field that may be left out. -/
def fieldOr {α : Type} (usual : α) (read? : Datum → Option α) : Option Datum → Option α
  | none => some usual
  | some d => read? d

/-- The directory and the key of a storage table. -/
def storageOfDatum? (d : Datum) : Option (String × String) := do
  match ← d.fields? .items [("dir", .defaulted), ("key", .defaulted)] with
  | [dir, key] =>
    return (← fieldOr default.dir Datum.string? dir, ← fieldOr default.key Datum.string? key)
  | _ => none

/-- The configuration of a table. Names that it does not know are passed over. -/
def ofDatum? (d : Datum) : Option Config := do
  match ← d.fields? .items [("max_cycles", .defaulted), ("max_nesting", .defaulted),
    ("max_update_depth", .defaulted), ("storage", .defaulted)] with
  | [cycles, nesting, depth, storage] =>
    let maxCycles ← fieldOr default.maxCycles Datum.count? cycles
    let maxNesting ← fieldOr default.maxNesting Datum.count? nesting
    let maxUpdateDepth ← fieldOr default.maxUpdateDepth Datum.count? depth
    let (dir, key) ← fieldOr (default.dir, default.key) storageOfDatum? storage
    return { maxCycles, maxNesting, maxUpdateDepth, dir, key }
  | _ => none

/-- The text of a configuration. -/
def text (c : Config) : String :=
  "max_cycles = " ++ Text.ofNat c.maxCycles ++ "\nmax_nesting = " ++ Text.ofNat c.maxNesting ++
    "\nmax_update_depth = " ++ Text.ofNat c.maxUpdateDepth ++ "\n\n[storage]\ndir = " ++
    Toml.quote c.dir ++ "\nkey = " ++ Toml.quote c.key ++ "\n\n"

end Config

end Reflex
