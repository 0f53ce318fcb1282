import Reflex.Json.Reader
import Reflex.State.Assignment
import Reflex.State.Patch
import Reflex.State.Path
import Reflex.State.Template

/-!
# The state store

The store holds the document of state variables, the registrations of listeners that watch some of
them, and the slot in which the text of the document is kept between sessions. This module has what
can be done to a store without calling a listener; `Reflex.Session.Update` has the rest.

* `Store.load` takes the document out of the slot.
* `Store.commit` and `Store.close` begin and end an update.
* `Store.observe` and `Store.unobserve` change the registrations.
* `Store.get`, `Store.interpolate` and `Store.patchOf` read the document.
-/

namespace Reflex

/-- Why the store refuses. -/
inductive StoreError where
  /-- A patch was built from something other than an object. -/
  | patchType (found : String)
  /-- Updates are nested as deep as they may be. -/
  | reentrancyLimit (limit : Nat)
  /-- The slot holds the text of something other than an object. -/
  | notObject (key found : String)
  /-- The slot holds a text that is not JSON. -/
  | notJson (key : String) (fault : Json.Fault)
  /-- The slot cannot be read. -/
  | unreadable (key message : String)

/-- The wording of a refusal. -/
def StoreError.message : StoreError → String
  | .patchType found => "patch must be a JSON object, got " ++ found
  | .reentrancyLimit limit => "re-entrant update depth exceeded " ++ Text.ofNat limit
  | .notObject key found =>
    "persisted state under `" ++ key ++ "` is unusable: expected an object, got " ++ found
  | .notJson key fault =>
    "persisted state under `" ++ key ++ "` is unusable: " ++ fault.message
  | .unreadable key message => "read persisted state under `" ++ key ++ "`: " ++ message

/-- The place where the text of the document is kept. Writes fail while they are switched off, and
single attempts may fail of themselves. -/
structure Slot where
  /-- The text that was written last. -/
  text? : Option String
  /-- How many writes succeeded. -/
  writes : Nat
  /-- How many writes were attempted. -/
  attempts : Nat
  /-- Whether writes are switched off. -/
  off : Bool
  /-- Which attempts, counted from `0`, fail even where writes are not switched off. -/
  outages : Nat → Bool

namespace Slot

/-- A slot that holds a text or none, and to which writes succeed. -/
def holding (text? : Option String) : Slot := ⟨text?, 0, 0, false, fun _ => false⟩

/-- Whether a write fails at present. -/
def failing (slot : Slot) : Bool :=
  slot.off || slot.outages slot.attempts

/-- The slot after an attempt to write a text. -/
def write (slot : Slot) (text : String) : Slot :=
  if slot.failing then { slot with attempts := slot.attempts + 1 }
  else { slot with
    text? := some text
    writes := slot.writes + 1
    attempts := slot.attempts + 1 }

end Slot

/-- A listener and the state variables it watches. -/
structure Registration where
  listener : String
  names : List String
deriving DecidableEq

/-- The state store. -/
structure Store where
  document : Fields
  /-- In the order of the first registration of each listener. -/
  registrations : List Registration
  /-- What the latest update changed. -/
  lastChanges : NameSet
  /-- How many updates are under way. -/
  depth : Nat
  /-- How many updates may be under way at once. -/
  maxDepth : Nat
  key : String
  slot : Slot

namespace Store

/-- The document that a text stands for. -/
def readDocument (key text : String) : Except StoreError Fields :=
  match Json.readValue text with
  | .ok (.object fields) => .ok fields
  | .ok v => .error (.notObject key v.typeName)
  | .error fault => .error (.notJson key fault)

/-- The document of a slot, which is empty before the first write. -/
def storedDocument (key : String) (text? : Option String) : Except StoreError Fields :=
  match text? with
  | none => .ok []
  | some text => readDocument key text

/-- A store with the document that is kept in its slot. -/
def load (key : String) (maxDepth : Nat) (text? : Option String) : Except StoreError Store :=
  (storedDocument key text?).map fun document =>
    { document, registrations := [], lastChanges := [], depth := 0, maxDepth, key,
      slot := .holding text? }

/-- The value that a path names, or else a default. -/
def getOr (store : Store) (path : String) (default : Value) : Value :=
  (Path.lookup? store.document path).getD default

/-- The value that a path names, or `null`. -/
def get (store : Store) (path : String) : Value :=
  store.getOr path .null

/-- A template with its placeholders replaced by values of the store. -/
def interpolate (store : Store) (template : String) : String :=
  Template.fill store.get template

/-- The operation of an assignment. A state variable gives its interpolated text, and event data
without the field take the target away. -/
def opOf (store : Store) (data : Fields) : AssignmentSource → PatchOp
  | .state name => .set (.string (store.interpolate name))
  | .field name =>
    match data.get? name with
    | some v => .assign v
    | none => .remove

/-- The patch of an assignment text; a later assignment to a target takes the place of an earlier
one. -/
def patchOf (store : Store) (text : String) (data : Fields) : Patch :=
  (Assignment.scan text.toList).foldl (fun patch a => patch.put a.target (store.opOf data a.source))
    []

/-- Whether the latest update changed the state variable that a path begins with. -/
def hasBeenUpdated (store : Store) (path : String) : Bool :=
  store.lastChanges.contains (Path.topLevel path)

/-- What a patch would change. -/
def changesOf (store : Store) (patch : Patch) : NameSet :=
  store.document.changes (Patch.apply store.document patch)

/-- The store at the beginning of an update: the document is the patched one. -/
def commit (store : Store) (patch : Patch) : Store :=
  { store with
    document := Patch.apply store.document patch
    lastChanges := store.changesOf patch
    depth := store.depth + 1 }

/-- The text that keeps the document. -/
def text (store : Store) : String :=
  (Value.object store.document).compact

/-- The store at the end of an update: the document is written to the slot. -/
def close (store : Store) : Store :=
  { store with slot := store.slot.write store.text, depth := store.depth - 1 }

/-- Registers a listener for state variables, of which paths name the first segment. A listener
that is registered keeps its place. -/
def observe (store : Store) (listener : String) (paths : List String) : Store :=
  let names := paths.map Path.topLevel
  let registrations :=
    if store.registrations.any (·.listener == listener) then
      store.registrations.map fun r => if r.listener == listener then { r with names } else r
    else store.registrations ++ [⟨listener, names⟩]
  { store with registrations }

/-- Whether a listener is registered. -/
def isRegistered (store : Store) (listener : String) : Bool :=
  store.registrations.any (·.listener == listener)

/-- Drops the registration of a listener. -/
def unobserve (store : Store) (listener : String) : Store :=
  { store with registrations := store.registrations.filter (·.listener != listener) }

end Store

end Reflex
