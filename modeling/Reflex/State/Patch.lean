import Reflex.Json.Printer
import Reflex.Ordered
import Reflex.Text.Literal

/-!
# Patches

A patch says for some keys of a document what becomes of them. Its entries are in the order of
their keys, each key once, and keys that it does not name are left alone.

* `PatchOp.next?` is the value of a key after an operation, given its value before.
* `Patch.apply` applies a patch to the fields of a document or of an object in it.
* `Patch.ofFields` is the patch that assigns the fields of an object: objects are merged field by
  field, and any other value replaces what was there.
* `Fields.changes` is the set of keys whose values differ between two documents.
-/

namespace Reflex

/-- What a patch does to one key. -/
inductive PatchOp where
  /-- The value is replaced. -/
  | set (v : Value)
  /-- An object is patched in turn; anything else gives way to an empty object first. -/
  | merge (ops : List (String × PatchOp))
  /-- The key is taken away. -/
  | remove
  /-- The value is set if the key has none. -/
  | default (v : Value)
  /-- The value is computed from the present one; no value takes the key away. -/
  | compute (f : Option Value → Option Value)

/-- The operations of a patch, by key and in the order of the keys. -/
abbrev Patch := List (String × PatchOp)

mutual

/-- The value of a key after an operation, given its value before. -/
def PatchOp.next? (current? : Option Value) : PatchOp → Option Value
  | .set v => some v
  | .merge ops => some (.object (Patch.apply ((current?.bind Value.fields?).getD []) ops))
  | .remove => none
  | .default v => some (current?.getD v)
  | .compute f => f current?

/-- The fields after a patch. -/
def Patch.apply (fields : Fields) : List (String × PatchOp) → Fields
  | [] => fields
  | (key, op) :: ops =>
    let fields' := match op.next? (fields.get? key) with
      | some v => fields.put key v
      | none => fields.remove key
    Patch.apply fields' ops

end

mutual

/-- The operation that assigns a value: an object is merged, any other value is set. -/
def PatchOp.assign : Value → PatchOp
  | .object fields => .merge (PatchOp.assignFields [] fields)
  | v => .set v

/-- The operations that assign the fields of an object, after those of `acc`. -/
def PatchOp.assignFields (acc : List (String × PatchOp)) :
    List (String × Value) → List (String × PatchOp)
  | [] => acc
  | (key, v) :: fields => PatchOp.assignFields (Ordered.put key (PatchOp.assign v) acc) fields

end

namespace Patch

/-- The patch with one more operation, which takes the place of one on the same key. -/
def put (patch : Patch) (key : String) (op : PatchOp) : Patch :=
  Ordered.put key op patch

/-- The patch that assigns the fields of an object. -/
def ofFields (fields : Fields) : Patch :=
  PatchOp.assignFields [] fields

/-- The patch that assigns the fields of a value, if the value is an object. -/
def ofValue? (v : Value) : Option Patch :=
  v.fields?.map ofFields

/-- The keys of a patch, in order. -/
def keys (patch : Patch) : List String :=
  patch.map (·.1)

end Patch

/-- The keys whose values differ between two documents, those included that only one has. -/
def Fields.changes (before after : Fields) : NameSet :=
  let changed := after.filter fun (key, v) => !(before.get? key).any (·.same v)
  let gone := before.filter fun (key, _) => !after.has key
  NameSet.ofList (changed.map (·.1) ++ gone.map (·.1))

/-! ### Descriptions -/

namespace Value

mutual

/-- A value with the kinds of its parts spelled out. -/
def description : Value → String
  | .null => "Null"
  | .bool b => if b then "Bool(true)" else "Bool(false)"
  | .number n => "Number(" ++ n.text ++ ")"
  | .string s => "String(" ++ Text.literal s ++ ")"
  | .array items => "Array [" ++ String.intercalate ", " (itemDescriptions items) ++ "]"
  | .object fields =>
    "Object \x7b" ++ String.intercalate ", " (fieldDescriptions fields) ++ "\x7d"

/-- The descriptions of the items of an array. -/
def itemDescriptions : List Value → List String
  | [] => []
  | v :: items => description v :: itemDescriptions items

/-- The descriptions of the fields of an object. -/
def fieldDescriptions : List (String × Value) → List String
  | [] => []
  | (key, v) :: fields => (Text.literal key ++ ": " ++ description v) :: fieldDescriptions fields

end

end Value

/-- A patch around the descriptions of its operations. -/
def Patch.frame (entries : List String) : String :=
  "Patch \x7b ops: \x7b" ++ String.intercalate ", " entries ++ "\x7d \x7d"

mutual

/-- An operation in words, with the values it holds. -/
def PatchOp.description : PatchOp → String
  | .set v => "Set(" ++ v.description ++ ")"
  | .merge ops => "Merge(" ++ Patch.frame (PatchOp.descriptions ops) ++ ")"
  | .remove => "Remove"
  | .default v => "Default(" ++ v.description ++ ")"
  | .compute _ => "Compute(..)"

/-- The descriptions of the operations of a patch, each with its key. -/
def PatchOp.descriptions : List (String × PatchOp) → List String
  | [] => []
  | (key, op) :: ops => (Text.literal key ++ ": " ++ op.description) :: PatchOp.descriptions ops

end

/-- A patch in words, with the values it holds. -/
def Patch.description (patch : Patch) : String :=
  Patch.frame (PatchOp.descriptions patch)

end Reflex
