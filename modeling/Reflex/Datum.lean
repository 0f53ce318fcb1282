import Reflex.Value.Basic

/-!
# Data read from a file

JSON and TOML texts are read into the same form before a typed record is taken out of them. A
`Datum` keeps what a value does not: numbers that are not finite, integers beyond 64 bits, names
that a table repeats, and parts of a text that are well formed but stand for nothing. Such a part
does no harm where a record has no use for it.

* `Datum.toValue?` gives the value a datum stands for.
* `Datum.fields?` takes the fields of a record, given by name in a table or by position in an
  array.
* `Datum.tagged?` splits the name of a variant from the fields of the variant.
-/

namespace Reflex

/-- A datum of a file. -/
inductive Datum where
  | null
  | bool (b : Bool)
  | integer (n : Int)
  | float (x : Extended)
  | string (s : String)
  | array (items : List Datum)
  | table (entries : List (String × Datum))
  /-- Something well formed that stands for nothing. -/
  | unreadable

instance : Inhabited Datum := ⟨.null⟩

/-- When a field of a record may be absent. -/
inductive Presence where
  /-- The field is always there. -/
  | required
  /-- The field may be missing from a table, but not from an array. -/
  | optional
  /-- The field may be missing. -/
  | defaulted
deriving DecidableEq

namespace Datum

mutual

/-- The value a datum stands for: a number that is not finite becomes `null`, a repeated name keeps
its last value, and an integer beyond 64 bits stands for nothing, as does what holds something
unreadable. -/
def toValue? : Datum → Option Value
  | .null => some .null
  | .bool b => some (.bool b)
  | .integer n => if h : IsWord n then some (.number (.int n h)) else none
  | .float (.finite x) => some (.number (.float x))
  | .float _ => some .null
  | .string s => some (.string s)
  | .array items => (toValues? items).map .array
  | .table entries => (toFields? entries).map fun pairs => .object (Fields.ofList pairs)
  | .unreadable => none

/-- The values of a list of data. -/
def toValues? : List Datum → Option (List Value)
  | [] => some []
  | d :: ds => do
    let v ← toValue? d
    let vs ← toValues? ds
    return v :: vs

/-- The values of the entries of a table, repeated names included. -/
def toFields? : List (String × Datum) → Option (List (String × Value))
  | [] => some []
  | (key, d) :: ds => do
    let v ← toValue? d
    let vs ← toFields? ds
    return (key, v) :: vs

end

mutual

/-- The datum that stands for a value. -/
def ofValue : Value → Datum
  | .null => .null
  | .bool b => .bool b
  | .number (.int n _) => .integer n
  | .number (.float x) => .float (.finite x)
  | .string s => .string s
  | .array items => .array (ofValues items)
  | .object fields => .table (ofFields fields)

/-- The data that stand for a list of values. -/
def ofValues : List Value → List Datum
  | [] => []
  | v :: vs => ofValue v :: ofValues vs

/-- The entries that stand for the fields of an object. -/
def ofFields : List (String × Value) → List (String × Datum)
  | [] => []
  | (key, v) :: fs => (key, ofValue v) :: ofFields fs

end

mutual

/-- Whether nothing in a datum is unreadable. -/
def isReadable : Datum → Bool
  | .array items => areReadable items
  | .table entries => areFieldsReadable entries
  | .unreadable => false
  | _ => true

/-- Whether nothing in some data is unreadable. -/
def areReadable : List Datum → Bool
  | [] => true
  | d :: ds => isReadable d && areReadable ds

/-- Whether nothing in the entries of a table is unreadable. -/
def areFieldsReadable : List (String × Datum) → Bool
  | [] => true
  | (_, d) :: ds => isReadable d && areFieldsReadable ds

end

/-- The text a datum is. -/
def string? : Datum → Option String
  | .string s => some s
  | _ => none

/-- The truth value a datum is. -/
def bool? : Datum → Option Bool
  | .bool b => some b
  | _ => none

/-- The count a datum is: an integer from zero up that fits into 64 bits. -/
def count? : Datum → Option Nat
  | .integer n => if 0 ≤ n && n < 0x10000000000000000 then some n.toNat else none
  | _ => none

/-- The items of an array, each read by `item?`. -/
def list? {α : Type} (item? : Datum → Option α) : Datum → Option (List α)
  | .array items => items.mapM item?
  | _ => none

/-- Nothing for `null`, and what `item?` reads for anything else. -/
def nullable? {α : Type} (item? : Datum → Option α) : Datum → Option (Option α)
  | .null => some none
  | d => (item? d).map some

/-- The object a table stands for. -/
def object? : Datum → Option Fields
  | .table entries => (toFields? entries).map Fields.ofList
  | _ => none

/-- The entries of a table under one name; a repeated name is refused. -/
def entry? (entries : List (String × Datum)) (name : String) : Option (Option Datum) :=
  match entries.filter (·.1 == name) with
  | [] => some none
  | [(_, d)] => some (some d)
  | _ => none

/-- What a record passes over unread. -/
inductive Leeway where
  /-- What stands under other names in a table. An array holds no further items. -/
  | names
  /-- The further items of an array. What stands under other names in a table must be readable. -/
  | items
deriving DecidableEq

/-- The fields of a record in the order of their description. A table gives them by name, an array
by position. -/
def fields? (leeway : Leeway) (description : List (String × Presence)) :
    Datum → Option (List (Option Datum))
  | .table entries =>
    let others := entries.filter fun (name, _) => !description.any (·.1 == name)
    if leeway = .items && !areFieldsReadable others then none
    else
      description.mapM fun (name, presence) =>
        match entry? entries name with
        | some none => if presence = .required then none else some none
        | found => found
  | .array items =>
    if leeway = .names && items.length > description.length then none
    else
      (description.zip (items.map some ++ List.replicate description.length none)).mapM
        fun ((_, presence), d?) =>
          if d?.isNone && presence ≠ .defaulted then none else some d?
  | _ => none

/-- The name of a variant, found under `tag` in a table or at the head of an array, and the datum
that holds the fields of the variant. -/
def tagged? (tag : String) : Datum → Option (String × Datum)
  | .table entries =>
    match entry? entries tag with
    | some (some (.string s)) => some (s, .table (entries.filter (·.1 != tag)))
    | _ => none
  | .array (.string s :: items) => some (s, .array items)
  | _ => none

end Datum

end Reflex
