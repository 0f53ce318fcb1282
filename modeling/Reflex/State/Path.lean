import Reflex.Value.Basic
import Reflex.Text.Decimal

/-!
# Dotted paths

A path such as `$user.names.0` names a value inside a document: the first segment is the state
variable, and the others are fields of objects or positions in arrays.

* `Path.lookup?` follows a path through a document.
* `Path.topLevel` is the state variable that a path begins with.
-/

namespace Reflex.Path

/-- The segments of a path, which dots separate. -/
def segments (path : String) : List String :=
  (path.toList.splitOn '.').map String.ofList

/-- The state variable that a path begins with. -/
def topLevel (path : String) : String :=
  (segments path).headD ""

/-- The part of a value that one segment names. -/
def step? (v : Value) (segment : String) : Option Value :=
  match v with
  | .object fields => Fields.get? fields segment
  | .array items => (Text.index? segment).bind (items[·]?)
  | _ => none

/-- The value that a path names in a document. -/
def lookup? (document : Fields) (path : String) : Option Value :=
  match segments path with
  | [] => none
  | name :: rest => (document.get? name).bind fun v => rest.foldlM step? v

end Reflex.Path
