/-!
# Lists kept in code point order

Sets of names and maps with text keys are lists in ascending order of their keys, each key once.
Texts are ordered by their code points.

* `NameSet` holds names; `NameSet.insert` puts a name in its place.
* `Ordered.put` sets the value of a key and `Ordered.adjust` changes it.
-/

namespace Reflex

/-- A set of names, in ascending order. -/
abbrev NameSet := List String

namespace NameSet

/-- Puts a name in its place, unless it is there. -/
def insert (name : String) : NameSet → NameSet
  | [] => [name]
  | n :: ns =>
    if name < n then name :: n :: ns
    else if name = n then n :: ns
    else n :: insert name ns

/-- The set of the names in a list. -/
def ofList (names : List String) : NameSet :=
  names.foldl (fun ns n => insert n ns) []

/-- The names of either set. -/
def union (ns ms : NameSet) : NameSet :=
  ms.foldl (fun ns n => insert n ns) ns

/-- Whether some name of the list is in the set. -/
def meets (ns : NameSet) (names : List String) : Bool :=
  names.any ns.contains

end NameSet

namespace Ordered

variable {β : Type}

/-- Changes the value of a key by `f`, which is given the present value if there is one. -/
def adjust (key : String) (f : Option β → β) : List (String × β) → List (String × β)
  | [] => [(key, f none)]
  | (k, v) :: entries =>
    if key < k then (key, f none) :: (k, v) :: entries
    else if key = k then (k, f (some v)) :: entries
    else (k, v) :: adjust key f entries

/-- Sets the value of a key. -/
def put (key : String) (value : β) (entries : List (String × β)) : List (String × β) :=
  adjust key (fun _ => value) entries

/-- Sets the keys of a list one after the other, so that the last value of a key stays. -/
def ofList (pairs : List (String × β)) : List (String × β) :=
  pairs.foldl (fun entries (key, value) => put key value entries) []

end Ordered

end Reflex
