import Reflex.Datum
import Reflex.Ordered

/-!
# Tables of TOML

A TOML document builds its tables piece by piece: by headers, by dotted keys and by arrays of
tables. A `Node` remembers how a table came about, because this decides what may still be added to
it. The entries of a table are kept in the order of their names.

* `Node.addPair` adds a key with its value to the table at hand.
* `Node.addSection` adds the table that a header opens, with its pairs, to a document.
* `Node.toDatum` forgets how a table came about.
-/

namespace Reflex.Toml

/-- How a table came about. -/
inductive Origin where
  /-- By a header of its own, or as the document itself. -/
  | header
  /-- On the way of a longer header. -/
  | passed
  /-- On the way of a dotted key. -/
  | dotted
deriving DecidableEq

/-- A part of a document. -/
inductive Node where
  /-- A finished value, to which nothing can be added. -/
  | value (d : Datum)
  | table (origin : Origin) (entries : List (String × Node))
  /-- An array of tables that headers opened. -/
  | tables (items : List (List (String × Node)))

/-- The entries of a table, in the order of their names. -/
abbrev Entries := List (String × Node)

/-- A header: an array of tables has two brackets on each side. -/
structure Header where
  isArray : Bool
  path : List String
  name : String

/-- A key, which dots divide, and its value. -/
structure Pair where
  path : List String
  name : String
  value : Datum

/-- A header and the pairs below it. -/
structure Section where
  header : Header
  pairs : List Pair

namespace Node

mutual

/-- What a part of a document stands for. -/
def toDatum : Node → Datum
  | .value d => d
  | .table _ entries => .table (toData entries)
  | .tables items => .array (toTables items)

/-- What the entries of a table stand for. -/
def toData : List (String × Node) → List (String × Datum)
  | [] => []
  | (key, node) :: entries => (key, toDatum node) :: toData entries

/-- What the tables of an array stand for. -/
def toTables : List (List (String × Node)) → List Datum
  | [] => []
  | entries :: items => .table (toData entries) :: toTables items

end

/-- Changes the table at the end of a path, which is made if it is not there. A header makes and
passes any table; a dotted key does not pass a table that has a header of its own. In an array of
tables the path goes on in the last one. -/
def descend (dotted : Bool) (f : Origin → Entries → Option Entries) :
    List String → Origin → Entries → Option Entries
  | [], origin, entries => f origin entries
  | key :: path, _, entries =>
    match entries.lookup key with
    | none => do
      let origin := if dotted then Origin.dotted else .passed
      let inner ← descend dotted f path origin []
      return Ordered.put key (.table origin inner) entries
    | some (.table origin inner) =>
      if dotted && origin = .header then none
      else do
        let inner ← descend dotted f path origin inner
        return Ordered.put key (.table origin inner) entries
    | some (.tables items) =>
      match items.getLast? with
      | none => none
      | some last => do
        let last ← descend dotted f path .header last
        return Ordered.put key (.tables (items.dropLast ++ [last])) entries
    | some (.value _) => none

/-- Adds a pair to the table at hand. A dotted key must lead to a table that dotted keys made, and
the name must be new there. -/
def addPair (entries : Entries) (pair : Pair) : Option Entries :=
  descend true
    (fun origin inner =>
      if !pair.path.isEmpty && origin ≠ .dotted then none
      else match inner.lookup pair.name with
        | some _ => none
        | none => some (Ordered.put pair.name (.value pair.value) inner))
    pair.path .header entries

/-- The entries after some pairs were added to them. -/
def addPairs (entries : Entries) (pairs : List Pair) : Option Entries :=
  pairs.foldlM addPair entries

/-- Adds a section to a document. A table may have one header only, and an array of tables holds
nothing but tables with headers. -/
def addSection (root : Entries) (s : Section) : Option Entries :=
  descend false
    (fun _ parent =>
      match s.header.isArray, parent.lookup s.header.name with
      | false, none => do
        let entries ← addPairs [] s.pairs
        return Ordered.put s.header.name (.table .header entries) parent
      | false, some (.table .passed inner) => do
        let entries ← addPairs inner s.pairs
        return Ordered.put s.header.name (.table .header entries) parent
      | true, none => do
        let entries ← addPairs [] s.pairs
        return Ordered.put s.header.name (.tables [entries]) parent
      | true, some (.tables items) => do
        let entries ← addPairs [] s.pairs
        return Ordered.put s.header.name (.tables (items ++ [entries])) parent
      | _, _ => none)
    s.header.path .header root

end Node

end Reflex.Toml
