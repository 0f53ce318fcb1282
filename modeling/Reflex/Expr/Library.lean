import Reflex.Event
import Reflex.Expr.Coercion
import Reflex.Ordered
import Reflex.Text.LetterCase
import Reflex.Text.Literal
import Reflex.Text.Occurrence

/-!
# Functions of the formula language

Rules call a fixed set of functions for numbers, for text that is typed word by word, and for
`queue`, which asks for a follow-up event. A `Library` says under which names they can be called.

* `Builtin.result` gives the value of a call, or why it has none.
* `Builtin.events` gives the events that a call asks for; only `queue` asks for any.
* `Library.standard` holds every function under its own name, and `Library.register` adds a name.
-/

namespace Reflex

/-- A function that expressions can call. -/
inductive Builtin where
  | abs | addLetter | addWord | ceil | choose | concat | contains | deleteLetter | deleteWord
  | empty | floor | length | lower | max | min | queue | round | trim | upper
deriving DecidableEq

namespace Builtin

/-- The name of a function. -/
def name : Builtin → String
  | .abs => "abs"
  | .addLetter => "add_letter"
  | .addWord => "add_word"
  | .ceil => "ceil"
  | .choose => "if"
  | .concat => "concat"
  | .contains => "contains"
  | .deleteLetter => "delete_letter"
  | .deleteWord => "delete_word"
  | .empty => "empty"
  | .floor => "floor"
  | .length => "len"
  | .lower => "lower"
  | .max => "max"
  | .min => "min"
  | .queue => "queue"
  | .round => "round"
  | .trim => "trim"
  | .upper => "upper"

/-- Every function. -/
def all : List Builtin :=
  [.abs, .addLetter, .addWord, .ceil, .choose, .concat, .contains, .deleteLetter, .deleteWord,
    .empty, .floor, .length, .lower, .max, .min, .queue, .round, .trim, .upper]

/-- How many arguments a function takes. -/
def arity : Builtin → Arity
  | .min | .max => .atLeast 1
  | .concat => .atLeast 0
  | .choose => .exactly 3
  | .addLetter | .addWord | .contains | .queue => .exactly 2
  | .abs | .ceil | .deleteLetter | .deleteWord | .empty | .floor | .length | .lower | .round
  | .trim | .upper => .exactly 1

/-- Whether an array holds an item, or the text of a value the text of another. -/
def holds (item : Value) : Value → Bool
  | .array items => items.any (·.same item)
  | v => Text.occursIn item.display.toList v.display.toList

/-- The length of a text in characters, of an array in items, and of an object in fields. -/
def lengthOf : Value → Except EvalError Nat
  | .null => .ok 0
  | .string s => .ok s.length
  | .array items => .ok items.length
  | .object fields => .ok fields.length
  | .bool _ => .error (.type "len" .notSized)
  | .number _ => .error (.type "len" .notSized)

/-- Whether a value is nothing or holds nothing. -/
def isEmpty : Value → Bool
  | .null => true
  | .string s => s.isEmpty
  | .array items => items.isEmpty
  | .object fields => fields.isEmpty
  | .bool _ => false
  | .number _ => false

/-- A text without the word at its end: everything up to its last white space. -/
def dropWord (cs : List Char) : List Char :=
  Text.dropEndWhile (!Text.isBlank ·) cs

/-- The value of a function of one number. -/
def ofNumber (name : String) (f : Extended → Extended) (v : Value) : Except EvalError Value :=
  (v.toNumber name).map (Value.ofExtended ∘ f)

/-- The value of a choice between numbers, made from left to right. -/
def pick (name : String) (f : Extended → Extended → Extended) (v : Value) (vs : List Value) :
    Except EvalError Value := do
  let x ← v.toNumber name
  let xs ← vs.mapM (·.toNumber name)
  return .ofExtended (xs.foldl f x)

/-- The value of a call. The number of arguments is checked before the arguments are looked at. -/
def result : Builtin → List Value → Except EvalError Value
  | .abs, [v] => ofNumber "abs" Extended.abs v
  | .round, [v] => ofNumber "round" Extended.round v
  | .floor, [v] => ofNumber "floor" Extended.floor v
  | .ceil, [v] => ofNumber "ceil" Extended.ceil v
  | .min, v :: vs => pick "min" Extended.min v vs
  | .max, v :: vs => pick "max" Extended.max v vs
  | .length, [v] => (lengthOf v).map Value.ofNat
  | .concat, vs => .ok (.string (String.join (vs.map Value.display)))
  | .upper, [v] => .ok (.string (Text.upper v.display))
  | .lower, [v] => .ok (.string (Text.lower v.display))
  | .trim, [v] => .ok (.string (String.ofList (Text.trim v.display.toList)))
  | .contains, [v, item] => .ok (.bool (holds item v))
  | .choose, [test, yes, no] => .ok (if test.truthy then yes else no)
  | .empty, [v] => .ok (.bool (isEmpty v))
  | .addLetter, [text, letter] => .ok (.string (text.display ++ letter.display))
  | .addWord, [text, word] =>
    .ok (.string (String.ofList (dropWord text.display.toList) ++ word.display ++ " "))
  | .deleteLetter, [text] => .ok (.string (String.ofList text.display.toList.dropLast))
  | .deleteWord, [text] =>
    .ok (.string (String.ofList (dropWord (Text.trimEnd text.display.toList))))
  | .queue, [_, _] => .ok (.bool true)
  | f, args => .error (.arity f.name f.arity args.length)

/-- The events that a call asks for. -/
def events : Builtin → List Value → List Event
  | .queue, [origin, event] => [⟨origin.display, event.display⟩]
  | _, _ => []

end Builtin

/-- The functions that expressions can call, by name and in the order of the names. -/
abbrev Library := List (String × Builtin)

namespace Library

/-- The library without functions. -/
def empty : Library := []

/-- The library with every function under its own name. -/
def standard : Library :=
  Ordered.ofList (Builtin.all.map fun f => (f.name, f))

/-- The function of a name. -/
def get? (library : Library) (name : String) : Option Builtin :=
  library.lookup name

/-- The library with a function under one more name, or under that name in place of another. -/
def register (library : Library) (name : String) (f : Builtin) : Library :=
  Ordered.put name f library

/-- The library with further names for functions of the standard library; a name that the standard
library lacks is passed over. -/
def withAliases (library : Library) (aliases : List (String × String)) : Library :=
  aliases.foldl
    (fun l (name, existing) =>
      match standard.get? existing with
      | some f => l.register name f
      | none => l)
    library

/-- The names of the functions, in order. -/
def names (library : Library) : List String :=
  library.map (·.1)

/-- The set of names as a literal. -/
def text (library : Library) : String :=
  "\x7b" ++ String.intercalate ", " (library.names.map Text.literal) ++ "\x7d"

end Library

end Reflex
