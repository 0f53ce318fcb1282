import Reflex.Binary64.Shortest
import Reflex.Value.Basic

/-!
# JSON text of a value

`Value.compact` writes a value without any space, and `Value.pretty` with one item or field a line,
two spaces deeper at each level; an empty array or object stays on its line. Strings are quoted
with the short escapes that JSON has, other control characters by their code, and everything else
as it is. A floating number is written by its shortest numeral.

`Value.display` is the form a value takes inside a text: nothing for `null`, the text itself for a
string, and compact JSON otherwise.
-/

namespace Reflex

namespace Json

/-- How a character is written between quotes. -/
def escape (c : Char) : List Char :=
  if c == '\x22' || c == '\x5c' then ['\x5c', c]
  else if c == '\n' then ['\x5c', 'n']
  else if c == '\t' then ['\x5c', 't']
  else if c == '\r' then ['\x5c', 'r']
  else if c == '\x08' then ['\x5c', 'b']
  else if c == '\x0c' then ['\x5c', 'f']
  else if c.toNat < 0x20 then
    ['\x5c', 'u', '0', '0', Nat.digitChar (c.toNat / 16), Nat.digitChar (c.toNat % 16)]
  else [c]

/-- A text between quotes. -/
def quote (s : String) : List Char :=
  '\x22' :: (s.toList.flatMap escape ++ ['\x22'])

end Json

namespace Number

/-- The text of a number. -/
def text : Number → String
  | .int n _ => Text.ofInt n
  | .float x => x.text

end Number

namespace Value

/-- The text of a value that holds no other values. -/
def scalarChars : Value → List Char
  | .null => "null".toList
  | .bool b => (if b then "true" else "false").toList
  | .number n => n.text.toList
  | .string s => Json.quote s
  | .array _ => []
  | .object _ => []

mutual

/-- The characters of the compact text. -/
def compactChars : Value → List Char
  | .array items => '[' :: compactItems items
  | .object fields => '\x7b' :: compactFields fields
  | v => scalarChars v

/-- The compact text of the items of an array, with the closing bracket. -/
def compactItems : List Value → List Char
  | [] => [']']
  | [v] => compactChars v ++ [']']
  | v :: items => compactChars v ++ ',' :: compactItems items

/-- The compact text of the fields of an object, with the closing brace. -/
def compactFields : List (String × Value) → List Char
  | [] => ['\x7d']
  | [(key, v)] => Json.quote key ++ ':' :: (compactChars v ++ ['\x7d'])
  | (key, v) :: fields => Json.quote key ++ ':' :: (compactChars v ++ ',' :: compactFields fields)

end

/-- The text of a value, without spaces. -/
def compact (v : Value) : String :=
  String.ofList (compactChars v)

/-- A new line and the spaces of the given level. -/
def newline (level : Nat) : List Char :=
  '\n' :: List.replicate (2 * level) ' '

mutual

/-- The characters of the text with one item or field a line, at the given level. -/
def prettyChars (level : Nat) : Value → List Char
  | .array items =>
    if items.isEmpty then ['[', ']'] else '[' :: prettyItems level items
  | .object fields =>
    if fields.isEmpty then ['\x7b', '\x7d'] else '\x7b' :: prettyFields level fields
  | v => scalarChars v

/-- The items of an array, each on a line of its own, with the closing bracket. -/
def prettyItems (level : Nat) : List Value → List Char
  | [] => [']']
  | [v] => newline (level + 1) ++ prettyChars (level + 1) v ++ newline level ++ [']']
  | v :: items =>
    newline (level + 1) ++ prettyChars (level + 1) v ++ ',' :: prettyItems level items

/-- The fields of an object, each on a line of its own, with the closing brace. -/
def prettyFields (level : Nat) : List (String × Value) → List Char
  | [] => ['\x7d']
  | [(key, v)] =>
    newline (level + 1) ++ Json.quote key ++ ':' :: ' ' :: prettyChars (level + 1) v ++
      newline level ++ ['\x7d']
  | (key, v) :: fields =>
    newline (level + 1) ++ Json.quote key ++ ':' :: ' ' :: prettyChars (level + 1) v ++
      ',' :: prettyFields level fields

end

/-- The text of a value, with one item or field a line. -/
def pretty (v : Value) : String :=
  String.ofList (prettyChars 0 v)

/-- The form a value takes inside a text. -/
def display : Value → String
  | .null => ""
  | .string s => s
  | v => v.compact

/-- The expression text of a literal that was stored as a value: a string holds its expression, and
any other value stands for itself. -/
def asExpression : Value → String
  | .string s => s
  | v => v.compact

end Value

end Reflex
