import Reflex.Json.Printer
import Reflex.Text.Word

/-!
# Templates

A template is a text with at most two placeholders: the first `$name` and, after that is replaced,
the first `${name}`. Names are made of ASCII letters, digits, underscores and dots.

* `Template.bare?` and `Template.braced?` find the first placeholder of each kind.
* `Template.fill` replaces both by the texts of the values they name.
-/

namespace Reflex.Template

/-- A text split around a placeholder, whose name is given without the signs around it. -/
structure Split where
  before : List Char
  name : List Char
  after : List Char

/-- Whether a character may stand in the name of a placeholder. -/
def isNameChar (c : Char) : Bool :=
  Text.isName c || c == '.'

/-- The name at the head of a text that follows a dollar sign, and what comes after it. -/
def bareHead? (cs : List Char) : Option (List Char × List Char) :=
  let name := cs.takeWhile isNameChar
  if name.isEmpty then none else some (name, cs.dropWhile isNameChar)

/-- The text split around its first `$name`. -/
def bare? : List Char → Option Split
  | [] => none
  | c :: cs =>
    match if c == '$' then bareHead? cs else none with
    | some (name, rest) => some ⟨[], name, rest⟩
    | none => (bare? cs).map fun split => { split with before := c :: split.before }

/-- The placeholder at the head of a text that follows a dollar sign, and what comes after it. -/
def bracedHead? : List Char → Option (List Char × List Char)
  | '\x7b' :: cs =>
    let name := cs.takeWhile isNameChar
    match cs.dropWhile isNameChar with
    | '\x7d' :: rest => if name.isEmpty then none else some (name, rest)
    | _ => none
  | _ => none

/-- The text split around its first `${name}`. -/
def braced? : List Char → Option Split
  | [] => none
  | c :: cs =>
    match if c == '$' then bracedHead? cs else none with
    | some (name, rest) => some ⟨[], name, rest⟩
    | none => (braced? cs).map fun split => { split with before := c :: split.before }

/-- Puts the value of a placeholder in its place; the value is looked up with the dollar sign. -/
def replace (value : String → Value) (text : List Char) : Option Split → List Char
  | none => text
  | some split =>
    split.before ++ (value (String.ofList ('$' :: split.name))).display.toList ++ split.after

/-- Replaces the first `$name` of a template, and then the first `${name}` of what that gives. -/
def fill (value : String → Value) (template : String) : String :=
  let once := replace value template.toList (bare? template.toList)
  String.ofList (replace value once (braced? once))

end Reflex.Template
