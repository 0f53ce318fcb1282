/-!
# Arguments of the command line

The words of a command line are options with a value (`--data X`, `--data=X`, `-o X`, `-oX`),
switches (`--init`) and positional words. After a word `--` every word is positional.

* `Argument.ofWords?` sorts the words; unknown options, options without a value and switches with
  one are refused.
* `Argument.value?`, `Argument.switched?` and `Argument.words` take the arguments apart again.
-/

namespace Reflex

/-- The names that begin with a dash. -/
structure Flags where
  /-- Options with a value. -/
  options : List String
  switches : List String
  /-- Options of one letter, with their long names. -/
  letters : List (Char × String)

/-- A part of a command line. -/
inductive Argument where
  | option (name value : String)
  | switch (name : String)
  | positional (word : String)
deriving DecidableEq

namespace Argument

/-- What a word is by its form. -/
inductive Form where
  /-- The mark after which every word is positional. -/
  | escape
  | long (name : String) (value? : Option String)
  | short (letter : Char) (rest : List Char)
  | plain

/-- A value that is joined to a name by an equals sign. -/
def joined? : List Char → Option String
  | '=' :: value => some (String.ofList value)
  | _ => none

/-- The form of a word. -/
def Form.ofWord (word : String) : Form :=
  match word.toList with
  | ['-', '-'] => .escape
  | '-' :: '-' :: cs =>
    .long (String.ofList (cs.takeWhile (· != '='))) (joined? (cs.dropWhile (· != '=')))
  | '-' :: c :: cs => .short c cs
  | _ => .plain

/-- Whether a word can be the value of the option before it. -/
def isValue (word : String) : Bool :=
  match Form.ofWord word with
  | .plain => true
  | _ => false

/-- The value of an option of one letter that is written together with it. -/
def attached? : List Char → Option String
  | [] => none
  | '=' :: value => some (String.ofList value)
  | value => some (String.ofList value)

/-- Sorts the words of a command line. -/
def ofWords? (flags : Flags) : List String → Option (List Argument)
  | [] => some []
  | word :: words =>
    match Form.ofWord word with
    | .escape => some (words.map positional)
    | .plain => (ofWords? flags words).map (positional word :: ·)
    | .long name (some value) =>
      if flags.options.contains name then (ofWords? flags words).map (option name value :: ·)
      else none
    | .long name none =>
      if flags.switches.contains name then (ofWords? flags words).map (switch name :: ·)
      else if flags.options.contains name then withValue name words
      else none
    | .short letter rest =>
      match flags.letters.lookup letter, attached? rest with
      | some name, some value => (ofWords? flags words).map (option name value :: ·)
      | some name, none => withValue name words
      | none, _ => none
where
  /-- Takes the next word as the value of an option. -/
  withValue (name : String) : List String → Option (List Argument)
    | value :: words =>
      if isValue value then (ofWords? flags words).map (option name value :: ·) else none
    | [] => none

/-- The values of an option, in order. -/
def values (name : String) (arguments : List Argument) : List String :=
  arguments.filterMap fun
    | .option other value => if other = name then some value else none
    | _ => none

/-- How often a switch stands in a command line. -/
def switchCount (name : String) (arguments : List Argument) : Nat :=
  arguments.count (.switch name)

/-- The positional words, in order. -/
def words (arguments : List Argument) : List String :=
  arguments.filterMap fun
    | .positional word => some word
    | _ => none

/-- The value of an option that may be given once. -/
def value? (name : String) (arguments : List Argument) : Option (Option String) :=
  match values name arguments with
  | [] => some none
  | [value] => some (some value)
  | _ => none

/-- Whether a switch is given, which it may be once. -/
def switched? (name : String) (arguments : List Argument) : Option Bool :=
  match switchCount name arguments with
  | 0 => some false
  | 1 => some true
  | _ => none

end Argument

end Reflex
