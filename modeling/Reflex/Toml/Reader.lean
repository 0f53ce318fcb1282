import Reflex.Toml.Scalar
import Reflex.Toml.Table

/-!
# Reading TOML text

`Toml.read?` reads a TOML document of version 1.1 into a table. Nothing is given for a text that is
not TOML.

A `Scan` reads something off the front of a text. `Scan.many` repeats a scan until it says that
there is no more, and fails if the scan gives something without consuming anything.
-/

namespace Reflex.Toml

/-- Reads something off the front of a text, and leaves the rest. -/
abbrev Scan := StateT (List Char) Option

namespace Scan

/-- Repeats a scan until it gives nothing more. -/
def many {α : Type} (item : Scan (Option α)) (cs : List Char) : Option (List α × List Char) :=
  match item cs with
  | none => none
  | some (none, rest) => some ([], rest)
  | some (some a, rest) =>
    if rest.length < cs.length then (many item rest).map fun (as, rest) => (a :: as, rest)
    else none
termination_by cs.length

/-- Reads the longest run of characters of a class. -/
def run (p : Char → Bool) : Scan (List Char) := fun cs =>
  some (cs.takeWhile p, cs.dropWhile p)

/-- Reads a given text, if it is there. -/
def accept (text : List Char) : Scan Bool := fun cs =>
  if text.isPrefixOf cs then some (true, cs.drop text.length) else some (false, cs)

/-- Reads a given text. -/
def expect (text : List Char) : Scan Unit := do
  if !(← accept text) then failure

/-- The next character, which is left in place. -/
def peek : Scan (Option Char) := do
  return (← get).head?

end Scan

open Scan

/-- Passes over spaces and tabs. -/
def skipSpace : Scan Unit := do
  let _ ← run fun c => c == ' ' || c == '\t'

/-- Passes over a comment, if there is one. -/
def skipComment : Scan Unit := do
  if (← peek) == some '#' then
    let text ← run fun c => c ≠ '\n' && c ≠ '\r'
    if !text.all isPlain then failure

/-- Reads a line break, if there is one. -/
def acceptBreak : Scan Bool := do
  if ← accept ['\n'] then return true
  accept ['\r', '\n']

/-- Passes over spaces, comments and line breaks. -/
def skipLines : Scan Unit := do
  let _ ← many do
    skipSpace
    skipComment
    if ← acceptBreak then return some () else return none

/-- Passes over the end of a line: spaces, a comment, and a line break unless the text ends. -/
def endLine : Scan Unit := do
  skipSpace
  skipComment
  if (← peek).isSome then
    if !(← acceptBreak) then failure

/-! ### Strings -/

/-- The text up to the quote that closes a string on one line, and what follows. In a basic string
a backslash protects the character after it. -/
def closeShort (quote : Char) : List Char → Option (List Char × List Char)
  | [] => none
  | c :: cs =>
    if c == quote then some ([], cs)
    else if c == '\x5c' && quote == '\x22' then
      match cs with
      | [] => none
      | d :: ds => (closeShort quote ds).map fun (text, rest) => (c :: d :: text, rest)
    else (closeShort quote cs).map fun (text, rest) => (c :: text, rest)

/-- The text up to the three quotes that close a long string, and what follows. Of more than three
quotes the last three close the string; there may be five at most. -/
def closeLong (quote : Char) : List Char → Option (List Char × List Char)
  | [] => none
  | c :: cs =>
    if [quote, quote, quote].isPrefixOf (c :: cs) then
      let rest := cs.drop 2
      let extra := (rest.take 2).takeWhile (· == quote)
      some (extra, rest.drop extra.length)
    else if c == '\x5c' && quote == '\x22' then
      match cs with
      | [] => none
      | d :: ds => (closeLong quote ds).map fun (text, rest) => (c :: d :: text, rest)
    else (closeLong quote cs).map fun (text, rest) => (c :: text, rest)

/-- Reads a string on one line, after its opening quote. -/
def shortString (quote : Char) : Scan String := do
  let text ← closeShort quote
  let decoded ← StateT.lift (if quote == '\x22' then decodeBasic? text else decodeLiteral? text)
  return String.ofList decoded

/-- Reads a long string, after its opening quotes. -/
def longString (quote : Char) : Scan String := do
  let text ← closeLong quote
  let decoded ← StateT.lift
    (if quote == '\x22' then decodeLongBasic? text else decodeLongLiteral? text)
  return String.ofList decoded

/-- Reads a string whose first character is the given quote. -/
def string (quote : Char) : Scan String := do
  if ← accept [quote, quote, quote] then longString quote
  else
    expect [quote]
    shortString quote

/-! ### Keys -/

/-- Whether a character may stand in a key without quotes. -/
def isBareKey (c : Char) : Bool :=
  c.isAlphanum || c == '_' || c == '-'

/-- Reads one part of a key. -/
def keyPart : Scan String := do
  match ← peek with
  | some '\x22' => expect ['\x22']; shortString '\x22'
  | some '\x27' => expect ['\x27']; shortString '\x27'
  | _ =>
    let name ← run isBareKey
    if name.isEmpty then failure
    return String.ofList name

/-- How deeply arrays and inline tables may be nested, and how many parts a key may have. -/
def maxDepth : Nat := 80

/-- Reads a key: the parts before the last, and the last. -/
def key : Scan (List String × String) := do
  let first ← keyPart
  let others ← many do
    skipSpace
    if ← accept ['.'] then
      skipSpace
      return some (← keyPart)
    else return none
  let parts := first :: others
  if parts.length > maxDepth then failure
  return (parts.dropLast, parts.getLastD first)

/-! ### Values -/

/-- Whether a character may stand in a value without quotes. -/
def isPart (c : Char) : Bool :=
  c ∉ [' ', '\t', '\n', '\r', '#', ',', '=', '[', ']', '\x7b', '\x7d', '\x22', '\x27']

/-- Reads what stands without quotes. A date and a time may have a space between them. -/
def bareScalar : Scan Datum := do
  let text ← run isPart
  match ← get with
  | ' ' :: c :: _ =>
    if isDate text && c.isDigit then
      expect [' ']
      let time ← run isPart
      StateT.lift (scalar? (text ++ ' ' :: time))
    else StateT.lift (scalar? text)
  | _ => StateT.lift (scalar? text)

/-- Reads the rest of a list of items up to the sign that closes it. Between the items stand commas,
and one may stand after the last. -/
def listed {α : Type} (close : Char) (item : Scan α) : Scan (List α) :=
  many do
    skipLines
    if ← accept [close] then return none
    let a ← item
    skipLines
    if !(← accept [',']) then
      if (← peek) ≠ some close then failure
    return some a

/-- Reads a key and its value, between which `skip` passes over white space. -/
def pair (skip : Scan Unit) (value : Scan Datum) : Scan Pair := do
  let (path, name) ← key
  skip
  expect ['=']
  skip
  return ⟨path, name, ← value⟩

/-- Reads an array or an inline table whose parts are read by `inner`. -/
def container (inner : Scan Datum) : Scan Datum := do
  if ← accept ['['] then return .array (← listed ']' inner)
  expect ['\x7b']
  let pairs ← listed '\x7d' (pair skipLines inner)
  let entries ← StateT.lift (Node.addPairs [] pairs)
  return .table (Node.toData entries)

/-- Reads a value: a string, a container, or what stands without quotes. -/
def valueWith (container : Scan Datum) : Scan Datum := do
  match ← peek with
  | some '\x22' => return .string (← string '\x22')
  | some '\x27' => return .string (← string '\x27')
  | some '[' => container
  | some '\x7b' => container
  | _ => bareScalar

/-- Reads a value in which containers are nested at most `depth` levels deep. -/
def value : Nat → Scan Datum
  | 0 => valueWith failure
  | depth + 1 => valueWith (container (value depth))

/-! ### Documents -/

/-- Reads a header. -/
def header : Scan Header := do
  let isArray ← accept ['[', '[']
  if !isArray then expect ['[']
  skipSpace
  let (path, name) ← key
  skipSpace
  expect (if isArray then [']', ']'] else [']'])
  endLine
  return ⟨isArray, path, name⟩

/-- Reads the pairs up to the next header or the end of the text. -/
def pairs : Scan (List Pair) :=
  many do
    skipLines
    skipSpace
    match ← peek with
    | none => return none
    | some '[' => return none
    | _ =>
      let p ← pair skipSpace (value maxDepth)
      endLine
      return some p

/-- Reads the sections of a document. -/
def sections : Scan (List Section) :=
  many do
    if (← peek).isNone then return none
    let h ← header
    return some ⟨h, ← pairs⟩

/-- Reads a document. -/
def document : Scan Datum := do
  let _ ← accept ['\ufeff']
  let first ← pairs
  let others ← sections
  let root ← StateT.lift (Node.addPairs [] first)
  let entries ← StateT.lift (others.foldlM Node.addSection root)
  return .table (Node.toData entries)

/-- The table that a text stands for. -/
def read? (text : String) : Option Datum :=
  (StateT.run document text.toList).map (·.1)

end Reflex.Toml
