import Reflex.Text.Blank

/-!
# Writing strings of TOML

A string is written in the plainest form that holds it: between double quotes if nothing needs an
escape, else between single quotes, else as a long string, and with escapes only if there is no
other way. A long string begins on a line of its own if it holds a line break.
-/

namespace Reflex.Toml

/-- The forms in which a string can be written. -/
inductive StringForm where
  | basic
  | literal
  | longBasic
  | longLiteral
deriving DecidableEq

namespace StringForm

/-- What stands before and after a string. -/
def delimiter : StringForm → List Char
  | .basic => ['\x22']
  | .literal => ['\x27']
  | .longBasic => ['\x22', '\x22', '\x22']
  | .longLiteral => ['\x27', '\x27', '\x27']

/-- Whether the form has escapes. -/
def hasEscapes : StringForm → Bool
  | .basic | .longBasic => true
  | .literal | .longLiteral => false

/-- Whether the form may hold line breaks. -/
def isLong : StringForm → Bool
  | .longBasic | .longLiteral => true
  | .basic | .literal => false

end StringForm

/-- The length of the longest run of a character. -/
def longestRun (c : Char) (cs : List Char) : Nat :=
  (cs.foldl (fun (longest, current) d =>
    let current := if d == c then current + 1 else 0
    (Nat.max longest current, current)) (0, 0)).1

/-- Whether a control character can only be written by its code. -/
def needsCode (c : Char) : Bool :=
  (c.toNat < 0x20 && c ≠ '\t' && c ≠ '\n') || c.toNat = 0x7F

/-- The plainest form that holds a string. -/
def plainestForm (cs : List Char) : StringForm :=
  let broken := cs.contains '\n'
  let coded := cs.any needsCode
  let escaped := cs.contains '\x5c'
  let double := longestRun '\x22' cs
  let single := longestRun '\x27' cs
  if !coded && !escaped && double = 0 && !broken then .basic
  else if !coded && single = 0 && !broken then .literal
  else if !coded && !escaped && double ≤ 2 then .longBasic
  else if !coded && single ≤ 2 then .longLiteral
  else if broken then .longBasic
  else .basic

/-- A hexadecimal digit, a letter being in upper case. -/
def hexDigit (n : Nat) : Char :=
  (Nat.digitChar n).toUpper

/-- A character by its code of four digits. -/
def codeEscape (c : Char) : List Char :=
  let n := c.toNat
  ['\x5c', 'u', hexDigit (n / 4096), hexDigit (n / 256 % 16), hexDigit (n / 16 % 16),
    hexDigit (n % 16)]

/-- The characters of a string with escapes, where `quotes` double quotes stand right before and at
most `allowed` may stand together. -/
def escapeChars (isLong : Bool) (allowed : Nat) (quotes : Nat) : List Char → List Char
  | [] => []
  | c :: cs =>
    if c == '\x22' then
      if quotes < allowed then c :: escapeChars isLong allowed (quotes + 1) cs
      else '\x5c' :: c :: escapeChars isLong allowed 0 cs
    else
      let written :=
        if c == '\x08' then ['\x5c', 'b']
        else if c == '\t' then ['\x5c', 't']
        else if c == '\n' then (if isLong then ['\n'] else ['\x5c', 'n'])
        else if c == '\x0c' then ['\x5c', 'f']
        else if c == '\r' then ['\x5c', 'r']
        else if c == '\x5c' then ['\x5c', '\x5c']
        else if needsCode c then codeEscape c
        else [c]
      written ++ escapeChars isLong allowed 0 cs

/-- The text of a string. -/
def quote (s : String) : String :=
  let cs := s.toList
  let form := plainestForm cs
  let head := if form.isLong && cs.contains '\n' then ['\n'] else []
  let body :=
    if form.hasEscapes then escapeChars form.isLong (if form.isLong then 2 else 0) 0 cs else cs
  String.ofList (form.delimiter ++ head ++ body ++ form.delimiter)

end Reflex.Toml
