import Reflex.Text.CaseTable
import Reflex.Text.Word

/-!
# Upper and lower case

The full Unicode case mappings: one character may become several (`ß` becomes `SS`), and a capital
sigma in lower case depends on its surroundings. It takes the final form `ς` where a cased
character stands before it and none after it, case-ignorable characters not counting.

* `upper` and `lower` map a text.
-/

namespace Reflex.Text

/-- The counterpart of code point `n` that the first run holding it gives. -/
def shifted (runs : List CaseRun) (n : Nat) : Option Nat :=
  (runs.find? fun r => r.first ≤ n && n ≤ r.last && (n - r.first) % r.step == 0).map
    fun r => (Int.ofNat n + r.shift).toNat

/-- The mapping of `c` by runs and expansions; a character that neither holds maps to itself. -/
def mapCase (runs : List CaseRun) (expansions : List (Nat × List Nat)) (c : Char) : List Char :=
  match expansions.lookup c.toNat with
  | some ns => ns.map Char.ofNat
  | none => [((shifted runs c.toNat).map Char.ofNat).getD c]

/-- The upper case of one character. -/
def upperChar (c : Char) : List Char :=
  if c.toNat < 0x80 then
    [if 'a' ≤ c && c ≤ 'z' then Char.ofNat (c.toNat - 32) else c]
  else mapCase upperRuns upperExpansions c

/-- The lower case of one character that stands alone. -/
def lowerChar (c : Char) : List Char :=
  if c.toNat < 0x80 then
    [if 'A' ≤ c && c ≤ 'Z' then Char.ofNat (c.toNat + 32) else c]
  else mapCase lowerRuns lowerExpansions c

/-- Whether `c` is a letter that has case, or counts as one. -/
def isCased (c : Char) : Bool :=
  if c.toNat < 0x80 then c.isAlpha else inRanges casedRanges c

/-- Whether `c` is skipped in the search for the cased neighbours of a sigma. -/
def isCaseIgnorable (c : Char) : Bool :=
  if c.toNat < 0x80 then
    c == '\x27' || c == '.' || c == ':' || c == '^' || c == '\x60'
  else inRanges caseIgnorableRanges c

/-- Whether the first character of `cs` that is not case-ignorable is cased. -/
def startsCased (cs : List Char) : Bool :=
  ((cs.dropWhile isCaseIgnorable).head?.map isCased).getD false

/-- The lower case of `cs`, where `before` holds the characters before it, the nearest first. -/
def lowerFrom (before : List Char) : List Char → List Char
  | [] => []
  | c :: cs =>
    (if c == 'Σ' then [if startsCased before && !startsCased cs then 'ς' else 'σ']
      else lowerChar c) ++ lowerFrom (c :: before) cs

/-- `s` in upper case. -/
def upper (s : String) : String :=
  String.ofList (s.toList.flatMap upperChar)

/-- `s` in lower case. -/
def lower (s : String) : String :=
  String.ofList (lowerFrom [] s.toList)

end Reflex.Text
