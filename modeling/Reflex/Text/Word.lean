import Reflex.Text.WordTable

/-!
# Names and word characters

Two classes of characters make up names. The expression language and the placeholders of a
template read ASCII names (`isName`); the scans that look for `$name` in raw text take any Unicode
word character (`isWord`), so that the letters of every script belong to a name.
-/

namespace Reflex.Text

/-- Whether `c` lies in one of the `ranges`, whose ends belong to them. -/
def inRanges (ranges : List (Nat × Nat)) (c : Char) : Bool :=
  ranges.any fun (first, last) => first ≤ c.toNat && c.toNat ≤ last

/-- A character that may stand in a name of the expression language: an ASCII letter, an ASCII
digit or an underscore. -/
def isName (c : Char) : Bool :=
  c.isAlphanum || c == '_'

/-- A character that may begin a bare name of the expression language: an ASCII letter or an
underscore. -/
def isNameStart (c : Char) : Bool :=
  c.isAlpha || c == '_'

/-- A Unicode word character: a letter, a mark, a decimal digit, connector punctuation or a join
control. -/
def isWord (c : Char) : Bool :=
  if c.toNat < 0x80 then isName c else inRanges wordRanges c

end Reflex.Text
