/-!
# Occurrences

`occursIn` looks for a text inside another.
-/

namespace Reflex.Text

/-- Whether `needle` stands somewhere in `haystack`. -/
def occursIn (needle : List Char) : List Char → Bool
  | [] => needle.isEmpty
  | c :: cs => needle.isPrefixOf (c :: cs) || occursIn needle cs

end Reflex.Text
