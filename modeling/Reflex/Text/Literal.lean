import Reflex.Text.HiddenTable
import Reflex.Text.Decimal

/-!
# Quoted literals for the reader's eye

`literal` shows a text between double quotes so that each of its characters can be told: quotes,
backslashes and the common controls by a short escape, any other character that does not print by
its code point in braces.
-/

namespace Reflex.Text

/-- Whether `c` does not print by itself. -/
def isHidden (c : Char) : Bool :=
  if c.toNat < 0x80 then c.toNat < 0x20 || c.toNat == 0x7F else inRanges hiddenRanges c

/-- How a literal shows one character. -/
def literalChar (c : Char) : List Char :=
  if c == '\x00' then ['\x5c', '0']
  else if c == '\t' then ['\x5c', 't']
  else if c == '\n' then ['\x5c', 'n']
  else if c == '\r' then ['\x5c', 'r']
  else if c == '\x22' || c == '\x5c' then ['\x5c', c]
  else if isHidden c then '\x5c' :: 'u' :: '\x7b' :: (Nat.toDigits 16 c.toNat ++ ['\x7d'])
  else [c]

/-- `s` between double quotes, with escapes. -/
def literal (s : String) : String :=
  String.ofList ('\x22' :: (s.toList.flatMap literalChar ++ ['\x22']))

end Reflex.Text
