import Reflex.Text.Word

/-!
# Numerals

`ofNat` and `ofInt` write integers in decimal without leading zeros. `natural?` reads a run of
decimal digits, `baseValue?` a run of digits in a base up to sixteen, and `index?` a position in a
list as paths write it.
-/

namespace Reflex.Text

/-- `n` in decimal. -/
def ofNat (n : Nat) : String :=
  String.ofList (Nat.toDigits 10 n)

/-- `n` in decimal, with a minus sign when it is negative. -/
def ofInt (n : Int) : String :=
  if n < 0 then "-" ++ ofNat n.natAbs else ofNat n.natAbs

/-- The number a run of decimal digits stands for, unless the run is empty or holds another
character. -/
def natural? (cs : List Char) : Option Nat :=
  if !cs.isEmpty && cs.all Char.isDigit then some (Nat.ofDigitChars 10 cs 0) else none

/-- The position a path segment names: digits, after a plus sign or none, worth less than 2^64. -/
def index? (s : String) : Option Nat :=
  let n? := match s.toList with
    | '+' :: cs => natural? cs
    | cs => natural? cs
  n?.filter (· < 0x10000000000000000)

/-- The value of a digit in a base up to sixteen, letters of either case counting from ten. -/
def digitValue? (base : Nat) (c : Char) : Option Nat :=
  let d? :=
    if c.isDigit then some (c.toNat - 48)
    else if 'a' ≤ c && c ≤ 'f' then some (c.toNat - 87)
    else if 'A' ≤ c && c ≤ 'F' then some (c.toNat - 55)
    else none
  d?.filter (· < base)

/-- The value of a run of digits in a base up to sixteen, unless some character is no digit. -/
def baseValue? (base : Nat) (cs : List Char) : Option Nat :=
  cs.foldlM (fun n c => (digitValue? base c).map (base * n + ·)) 0

end Reflex.Text
