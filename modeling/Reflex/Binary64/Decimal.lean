import Reflex.Binary64.Arithmetic
import Reflex.Text.Blank
import Reflex.Text.Decimal

/-!
# Reading decimal numerals as binary64

A numeral is read in one of two ways.

* `Extended.ofDecimal` gives the number nearest to the numeral. The expression language and the
  text of a value read in this way; `Extended.parse?` is the reader for a whole text.
* `Extended.ofParts?` is the reading of numbers in JSON text. It keeps as many leading digits as
  fit into 64 bits and scales them by a power of ten that is itself rounded, so the last digit of
  a long numeral may come out differently; a numeral beyond the largest number is refused.
-/

namespace Reflex.Extended

open Binary64 (one zero)

/-- The number nearest to `significand * 10 ^ exponent`. -/
def ofDecimal (negative : Bool) (significand : Nat) (exponent : Int) : Extended :=
  if significand = 0 then .finite (zero negative)
  else if exponent ≥ 0 then
    if exponent > 400 then .infinite negative
    else ofRatio negative (significand * Nat.pow 10 exponent.toNat * one) 1
  else if exponent < -400 - (Nat.toDigits 10 significand).length then .finite (zero negative)
  else ofRatio negative (significand * one) (Nat.pow 10 exponent.natAbs)

/-- The sign at the head of a numeral, and what follows it. -/
def splitSign : List Char → Bool × List Char
  | '-' :: cs => (true, cs)
  | '+' :: cs => (false, cs)
  | cs => (false, cs)

/-- The exponent of a numeral: nothing, or `e` with a sign or none and at least one digit. -/
def exponent? : List Char → Option Int
  | [] => some 0
  | c :: cs =>
    if c == 'e' || c == 'E' then
      let (negative, ds) := splitSign cs
      (Text.natural? ds).map fun n => if negative then -(n : Int) else n
    else none

/-- The number an unsigned numeral stands for: digits with a point or none, at least one digit,
and an exponent or none. -/
def unsigned? (negative : Bool) (cs : List Char) : Option Extended :=
  let whole := cs.takeWhile Char.isDigit
  let (part, rest) := match cs.dropWhile Char.isDigit with
    | '.' :: ds => (ds.takeWhile Char.isDigit, ds.dropWhile Char.isDigit)
    | ds => ([], ds)
  if whole.isEmpty && part.isEmpty then none
  else (exponent? rest).map fun e =>
    ofDecimal negative (Nat.ofDigitChars 10 (whole ++ part) 0) (e - part.length)

/-- Reads a whole text as a number: a sign or none, then a numeral or one of the words `inf`,
`infinity` and `nan` in any case. -/
def parse? (cs : List Char) : Option Extended :=
  let (negative, ds) := splitSign cs
  let word := ds.map Char.toLower
  if word = ['i', 'n', 'f'] || word = ['i', 'n', 'f', 'i', 'n', 'i', 't', 'y'] then
    some (.infinite negative)
  else if word = ['n', 'a', 'n'] then some .nan
  else unsigned? negative ds

/-- Divides by `10 ^ n`, in steps of at most `10 ^ 308`. -/
def divTenPow (x : Extended) (n : Nat) : Extended :=
  if n ≤ 308 then x.div (ofDecimal false 1 n)
  else if x = .finite (zero false) then x
  else divTenPow (x.div (ofDecimal false 1 308)) (n - 308)
termination_by n

/-- Scales a significand below 2^64 by a power of ten, each step rounded by itself; nothing when
the number is out of range. -/
def ofParts? (negative : Bool) (significand : Nat) (exponent : Int) : Option Binary64 :=
  let x := ofInt significand
  let scaled :=
    if exponent < 0 then divTenPow x exponent.natAbs
    else if exponent ≤ 308 then x.mul (ofDecimal false 1 exponent)
    else if significand = 0 then x
    else .infinite false
  scaled.finite?.map fun y => { y with negative := negative }

end Reflex.Extended
