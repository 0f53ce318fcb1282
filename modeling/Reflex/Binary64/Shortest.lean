import Reflex.Binary64.Basic
import Reflex.Text.Decimal

/-!
# The shortest numeral of a number

The numeral of a finite number has as few significant digits as still read back as that number,
and among the numerals of that length it is the nearest one, a tie going to the even digit.

* `Binary64.shortest` finds the digits: for each length it looks at the two decimals next to the
  number, and the first length at which one of them lies in the interval of reals that round to
  the number wins.
* `Binary64.text` writes them: positionally with at least one digit after the point while the
  decimal exponent is between -5 and 15, otherwise with one digit before the point and a signed
  exponent.
-/

namespace Reflex.Binary64

/-- The largest `k` such that `10 ^ k` is at most `n` units, for `n` below one: the search goes up
from the candidate `-j`. -/
def exponentBelowOne (n : Nat) : Nat → Nat → Int
  | 0, j => -(j : Int)
  | fuel + 1, j => if one ≤ n * Nat.pow 10 j then -(j : Int) else exponentBelowOne n fuel (j + 1)

/-- The decimal exponent of a magnitude of `n` units: the largest `k` such that `10 ^ k` is at
most the magnitude. -/
def decimalExponent (n : Nat) : Int :=
  if one ≤ n then ((Nat.toDigits 10 (n / one)).length : Int) - 1
  else exponentBelowOne n 324 1

/-- A decimal `significand * 10 ^ exponent`. -/
structure Decimal where
  /-- The digits, read as one number. -/
  significand : Nat
  /-- The power of ten they are multiplied by. -/
  exponent : Int

/-- Four times the lower end of the interval of magnitudes that round to `n` units. -/
def lowerQuarters (n : Nat) : Nat :=
  4 * n - (if n = Nat.pow 2 n.log2 && n.log2 > 52 then spacing n else 2 * spacing n)

/-- Four times the upper end of the interval of magnitudes that round to `n` units. -/
def upperQuarters (n : Nat) : Nat :=
  4 * n + 2 * spacing n

/-- Whether `m * p / q` units round to `n` units. The ends of the interval do when the last binary
digit of `n` is zero. -/
def roundsTo (n m p q : Nat) : Bool :=
  let x := 4 * m * p
  let lo := lowerQuarters n * q
  let hi := upperQuarters n * q
  (lo < x && x < hi) || ((lo == x || x == hi) && n / spacing n % 2 == 0)

/-- The decimal with `length` digits that is nearest to `n` units among those that round to it,
where `k` is the decimal exponent of `n`. -/
def nearest? (n : Nat) (k : Int) (length : Nat) : Option Decimal :=
  let e := k - length + 1
  let p := if e < 0 then one else one * Nat.pow 10 e.toNat
  let q := if e < 0 then Nat.pow 10 e.natAbs else 1
  let below := n * q / p
  let gap := n * q % p
  match roundsTo n below p q, roundsTo n (below + 1) p q with
  | true, true =>
    some ⟨if 2 * gap < p || (2 * gap == p && below % 2 == 0) then below else below + 1, e⟩
  | true, false => some ⟨below, e⟩
  | false, true => some ⟨below + 1, e⟩
  | false, false => none

/-- The first decimal found among the lengths from `length` on, `fuel` of them. -/
def shortestFrom (n : Nat) (k : Int) : Nat → Nat → Decimal
  | 0, _ => ⟨n / one, 0⟩
  | fuel + 1, length =>
    match nearest? n k length with
    | some d => d
    | none => shortestFrom n k fuel (length + 1)

/-- Moves the zeros at the end of the significand into the exponent. -/
def Decimal.strip (d : Decimal) : Nat → Decimal
  | 0 => d
  | fuel + 1 =>
    if d.significand % 10 == 0 then strip ⟨d.significand / 10, d.exponent + 1⟩ fuel else d

/-- The shortest decimal that rounds to a magnitude of `n` units, for `n` above zero. -/
def shortest (n : Nat) : Decimal :=
  (shortestFrom n (decimalExponent n) 17 1).strip 17

/-- The digits `ds` with a point after the first `point` of them; zeros fill up on either side, and
at least one digit stands on each side of the point. -/
def positional (ds : List Char) (point : Int) : List Char :=
  if point ≤ 0 then '0' :: '.' :: (List.replicate point.natAbs '0' ++ ds)
  else
    let n := point.toNat
    let whole := ds.take n ++ List.replicate (n - ds.length) '0'
    let part := ds.drop n
    whole ++ '.' :: (if part.isEmpty then ['0'] else part)

/-- The digits `ds` with a point after the first of them, if there are more, and the exponent `k`
with its sign. -/
def scientific (ds : List Char) (k : Int) : List Char :=
  let mantissa := match ds with
    | [] => ['0']
    | [d] => [d]
    | d :: rest => d :: '.' :: rest
  mantissa ++ 'e' :: (if k < 0 then '-' else '+') :: Nat.toDigits 10 k.natAbs

/-- The numeral of a magnitude of `n` units. -/
def magnitudeText (n : Nat) : List Char :=
  if n = 0 then ['0', '.', '0']
  else
    let d := shortest n
    let ds := Nat.toDigits 10 d.significand
    let k := d.exponent + ds.length - 1
    if -5 ≤ k && k ≤ 15 then positional ds (k + 1) else scientific ds k

/-- The shortest numeral of the number. -/
def text (x : Binary64) : String :=
  String.ofList ((if x.negative then ['-'] else []) ++ magnitudeText x.units)

end Reflex.Binary64
