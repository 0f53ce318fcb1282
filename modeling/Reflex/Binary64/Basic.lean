/-!
# Binary floating-point numbers

A finite number of the IEEE 754 binary64 format is a sign and a magnitude that counts units of
`2 ^ -1074`, the spacing of the smallest numbers. A count is representable when it is below
`2 ^ 2098` and its binary digits after the first 53 are zeros. Two numbers that differ in their
sign alone are the two zeros.

* `Binary64` is the type of finite numbers, `Binary64.scaled` the exact value in units.
* `Extended` adds the infinities and the undefined result, which arithmetic may produce.
* `Extended.ofRatio` rounds an exact ratio to the nearest number, a tie going to the one whose
  last binary digit is zero. Every operation is its exact result, rounded in this way.
-/

namespace Reflex

/-- Whether a magnitude of `n` units is the magnitude of a finite number. -/
def Representable (n : Nat) : Prop :=
  n < Nat.pow 2 2098 ∧ Nat.pow 2 (n.log2 - 52) ∣ n

instance (n : Nat) : Decidable (Representable n) :=
  inferInstanceAs (Decidable (_ ∧ _))

theorem representable_zero : Representable 0 := by
  constructor
  · apply Nat.two_pow_pos
  · exact Nat.dvd_zero _

/-- A finite binary64 number. -/
structure Binary64 where
  /-- Whether the sign is minus. -/
  negative : Bool
  /-- The magnitude in units of `2 ^ -1074`. -/
  units : Nat
  /-- The magnitude has at most 53 significant binary digits and is in range. -/
  representable : Representable units
deriving DecidableEq

/-- A finite number, an infinity, or the undefined result. -/
inductive Extended where
  | finite (x : Binary64)
  | infinite (negative : Bool)
  | nan
deriving DecidableEq

namespace Binary64

/-- The magnitude of one, in units. -/
def one : Nat := Nat.pow 2 1074

/-- The value in units, with its sign. -/
def scaled (x : Binary64) : Int :=
  if x.negative then -(x.units : Int) else x.units

/-- The zero of the given sign. -/
def zero (negative : Bool) : Binary64 :=
  ⟨negative, 0, representable_zero⟩

instance : Inhabited Binary64 := ⟨zero false⟩

/-- The distance, in units, between a number of `n` units and the next larger one. -/
def spacing (n : Nat) : Nat :=
  Nat.pow 2 (n.log2 - 52)

/-- The integer nearest to `num / den`, a tie going to the even one. -/
def roundDiv (num den : Nat) : Nat :=
  let q := num / den
  let r := num % den
  if 2 * r < den || (2 * r == den && q % 2 == 0) then q else q + 1

/-- The multiple of the spacing at `num / den` that is nearest to it. -/
def roundUnits (num den : Nat) : Nat :=
  let g := spacing (num / den)
  roundDiv num (den * g) * g

/-- Whether the two numbers have the same value; the two zeros do. -/
def sameValue (x y : Binary64) : Bool :=
  x.scaled == y.scaled

/-- Whether the value is an integer. -/
def isInteger (x : Binary64) : Bool :=
  x.units % one == 0

/-- The value without its fraction. -/
def truncate (x : Binary64) : Int :=
  x.scaled.tdiv one

end Binary64

namespace Extended

open Binary64 (one zero roundUnits)

/-- The number nearest to `num / den` units, with the given sign; an infinity when that is out of
range. -/
def ofRatio (negative : Bool) (num den : Nat) : Extended :=
  let n := roundUnits num den
  if h : Representable n then .finite ⟨negative, n, h⟩ else .infinite negative

/-- The number nearest to the integer `n`. -/
def ofInt (n : Int) : Extended :=
  ofRatio (n < 0) (n.natAbs * one) 1

/-- The number of the given sign whose magnitude is nearest to the integer `n`. -/
def ofMagnitude (negative : Bool) (n : Nat) : Extended :=
  ofRatio negative (n * one) 1

/-- Whether the result is a finite number, and which. -/
def finite? : Extended → Option Binary64
  | .finite x => some x
  | _ => none

end Extended

end Reflex
