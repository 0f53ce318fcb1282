import Reflex.Binary64.Basic

/-!
# Arithmetic on binary floating-point numbers

Sum, difference, product, quotient and remainder, comparison, and rounding to integers. Each
operation on finite numbers computes its exact result in units and rounds it once. A zero result
keeps the sign that the rules of IEEE 754 give it.
-/

namespace Reflex.Extended

open Binary64 (one zero)

/-- The number with the other sign. -/
def neg : Extended → Extended
  | .finite x => .finite { x with negative := !x.negative }
  | .infinite s => .infinite !s
  | .nan => .nan

/-- The magnitude. -/
def abs : Extended → Extended
  | .finite x => .finite { x with negative := false }
  | .infinite _ => .infinite false
  | .nan => .nan

/-- The sum. -/
def add : Extended → Extended → Extended
  | .nan, _ => .nan
  | _, .nan => .nan
  | .infinite s, .infinite t => if s == t then .infinite s else .nan
  | .infinite s, .finite _ => .infinite s
  | .finite _, .infinite t => .infinite t
  | .finite x, .finite y =>
    let sum := x.scaled + y.scaled
    if sum = 0 then .finite (zero (x.negative && y.negative))
    else ofRatio (sum < 0) sum.natAbs 1

/-- The difference. -/
def sub (x y : Extended) : Extended :=
  add x y.neg

/-- The product; zero times an infinity is undefined. -/
def mul : Extended → Extended → Extended
  | .nan, _ => .nan
  | _, .nan => .nan
  | .infinite s, .infinite t => .infinite (s != t)
  | .infinite s, .finite y => if y.units = 0 then .nan else .infinite (s != y.negative)
  | .finite x, .infinite t => if x.units = 0 then .nan else .infinite (x.negative != t)
  | .finite x, .finite y => ofRatio (x.negative != y.negative) (x.units * y.units) one

/-- The quotient; zero by zero and infinity by infinity are undefined. -/
def div : Extended → Extended → Extended
  | .nan, _ => .nan
  | _, .nan => .nan
  | .infinite _, .infinite _ => .nan
  | .infinite s, .finite y => .infinite (s != y.negative)
  | .finite x, .infinite t => .finite (zero (x.negative != t))
  | .finite x, .finite y =>
    let s := x.negative != y.negative
    if y.units = 0 then (if x.units = 0 then .nan else .infinite s)
    else ofRatio s (x.units * one) y.units

/-- What is left of the dividend after taking the divisor away a whole number of times; it has the
sign of the dividend. -/
def rem : Extended → Extended → Extended
  | .nan, _ => .nan
  | _, .nan => .nan
  | .infinite _, _ => .nan
  | .finite x, .infinite _ => .finite x
  | .finite x, .finite y =>
    if y.units = 0 then .nan else ofRatio x.negative (x.units % y.units) 1

/-- The order of two numbers, which an undefined operand does not have. -/
def compare? : Extended → Extended → Option Ordering
  | .nan, _ => none
  | _, .nan => none
  | .infinite s, .infinite t => some (if s == t then .eq else if s then .lt else .gt)
  | .infinite s, .finite _ => some (if s then .lt else .gt)
  | .finite _, .infinite t => some (if t then .gt else .lt)
  | .finite x, .finite y => some (compare x.scaled y.scaled)

/-- Whether two numbers have the same value; an undefined operand equals nothing. -/
def sameValue (x y : Extended) : Bool :=
  compare? x y == some .eq

/-- The smaller of two numbers, or the defined one of them. -/
def min (x y : Extended) : Extended :=
  match compare? x y with
  | some .gt => y
  | some _ => x
  | none => if x = .nan then y else x

/-- The larger of two numbers, or the defined one of them. -/
def max (x y : Extended) : Extended :=
  match compare? x y with
  | some .lt => y
  | some _ => x
  | none => if x = .nan then y else x

/-- Applies a rounding of signed units to an integer, and keeps the sign of a zero. -/
def toWhole (round : Int → Int) : Extended → Extended
  | .finite x => ofMagnitude x.negative (round x.scaled).natAbs
  | x => x

/-- The largest integer that is not above the number. -/
def floor : Extended → Extended :=
  toWhole (Int.fdiv · one)

/-- The smallest integer that is not below the number. -/
def ceil : Extended → Extended :=
  toWhole fun n => -Int.fdiv (-n) one

/-- The nearest integer, a half going away from zero. -/
def round : Extended → Extended :=
  toWhole fun n => (2 * n.natAbs + one) / (2 * one)

end Reflex.Extended
