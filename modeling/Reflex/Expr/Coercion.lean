import Reflex.Binary64.Decimal
import Reflex.Expr.Fault
import Reflex.Json.Printer
import Reflex.Text.Blank

/-!
# Loose readings of a value

Operators take whatever value they are given. `Value.truthy` reads it as a truth value,
`Value.toNumber` as a number, `Value.looseEq` compares a number and a text by the number the text
spells, and `Value.order` compares texts by their code points and anything else as numbers.
-/

namespace Reflex.Value

/-- Whether a value counts as true: nothing, `false`, zero and the empty text do not. -/
def truthy : Value → Bool
  | .null => false
  | .bool b => b
  | .number n => !n.isZero
  | .string s => !s.isEmpty
  | .array _ => true
  | .object _ => true

/-- The number a text spells, white space around it aside. -/
def numeral? (s : String) : Option Extended :=
  Extended.parse? (Text.trim s.toList)

/-- The operand that a value is for the named operation. Nothing and blank text count as zero, and
a truth value as zero or one. -/
def toNumber (operation : String) : Value → Except EvalError Extended
  | .null => .ok (Extended.ofInt 0)
  | .bool b => .ok (Extended.ofInt (if b then 1 else 0))
  | .number n => .ok n.toExtended
  | .string s =>
    if (Text.trim s.toList).isEmpty then .ok (Extended.ofInt 0)
    else match numeral? s with
      | some x => .ok x
      | none => .error (.type operation (.notNumeric s))
  | .array _ => .error (.type operation .notScalar)
  | .object _ => .error (.type operation .notScalar)

/-- Equality that compares numbers by value, and a number with the number that a text spells. -/
def looseEq : Value → Value → Bool
  | .number n, .number m => n.sameValue m
  | .number n, .string s => (numeral? s).any n.toExtended.sameValue
  | .string s, .number n => (numeral? s).any n.toExtended.sameValue
  | v, w => v.same w

/-- The order of two values for the named operation; an undefined number has none. -/
def order (operation : String) : Value → Value → Except EvalError (Option Ordering)
  | .string s, .string t => .ok (some (compare s t))
  | v, w => do
    let x ← v.toNumber operation
    let y ← w.toNumber operation
    return x.compare? y

end Reflex.Value
