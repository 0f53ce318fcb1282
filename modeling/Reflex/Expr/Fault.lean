import Reflex.Text.Decimal

/-!
# Faults of evaluation

An expression that parses may still fail to have a value: it names something unknown, calls a
function with the wrong number of arguments, computes with something that is no number, or divides
by zero. `EvalError` says which, and `EvalError.message` words it.
-/

namespace Reflex

/-- Why a value does not suit an operation. -/
inductive TypeFault where
  /-- The text does not read as a number. -/
  | notNumeric (text : String)
  /-- Arrays and objects have no numeric value. -/
  | notScalar
  /-- Truth values and numbers have no length. -/
  | notSized
deriving DecidableEq

/-- The wording of a type fault. -/
def TypeFault.message : TypeFault → String
  | .notNumeric text => "`" ++ text ++ "` is not a number"
  | .notScalar => "arrays and objects are not numbers"
  | .notSized => "expected a string, array, or object"

/-- How many arguments a function takes. -/
inductive Arity where
  | exactly (n : Nat)
  | atLeast (n : Nat)
deriving DecidableEq

/-- The wording of a number of arguments. -/
def Arity.text : Arity → String
  | .exactly n => Text.ofNat n
  | .atLeast n => "at least " ++ Text.ofNat n

/-- Why an expression has no value. -/
inductive EvalError where
  | unknownIdentifier (name : String)
  | unknownFunction (name : String)
  | arity (function : String) (expected : Arity) (found : Nat)
  | type (operation : String) (fault : TypeFault)
  | divisionByZero
deriving DecidableEq

/-- The wording of an evaluation fault. -/
def EvalError.message : EvalError → String
  | .unknownIdentifier name => "unknown identifier `" ++ name ++ "`"
  | .unknownFunction name => "unknown function `" ++ name ++ "`"
  | .arity function expected found =>
    function ++ "() expects " ++ expected.text ++ " argument(s), got " ++ Text.ofNat found
  | .type operation fault => "type error in `" ++ operation ++ "`: " ++ fault.message
  | .divisionByZero => "division by zero"

end Reflex
