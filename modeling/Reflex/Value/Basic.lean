import Reflex.Binary64.Arithmetic
import Reflex.Text.Decimal

/-!
# Values

State variables, event data and the results of expressions are JSON values. A number is an integer
that fits into 64 bits, with or without a sign, or a finite binary64 number; the two kinds are
different values even where they stand for the same number. The fields of an object keep the order
in which they were first set.

* `Value` is the type, `Fields` the contents of an object.
* `Fields.put` and `Fields.remove` change one field and leave the others in their places.
* `Value.same` is structural equality: objects are compared without regard to order, and floating
  numbers by value, so that the two zeros are the same.
-/

namespace Reflex

/-- An integer of 64 bits, with or without a sign. -/
def IsWord (n : Int) : Prop :=
  -0x8000000000000000 ≤ n ∧ n < 0x10000000000000000

instance (n : Int) : Decidable (IsWord n) :=
  inferInstanceAs (Decidable (_ ∧ _))

/-- A JSON number. -/
inductive Number where
  | int (n : Int) (isWord : IsWord n)
  | float (x : Binary64)
deriving DecidableEq

/-- A JSON value. -/
inductive Value where
  | null
  | bool (b : Bool)
  | number (n : Number)
  | string (s : String)
  | array (items : List Value)
  | object (fields : List (String × Value))

instance : Inhabited Value := ⟨.null⟩

/-- The fields of an object, in the order in which they were first set. -/
abbrev Fields := List (String × Value)

namespace Fields

/-- The value of a field. -/
def get? (fs : Fields) (key : String) : Option Value :=
  fs.lookup key

/-- Whether there is a field of that name. -/
def has (fs : Fields) (key : String) : Bool :=
  (fs.get? key).isSome

/-- Sets a field: in its place if it is there, at the end if it is new. -/
def put : Fields → String → Value → Fields
  | [], key, v => [(key, v)]
  | (k, w) :: fs, key, v => if k == key then (k, v) :: fs else (k, w) :: put fs key v

/-- Takes a field away; the others keep their order. -/
def remove (fs : Fields) (key : String) : Fields :=
  fs.filter (·.1 != key)

/-- The names of the fields. -/
def names (fs : Fields) : List String :=
  fs.map (·.1)

/-- Sets the fields of a list one after the other: a repeated name keeps its first place and its
last value. -/
def ofList (pairs : List (String × Value)) : Fields :=
  pairs.foldl (fun fs (key, v) => put fs key v) []

end Fields

namespace Number

/-- The number as an operand of arithmetic. -/
def toExtended : Number → Extended
  | .int n _ => Extended.ofInt n
  | .float x => .finite x

/-- Structural equality: the kinds agree, and so do the values. -/
def same : Number → Number → Bool
  | .int n _, .int m _ => n == m
  | .float x, .float y => x.sameValue y
  | _, _ => false

/-- Equality by value alone. -/
def sameValue (n m : Number) : Bool :=
  n.toExtended.sameValue m.toExtended

/-- A count as a number. -/
def ofNat (n : Nat) : Number :=
  if h : IsWord n then .int n h else .float ((Extended.ofInt n).finite?.getD default)

/-- The integer, if the number is one. -/
def int? : Number → Option Int
  | .int n _ => some n
  | .float _ => none

/-- Whether the number is a zero. -/
def isZero : Number → Bool
  | .int n _ => n == 0
  | .float x => x.units == 0

end Number

namespace Value

/-- The kind of a value, as messages name it. -/
def typeName : Value → String
  | .null => "null"
  | .bool _ => "boolean"
  | .number _ => "number"
  | .string _ => "string"
  | .array _ => "array"
  | .object _ => "object"

/-- The value of a computed number: an integral number below `9 * 10 ^ 15` in magnitude is an
integer, and a number that is not finite is `null`. -/
def ofExtended : Extended → Value
  | .finite x =>
    if x.isInteger && x.units < 9000000000000000 * Binary64.one then
      if h : IsWord x.truncate then .number (.int x.truncate h) else .number (.float x)
    else .number (.float x)
  | _ => .null

/-- A count as a value. -/
def ofNat (n : Nat) : Value :=
  .number (.ofNat n)

/-- The object a value is. -/
def fields? : Value → Option Fields
  | .object fs => some fs
  | _ => none

/-- The text a value is. -/
def string? : Value → Option String
  | .string s => some s
  | _ => none

mutual

/-- Structural equality, with the fields of objects in any order. -/
def same : Value → Value → Bool
  | .null, .null => true
  | .bool a, .bool b => a == b
  | .number n, .number m => n.same m
  | .string s, .string t => s == t
  | .array xs, .array ys => sameItems xs ys
  | .object fs, .object gs => fs.length == gs.length && sameFields fs gs
  | _, _ => false

/-- Whether two lists have the same length and the same values at each position. -/
def sameItems : List Value → List Value → Bool
  | [], [] => true
  | x :: xs, y :: ys => same x y && sameItems xs ys
  | _, _ => false

/-- Whether each field of the first list has the same value in the second. -/
def sameFields : List (String × Value) → Fields → Bool
  | [], _ => true
  | (key, v) :: fs, gs =>
    (match gs.get? key with
      | some w => same v w
      | none => false) && sameFields fs gs

end

end Value

end Reflex
