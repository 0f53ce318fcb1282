import Reflex.Expr.Library
import Reflex.Expr.Parser

/-!
# Evaluation of expressions

`Expr.eval` gives the value of an expression in a `Scope`: the functions it may call, the state,
and the data of the event at hand. Event data go before state variables of the same name. Calls to
`queue` collect events on the way, and the events collected before a fault stay collected.

* `Eval` is a computation that may fail and collects events.
* `Formula.eval` gives the value of a formula, and `Formula.holds` whether the value is true.
-/

namespace Reflex

/-- What an expression can see. -/
structure Scope where
  library : Library
  state : Fields
  data : Fields

/-- The value of a name: event data first, then state. -/
def Scope.lookup (scope : Scope) (name : String) : Option Value :=
  scope.data.get? name <|> scope.state.get? name

/-- A computation that may fail and collects events, whether it fails or not. -/
abbrev Eval := ExceptT EvalError (StateM (List Event))

namespace Eval

/-- Collects further events. -/
def collect (events : List Event) : Eval Unit :=
  modify (· ++ events)

/-- A result without events. -/
def ofExcept {α : Type} (result : Except EvalError α) : Eval α :=
  ExceptT.mk (pure result)

/-- The result of a computation and the events that it collected. -/
def collected {α : Type} (x : Eval α) : Except EvalError α × List Event :=
  x.run.run []

end Eval

namespace Value

/-- A part of a value: a field of an object, an item of an array, or a length. -/
def member (base : Value) (segment : String) : Value :=
  match base with
  | .object fields => (Fields.get? fields segment).getD .null
  | .array items =>
    if segment == "length" then .ofNat items.length
    else ((Text.index? segment).bind (items[·]?)).getD .null
  | .string s => if segment == "length" then .ofNat s.length else .null
  | _ => .null

/-- The value of an arithmetic operation. -/
def arithmetic (symbol : String) (f : Extended → Extended → Extended) (left right : Value) :
    Except EvalError Value := do
  let x ← left.toNumber symbol
  let y ← right.toNumber symbol
  return .ofExtended (f x y)

/-- The value of a division or remainder; the divisor is read, and tested, before the dividend. -/
def quotient (symbol : String) (f : Extended → Extended → Extended) (left right : Value) :
    Except EvalError Value := do
  let y ← right.toNumber symbol
  if y.sameValue (Extended.ofInt 0) then throw .divisionByZero
  let x ← left.toNumber symbol
  return .ofExtended (f x y)

/-- The sum of two numbers, or the two texts one after the other if either operand is a text. -/
def plus (left right : Value) : Except EvalError Value :=
  match left, right with
  | .string _, _ => .ok (.string (left.display ++ right.display))
  | _, .string _ => .ok (.string (left.display ++ right.display))
  | _, _ => arithmetic "+" Extended.add left right

/-- The value of an operator that evaluates both its operands. For the two logical operators this
is the operand that decides. -/
def binary (op : BinaryOp) (left right : Value) : Except EvalError Value :=
  match op with
  | .or => .ok (if left.truthy then left else right)
  | .and => .ok (if left.truthy then right else left)
  | .eq => .ok (.bool (left.looseEq right))
  | .notEq => .ok (.bool (!left.looseEq right))
  | .lt => (left.order "<" right).map fun o => .bool (o == some .lt)
  | .ltEq => (left.order "<=" right).map fun o => .bool (o == some .lt || o == some .eq)
  | .gt => (left.order ">" right).map fun o => .bool (o == some .gt)
  | .gtEq => (left.order ">=" right).map fun o => .bool (o == some .gt || o == some .eq)
  | .add => plus left right
  | .sub => arithmetic "-" Extended.sub left right
  | .mul => arithmetic "*" Extended.mul left right
  | .div => quotient "/" Extended.div left right
  | .rem => quotient "%" Extended.rem left right

/-- The value of an operator with one operand. -/
def unary (op : UnaryOp) (operand : Value) : Except EvalError Value :=
  match op with
  | .not => .ok (.bool (!operand.truthy))
  | .neg => (operand.toNumber "-").map fun x => .ofExtended x.neg

end Value

namespace Expr

mutual

/-- The value of an expression. -/
def eval (scope : Scope) : Expr → Eval Value
  | .literal v => pure v
  | .state name => pure ((scope.lookup name).getD .null)
  | .field name => pure ((scope.data.get? name).getD .null)
  | .ident name =>
    match scope.lookup name with
    | some v => pure v
    | none => throw (.unknownIdentifier name)
  | .member base segment => do
    let v ← eval scope base
    return v.member segment
  | .call name args =>
    match scope.library.get? name with
    | none => throw (.unknownFunction name)
    | some f => do
      let vs ← evalAll scope args
      Eval.collect (f.events vs)
      Eval.ofExcept (f.result vs)
  | .unary op operand => do
    let v ← eval scope operand
    Eval.ofExcept (Value.unary op v)
  | .binary .and left right => do
    let v ← eval scope left
    if v.truthy then eval scope right else return v
  | .binary .or left right => do
    let v ← eval scope left
    if v.truthy then return v else eval scope right
  | .binary op left right => do
    let v ← eval scope left
    let w ← eval scope right
    Eval.ofExcept (Value.binary op v w)
  | .conditional test yes no => do
    let v ← eval scope test
    if v.truthy then eval scope yes else eval scope no

/-- The values of expressions, from left to right. -/
def evalAll (scope : Scope) : List Expr → Eval (List Value)
  | [] => pure []
  | e :: es => do
    let v ← eval scope e
    let vs ← evalAll scope es
    return v :: vs

end

end Expr

namespace Formula

/-- The value of a formula. -/
def eval (scope : Scope) (f : Formula) : Eval Value :=
  f.expr.eval scope

/-- Whether the value of a formula counts as true. -/
def holds (scope : Scope) (f : Formula) : Eval Bool := do
  let v ← f.eval scope
  return v.truthy

end Formula

end Reflex
