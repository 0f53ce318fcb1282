import Reflex.Value.Basic

/-!
# Expressions

Conditions and new values of rules are written in a small formula language. This module holds its
trees; `Reflex.Expr.Token` and `Reflex.Expr.Parser` read them and `Reflex.Expr.Eval` evaluates
them.
-/

namespace Reflex

/-- An operator with one operand. -/
inductive UnaryOp where
  | not
  | neg
deriving DecidableEq

/-- An operator with two operands. -/
inductive BinaryOp where
  | or | and | eq | notEq | lt | ltEq | gt | gtEq | add | sub | mul | div | rem
deriving DecidableEq

/-- The sign of an operator. -/
def BinaryOp.symbol : BinaryOp → String
  | .or => "||"
  | .and => "&&"
  | .eq => "=="
  | .notEq => "!="
  | .lt => "<"
  | .ltEq => "<="
  | .gt => ">"
  | .gtEq => ">="
  | .add => "+"
  | .sub => "-"
  | .mul => "*"
  | .div => "/"
  | .rem => "%"

/-- A parsed expression. -/
inductive Expr where
  | literal (v : Value)
  /-- A state variable; its name begins with `$`. -/
  | state (name : String)
  /-- A field of the event data. -/
  | field (name : String)
  /-- A bare name, which stands for event data or else for a state variable. -/
  | ident (name : String)
  | member (base : Expr) (segment : String)
  | call (name : String) (args : List Expr)
  | unary (op : UnaryOp) (operand : Expr)
  | binary (op : BinaryOp) (left right : Expr)
  | conditional (test yes no : Expr)

instance : Inhabited Expr := ⟨.literal .null⟩

end Reflex
