import Reflex.Expr.Eval
import Reflex.State.Patch

/-!
# Values computed by an expression

A patch may compute the value of a key from the present one. `PatchOp.ofExpression` does so by an
expression that sees the present value under the name `current`.
-/

namespace Reflex

/-- The value of an expression that sees nothing but the value `current?`, under the name
`current`. An expression that is not valid, fails or gives `null` has none. -/
def Value.computed? (source : String) (current? : Option Value) : Option Value :=
  match Formula.parse source with
  | .error _ => none
  | .ok f =>
    let data := match current? with
      | some v => [("current", v)]
      | none => []
    match (f.eval ⟨.standard, [], data⟩).collected.1 with
    | .ok .null => none
    | .ok v => some v
    | .error _ => none

/-- The operation that computes the value of a key by an expression. -/
def PatchOp.ofExpression (source : String) : PatchOp :=
  .compute (Value.computed? source)

end Reflex
