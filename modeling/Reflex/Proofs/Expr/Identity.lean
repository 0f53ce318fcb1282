import Mathlib.Control.Monad.Basic
import Reflex.Expr.Parser

/-!
# Deciding identity

Values and expressions hold lists of their own kind, and no instance is derived for such types.  The
instances here are made of a comparison by recursion.  With them, and with that for `Except` which
comes with the import, it is computed what the lexer, the parser and a session give on fixed inputs.
Identity is finer than the equality of `Value.same`, which passes over the order of the fields and
compares floating numbers by value.

* `Value.identical_iff` and `Expr.identical_iff` say that the comparisons decide identity.
-/

namespace Reflex

namespace Value

mutual

/-- Whether two values are one and the same. -/
def identical : Value → Value → Bool
  | .null, .null => true
  | .bool b, .bool c => b == c
  | .number n, .number m => n == m
  | .string s, .string t => s == t
  | .array xs, .array ys => identicalItems xs ys
  | .object fs, .object gs => identicalFields fs gs
  | _, _ => false

/-- Whether two lists of values are one and the same. -/
def identicalItems : List Value → List Value → Bool
  | [], [] => true
  | x :: xs, y :: ys => x.identical y && identicalItems xs ys
  | _, _ => false

/-- Whether two lists of fields are one and the same. -/
def identicalFields : List (String × Value) → List (String × Value) → Bool
  | [], [] => true
  | (k, v) :: fs, (l, w) :: gs => k == l && v.identical w && identicalFields fs gs
  | _, _ => false

end

mutual

/-- The comparison of values decides identity. -/
theorem identical_iff : ∀ v w : Value, v.identical w ↔ v = w
  | .null, w => by cases w <;> simp [identical]
  | .bool _, w => by cases w <;> simp [identical]
  | .number _, w => by cases w <;> simp [identical]
  | .string _, w => by cases w <;> simp [identical]
  | .array xs, w => by cases w <;> simp [identical, identicalItems_iff xs]
  | .object fs, w => by cases w <;> simp [identical, identicalFields_iff fs]

/-- The comparison of lists of values decides identity. -/
theorem identicalItems_iff : ∀ xs ys : List Value, identicalItems xs ys ↔ xs = ys
  | [], ys => by cases ys <;> simp [identicalItems]
  | x :: xs, ys => by
    cases ys <;> simp [identicalItems, identical_iff x, identicalItems_iff xs]

/-- The comparison of lists of fields decides identity. -/
theorem identicalFields_iff : ∀ fs gs : List (String × Value), identicalFields fs gs ↔ fs = gs
  | [], gs => by cases gs <;> simp [identicalFields]
  | (_, v) :: fs, gs => by
    cases gs <;> simp [identicalFields, identical_iff v, identicalFields_iff fs, Prod.ext_iff]

end

instance : DecidableEq Value :=
  fun v w => decidable_of_iff _ (identical_iff v w)

end Value

namespace Expr

mutual

/-- Whether two expressions are one and the same. -/
def identical : Expr → Expr → Bool
  | .literal v, .literal w => v == w
  | .state m, .state n => m == n
  | .field m, .field n => m == n
  | .ident m, .ident n => m == n
  | .member d m, .member e n => d.identical e && m == n
  | .call m ds, .call n es => m == n && identicalArgs ds es
  | .unary o d, .unary p e => o == p && d.identical e
  | .binary o d d', .binary p e e' => o == p && d.identical e && d'.identical e'
  | .conditional d d' d'', .conditional e e' e'' =>
    d.identical e && d'.identical e' && d''.identical e''
  | _, _ => false

/-- Whether two lists of expressions are one and the same. -/
def identicalArgs : List Expr → List Expr → Bool
  | [], [] => true
  | d :: ds, e :: es => d.identical e && identicalArgs ds es
  | _, _ => false

end

mutual

/-- The comparison of expressions decides identity. -/
theorem identical_iff : ∀ d e : Expr, d.identical e ↔ d = e
  | .literal _, e => by cases e <;> simp [identical]
  | .state _, e => by cases e <;> simp [identical]
  | .field _, e => by cases e <;> simp [identical]
  | .ident _, e => by cases e <;> simp [identical]
  | .member d _, e => by cases e <;> simp [identical, identical_iff d]
  | .call _ ds, e => by cases e <;> simp [identical, identicalArgs_iff ds]
  | .unary _ d, e => by cases e <;> simp [identical, identical_iff d]
  | .binary _ d d', e => by
    cases e <;> simp [identical, identical_iff d, identical_iff d', and_assoc]
  | .conditional d d' d'', e => by
    cases e <;> simp [identical, identical_iff d, identical_iff d', identical_iff d'', and_assoc]

/-- The comparison of lists of expressions decides identity. -/
theorem identicalArgs_iff : ∀ ds es : List Expr, identicalArgs ds es ↔ ds = es
  | [], es => by cases es <;> simp [identicalArgs]
  | d :: ds, es => by cases es <;> simp [identicalArgs, identical_iff d, identicalArgs_iff ds]

end

instance : DecidableEq Expr :=
  fun d e => decidable_of_iff _ (identical_iff d e)

end Expr

deriving instance DecidableEq for Token, Tokens, Formula

end Reflex
