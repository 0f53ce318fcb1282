import Mathlib.Tactic.Tauto
import Reflex.Expr.Eval
import Reflex.Proofs.Expr.Names

/-!
# Expressions see the names in them and nothing else

`Expr.eval_congr` says that an expression has the same value, or the same fault, and asks for the
same events, in any two scopes that agree on the names in it.
-/

namespace Reflex

/-- The names under which an expression may look at the state. -/
def Expr.Reads (e : Expr) (name : String) : Prop :=
  .state name ∈ e.leaves ∨ .ident name ∈ e.leaves

/-- Two scopes that differ at most in what the state holds under other than the given names. -/
structure Scope.Agree (names : String → Prop) (a b : Scope) : Prop where
  library : a.library = b.library
  data : a.data = b.data
  state : ∀ name, names name → a.state.get? name = b.state.get? name

namespace Scope.Agree

variable {names names' : String → Prop} {a b : Scope}

lemma mono (h : Agree names a b) (sub : ∀ name, names' name → names name) : Agree names' a b :=
  ⟨h.library, h.data, fun name mem => h.state name (sub name mem)⟩

lemma lookup (h : Agree names a b) {name : String} (mem : names name) :
    a.lookup name = b.lookup name := by
  rw [Scope.lookup, Scope.lookup, h.data, h.state name mem]

end Scope.Agree

namespace Expr

variable {a b : Scope}

mutual

/-- The value of an expression depends on the names in it and on nothing else in the state. -/
theorem eval_congr : ∀ e : Expr, Scope.Agree e.Reads a b → e.eval a = e.eval b
  | .literal v, _ => by rw [eval, eval]
  | .state name, h => by
    rw [eval, eval, h.lookup (.inl (by simp [leaves]))]
  | .field name, h => by
    rw [eval, eval, h.data]
  | .ident name, h => by
    rw [eval, eval, h.lookup (.inr (by simp [leaves]))]
  | .member base segment, h => by
    rw [eval, eval, eval_congr base (h.mono fun name => by simp [Reads, leaves])]
  | .call name args, h => by
    rw [eval, eval, h.library,
      evalAll_congr args (h.mono fun name => by simp [Reads, leaves])]
  | .unary op operand, h => by
    rw [eval, eval, eval_congr operand (h.mono fun name => by simp [Reads, leaves])]
  | .binary op left right, h => by
    have hLeft : left.eval a = left.eval b :=
      eval_congr left (h.mono fun name => by simp only [Reads, leaves, List.mem_append]; tauto)
    have hRight : right.eval a = right.eval b :=
      eval_congr right (h.mono fun name => by simp only [Reads, leaves, List.mem_append]; tauto)
    cases op <;> simp only [eval, hLeft, hRight]
  | .conditional test yes no, h => by
    have hTest : test.eval a = test.eval b :=
      eval_congr test (h.mono fun name => by simp only [Reads, leaves, List.mem_append]; tauto)
    have hYes : yes.eval a = yes.eval b :=
      eval_congr yes (h.mono fun name => by simp only [Reads, leaves, List.mem_append]; tauto)
    have hNo : no.eval a = no.eval b :=
      eval_congr no (h.mono fun name => by simp only [Reads, leaves, List.mem_append]; tauto)
    rw [eval, eval, hTest, hYes, hNo]

theorem evalAll_congr : ∀ es : List Expr,
    Scope.Agree (fun name => .state name ∈ leavesAll es ∨ .ident name ∈ leavesAll es) a b →
    evalAll a es = evalAll b es
  | [], _ => by rw [evalAll, evalAll]
  | e :: es, h => by
    have hHead : e.eval a = e.eval b :=
      eval_congr e (h.mono fun name => by simp only [Reads, leavesAll, List.mem_append]; tauto)
    have hTail : evalAll a es = evalAll b es :=
      evalAll_congr es (h.mono fun name => by simp only [leavesAll, List.mem_append]; tauto)
    rw [evalAll, evalAll, hHead, hTail]

end

end Expr

end Reflex
