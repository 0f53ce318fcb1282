import Mathlib.Tactic.Lemma
import Reflex.Expr.Eval

/-!
# Expressions that ask for no event

Events are asked for by calls of one function of the library only.  An expression in which no call
names that function, however deep the call and whatever the name, asks for no event when it is
evaluated, be it that it comes to a value or that it fails on the way.

* `Expr.calls` lists the names that the calls of an expression have.
* `Eval.Silent` is about computations that collect nothing, and `Expr.silent_eval` is the result.
-/

namespace Reflex

/-! ## Computations that collect nothing -/

namespace Eval

variable {α β : Type}

/-- A computation collects nothing, whether it fails or not. -/
def Silent (x : Eval α) : Prop :=
  ∀ events, (x.run.run events).2 = events

lemma silent_pure (a : α) : Silent (pure a) :=
  fun _ => rfl

lemma silent_throw (e : EvalError) : Silent (α := α) (throw e) :=
  fun _ => rfl

lemma silent_ofExcept (result : Except EvalError α) : Silent (ofExcept result) :=
  fun _ => rfl

lemma silent_collect_nil : Silent (collect []) :=
  fun events => List.append_nil events

lemma silent_bind {x : Eval α} {f : α → Eval β} (first : Silent x) (second : ∀ a, Silent (f a)) :
    Silent (x >>= f) := by
  intro events
  have before := first events
  rw [ExceptT.run_bind, StateT.run_bind]
  cases evaluated : x.run.run events with
  | mk result events' =>
    rw [evaluated] at before
    cases result with
    | error e => exact before
    | ok a => exact (second a events').trans before

end Eval

/-! ## Calls -/

namespace Expr

mutual

/-- The names of the functions that an expression calls, at any depth. -/
def calls : Expr → List String
  | .member base _ => base.calls
  | .call name args => name :: callsAll args
  | .unary _ operand => operand.calls
  | .binary _ left right => left.calls ++ right.calls
  | .conditional test yes no => test.calls ++ yes.calls ++ no.calls
  | _ => []

/-- The names of the functions that expressions call, at any depth. -/
def callsAll : List Expr → List String
  | [] => []
  | e :: es => e.calls ++ callsAll es

end

end Expr

namespace Library

/-- None of the names stands for the function that asks for events. -/
def Mutes (library : Library) (names : List String) : Prop :=
  ∀ name ∈ names, library.get? name ≠ some .queue

variable {library : Library} {names more : List String}

instance : Decidable (library.Mutes names) :=
  inferInstanceAs (Decidable (∀ name ∈ names, library.get? name ≠ some .queue))

lemma mutes_append : library.Mutes (names ++ more) ↔ library.Mutes names ∧ library.Mutes more :=
  List.forall_mem_append

lemma Mutes.head {name : String} (mutes : library.Mutes (name :: names)) :
    library.get? name ≠ some .queue ∧ library.Mutes names :=
  List.forall_mem_cons.1 mutes

end Library

/-- All other functions ask for nothing. -/
lemma Builtin.events_of_ne {f : Builtin} (other : f ≠ .queue) (args : List Value) :
    f.events args = [] := by
  cases f <;> first | rfl | exact absurd rfl other

namespace Expr

variable {scope : Scope}

mutual

/-- An expression that does not call the function that asks for events collects nothing. -/
theorem silent_eval : ∀ e : Expr, scope.library.Mutes e.calls → Eval.Silent (e.eval scope)
  | .literal v, _ => by
    rw [eval]
    exact Eval.silent_pure v
  | .state name, _ => by
    rw [eval]
    exact Eval.silent_pure _
  | .field name, _ => by
    rw [eval]
    exact Eval.silent_pure _
  | .ident name, _ => by
    rw [eval]
    split
    · exact Eval.silent_pure _
    · exact Eval.silent_throw _
  | .member base segment, mutes => by
    rw [eval]
    exact Eval.silent_bind (silent_eval base mutes) fun v => Eval.silent_pure _
  | .call name args, mutes => by
    obtain ⟨notQueue, mutesArgs⟩ := Library.Mutes.head mutes
    rw [eval]
    cases found : scope.library.get? name with
    | none => exact Eval.silent_throw _
    | some f =>
      have other : f ≠ .queue := fun same => notQueue (same ▸ found)
      refine Eval.silent_bind (silent_evalAll args mutesArgs) fun vs => ?_
      refine Eval.silent_bind ?_ fun _ => Eval.silent_ofExcept _
      rw [Builtin.events_of_ne other]
      exact Eval.silent_collect_nil
  | .unary op operand, mutes => by
    rw [eval]
    exact Eval.silent_bind (silent_eval operand mutes) fun v => Eval.silent_ofExcept _
  | .binary op left right, mutes => by
    obtain ⟨mutesLeft, mutesRight⟩ := Library.mutes_append.1 mutes
    have first := silent_eval left mutesLeft
    have second := silent_eval right mutesRight
    have both : Eval.Silent (do
        let v ← eval scope left
        let w ← eval scope right
        Eval.ofExcept (Value.binary op v w)) :=
      Eval.silent_bind first fun v => Eval.silent_bind second fun w => Eval.silent_ofExcept _
    cases op with
    | and =>
      rw [eval]
      refine Eval.silent_bind first fun v => ?_
      split
      · exact second
      · exact Eval.silent_pure v
    | or =>
      rw [eval]
      refine Eval.silent_bind first fun v => ?_
      split
      · exact Eval.silent_pure v
      · exact second
    | _ => simpa only [eval] using both
  | .conditional test yes no, mutes => by
    obtain ⟨mutesFirst, mutesNo⟩ := Library.mutes_append.1 mutes
    obtain ⟨mutesTest, mutesYes⟩ := Library.mutes_append.1 mutesFirst
    have first := silent_eval yes mutesYes
    have second := silent_eval no mutesNo
    rw [eval]
    refine Eval.silent_bind (silent_eval test mutesTest) fun v => ?_
    split
    · exact first
    · exact second

theorem silent_evalAll : ∀ es : List Expr, scope.library.Mutes (callsAll es) →
    Eval.Silent (evalAll scope es)
  | [], _ => by
    rw [evalAll]
    exact Eval.silent_pure []
  | e :: es, mutes => by
    obtain ⟨mutesHead, mutesTail⟩ := Library.mutes_append.1 mutes
    rw [evalAll]
    exact Eval.silent_bind (silent_eval e mutesHead) fun v =>
      Eval.silent_bind (silent_evalAll es mutesTail) fun vs => Eval.silent_pure _

end

end Expr

end Reflex
