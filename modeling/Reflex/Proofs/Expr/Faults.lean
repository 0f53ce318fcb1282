import Reflex.Expr.Eval
import Reflex.Proofs.Result

/-!
# The faults that evaluation comes to

An expression that is evaluated has been parsed, and no fault of its evaluation reads like a parse
error, whatever names, values and functions it meets.  A fault words the name of a function only
where it is one of the library's own functions that was called with too few or too many arguments.

* `EvalError.IsGenuine` describes the faults, and `EvalError.IsGenuine.message_ne` tells them from
  parse errors.
* `Eval.Fails` is about computations, and `Expr.fails_eval` is the result.
-/

namespace Reflex

/-! ## Faults in words -/

/-- A fault about the number of arguments is about a function of the library. -/
def EvalError.IsGenuine : EvalError → Prop
  | .arity function _ _ => ∃ f : Builtin, function = f.name
  | _ => True

/-- A text begins as its first part does. -/
lemma Text.head?_append {s t : String} {c : Char} (begins : s.toList.head? = some c) :
    (s ++ t).toList.head? = some c := by
  rw [String.toList_append, List.head?_append, begins, Option.some_or]

lemma Builtin.exists_head?_name (f : Builtin) : ∃ c, f.name.toList.head? = some c ∧ c ≠ 'p' := by
  cases f <;> exact ⟨_, rfl, by decide⟩

/-- No genuine fault of evaluation reads like a parse error. -/
lemma EvalError.IsGenuine.message_ne {e : EvalError} (genuine : e.IsGenuine) (p : ParseError) :
    e.message ≠ p.message := by
  have other : ∃ c, e.message.toList.head? = some c ∧ c ≠ 'p' := by
    cases e with
    | unknownIdentifier | unknownFunction =>
      exact ⟨'u', Text.head?_append (Text.head?_append rfl), by decide⟩
    | type => exact ⟨'t', Text.head?_append (Text.head?_append (Text.head?_append rfl)), by decide⟩
    | divisionByZero => exact ⟨'d', rfl, by decide⟩
    | arity function expected found =>
      obtain ⟨f, rfl⟩ := genuine
      obtain ⟨c, name, other⟩ := f.exists_head?_name
      exact ⟨c, Text.head?_append (Text.head?_append (Text.head?_append (Text.head?_append name))),
        other⟩
  have parse : p.message.toList.head? = some 'p' :=
    Text.head?_append (Text.head?_append (Text.head?_append (Text.head?_append
      (Text.head?_append rfl))))
  obtain ⟨c, begins, other⟩ := other
  intro same
  rw [same, parse] at begins
  exact other (Option.some.inj begins).symm

/-! ## Operations -/

namespace Value

variable {v w : Value} {e : EvalError}

lemma genuine_of_toNumber {operation : String} (fails : v.toNumber operation = .error e) :
    e.IsGenuine := by
  unfold toNumber at fails
  split at fails
  case h_4 =>
    split at fails
    · cases fails
    · split at fails
      · cases fails
      · cases fails
        trivial
  case h_5 | h_6 =>
    cases fails
    trivial
  all_goals cases fails

lemma genuine_of_order {operation : String} (fails : v.order operation w = .error e) :
    e.IsGenuine := by
  unfold order at fails
  split at fails
  · cases fails
  · rcases bind_eq_error_iff.1 fails with first | ⟨x, -, fails⟩
    · exact genuine_of_toNumber first
    · rcases bind_eq_error_iff.1 fails with second | ⟨y, -, fails⟩
      · exact genuine_of_toNumber second
      · cases fails

lemma genuine_of_arithmetic {symbol : String} {f : Extended → Extended → Extended}
    (fails : arithmetic symbol f v w = .error e) : e.IsGenuine := by
  rcases bind_eq_error_iff.1 fails with first | ⟨x, -, fails⟩
  · exact genuine_of_toNumber first
  · rcases bind_eq_error_iff.1 fails with second | ⟨y, -, fails⟩
    · exact genuine_of_toNumber second
    · cases fails

lemma genuine_of_quotient {symbol : String} {f : Extended → Extended → Extended}
    (fails : quotient symbol f v w = .error e) : e.IsGenuine := by
  rcases bind_eq_error_iff.1 fails with divisor | ⟨y, -, fails⟩
  · exact genuine_of_toNumber divisor
  · split at fails
    · cases fails
      trivial
    · rcases bind_eq_error_iff.1 fails with dividend | ⟨x, -, fails⟩
      · exact genuine_of_toNumber dividend
      · cases fails

lemma genuine_of_binary {op : BinaryOp} (fails : binary op v w = .error e) : e.IsGenuine := by
  cases op with
  | or | and | eq | notEq => cases fails
  | lt | ltEq | gt | gtEq => exact genuine_of_order (map_eq_error_iff.1 fails)
  | add =>
    rw [binary] at fails
    unfold plus at fails
    split at fails
    · cases fails
    · cases fails
    · exact genuine_of_arithmetic fails
  | sub | mul => exact genuine_of_arithmetic fails
  | div | rem => exact genuine_of_quotient fails

lemma genuine_of_unary {op : UnaryOp} (fails : unary op v = .error e) : e.IsGenuine := by
  cases op with
  | not => cases fails
  | neg => exact genuine_of_toNumber (map_eq_error_iff.1 fails)

end Value

namespace Builtin

variable {f : Builtin} {args : List Value} {e : EvalError}

lemma genuine_of_pick {name : String} {f : Extended → Extended → Extended} {v : Value}
    (fails : pick name f v args = .error e) : e.IsGenuine := by
  have others : ∀ {vs : List Value}, vs.mapM (·.toNumber name) = .error e → e.IsGenuine := by
    intro vs fails
    induction vs with
    | nil => cases fails
    | cons v vs ih =>
      rw [List.mapM_cons] at fails
      rcases bind_eq_error_iff.1 fails with first | ⟨x, -, fails⟩
      · exact Value.genuine_of_toNumber first
      · rcases bind_eq_error_iff.1 fails with more | ⟨xs, -, fails⟩
        · exact ih more
        · cases fails
  rcases bind_eq_error_iff.1 fails with first | ⟨x, -, fails⟩
  · exact Value.genuine_of_toNumber first
  · rcases bind_eq_error_iff.1 fails with more | ⟨xs, -, fails⟩
    · exact others more
    · cases fails

lemma genuine_of_lengthOf {v : Value} (fails : lengthOf v = .error e) : e.IsGenuine := by
  cases v with
  | bool | number =>
    cases fails
    trivial
  | _ => cases fails

/-- Only with a number of arguments that it does not take does a function word its own name. -/
lemma genuine_of_result (fails : f.result args = .error e) : e.IsGenuine := by
  unfold Builtin.result at fails
  split at fails
  case h_1 | h_2 | h_3 | h_4 => exact Value.genuine_of_toNumber (map_eq_error_iff.1 fails)
  case h_5 | h_6 => exact genuine_of_pick fails
  case h_7 => exact genuine_of_lengthOf (map_eq_error_iff.1 fails)
  case h_20 =>
    cases fails
    exact ⟨f, rfl⟩
  all_goals cases fails

end Builtin

/-! ## Expressions -/

namespace Eval

variable {α β : Type} {P : EvalError → Prop}

/-- If a computation fails, the fault has a property. -/
def Fails (P : EvalError → Prop) (x : Eval α) : Prop :=
  ∀ events e, (x.run.run events).1 = .error e → P e

lemma fails_pure (a : α) : Fails P (pure a) := by
  intro events e fails
  cases fails

lemma fails_collect (collected : List Event) : Fails P (collect collected) := by
  intro events e fails
  cases fails

lemma fails_throw {e : EvalError} (holds : P e) : Fails (α := α) P (throw e) := by
  intro events e' fails
  cases fails
  exact holds

lemma fails_ofExcept {result : Except EvalError α} (holds : ∀ e, result = .error e → P e) :
    Fails P (ofExcept result) :=
  fun _ e fails => holds e fails

lemma fails_bind {x : Eval α} {f : α → Eval β} (first : Fails P x) (second : ∀ a, Fails P (f a)) :
    Fails P (x >>= f) := by
  intro events e fails
  rw [ExceptT.run_bind, StateT.run_bind] at fails
  cases evaluated : x.run.run events with
  | mk result events' =>
    rw [evaluated] at fails
    cases result with
    | error e' =>
      cases fails
      exact first events e (by rw [evaluated])
    | ok a => exact second a events' e fails

end Eval

namespace Expr

variable {scope : Scope}

mutual

/-- Whatever an expression is evaluated in, its evaluation fails for genuine faults only. -/
theorem fails_eval : ∀ e : Expr, Eval.Fails EvalError.IsGenuine (e.eval scope)
  | .literal v => by
    rw [eval]
    exact Eval.fails_pure v
  | .state name => by
    rw [eval]
    exact Eval.fails_pure _
  | .field name => by
    rw [eval]
    exact Eval.fails_pure _
  | .ident name => by
    rw [eval]
    split
    · exact Eval.fails_pure _
    · exact Eval.fails_throw trivial
  | .member base segment => by
    rw [eval]
    exact Eval.fails_bind (fails_eval base) fun v => Eval.fails_pure _
  | .call name args => by
    rw [eval]
    split
    · exact Eval.fails_throw trivial
    · refine Eval.fails_bind (fails_evalAll args) fun vs => ?_
      refine Eval.fails_bind (Eval.fails_collect _) fun _ => ?_
      exact Eval.fails_ofExcept fun e fails => Builtin.genuine_of_result fails
  | .unary op operand => by
    rw [eval]
    exact Eval.fails_bind (fails_eval operand) fun v =>
      Eval.fails_ofExcept fun e fails => Value.genuine_of_unary fails
  | .binary op left right => by
    have both : Eval.Fails EvalError.IsGenuine (do
        let v ← eval scope left
        let w ← eval scope right
        Eval.ofExcept (Value.binary op v w)) :=
      Eval.fails_bind (fails_eval left) fun v => Eval.fails_bind (fails_eval right) fun w =>
        Eval.fails_ofExcept fun e fails => Value.genuine_of_binary fails
    have second := fails_eval right
    cases op with
    | and =>
      rw [eval]
      refine Eval.fails_bind (fails_eval left) fun v => ?_
      split
      · exact second
      · exact Eval.fails_pure v
    | or =>
      rw [eval]
      refine Eval.fails_bind (fails_eval left) fun v => ?_
      split
      · exact Eval.fails_pure v
      · exact second
    | _ => simpa only [eval] using both
  | .conditional test yes no => by
    have first := fails_eval yes
    have second := fails_eval no
    rw [eval]
    refine Eval.fails_bind (fails_eval test) fun v => ?_
    split
    · exact first
    · exact second

theorem fails_evalAll : ∀ es : List Expr, Eval.Fails EvalError.IsGenuine (evalAll scope es)
  | [] => by
    rw [evalAll]
    exact Eval.fails_pure []
  | e :: es => by
    rw [evalAll]
    exact Eval.fails_bind (fails_eval e) fun v => Eval.fails_bind (fails_evalAll es) fun vs =>
      Eval.fails_pure _

end

end Expr

/-- The evaluation of a formula fails for genuine faults only. -/
lemma Formula.genuine_of_eval {f : Formula} {scope : Scope} {e : EvalError}
    (fails : (f.eval scope).collected.1 = .error e) : e.IsGenuine :=
  f.expr.fails_eval [] e fails

end Reflex
