import Reflex.Expr.Eval
import Reflex.Proofs.Rule.References
import Reflex.Proofs.Value.Fields

/-!
# The values that expressions come to

Where the state and the event data hold well-formed values, so do the values of formulas: nearly
every operation comes to a value without fields, and the others pass on a value, or a part of one,
that they were given.

* `Eval.Yields` says of a computation what its value is like, whatever was collected before it.
* `Expr.yields_eval` is about expressions whose literals are well-formed, and
  `Formula.plainLiterals_of_parse` says that those of a formula that was read from a text are.
-/

namespace Reflex

/-! ## Computations -/

namespace Eval

variable {α β : Type} {P : α → Prop} {Q : β → Prop}

/-- If a computation comes to a value, the value has a property. -/
def Yields (P : α → Prop) (x : Eval α) : Prop :=
  ∀ events a, (x.run.run events).1 = .ok a → P a

lemma yields_pure {a : α} (holds : P a) : Yields P (pure a) := by
  intro events b ok
  cases ok
  exact holds

lemma yields_throw (e : EvalError) : Yields P (throw e) := by
  intro events a ok
  cases ok

lemma yields_ofExcept {result : Except EvalError α} (holds : ∀ a, result = .ok a → P a) :
    Yields P (ofExcept result) :=
  fun _ a ok => holds a ok

lemma yields_bind {x : Eval α} {f : α → Eval β} (first : Yields P x)
    (second : ∀ a, P a → Yields Q (f a)) : Yields Q (x >>= f) := by
  intro events b ok
  rw [ExceptT.run_bind, StateT.run_bind] at ok
  cases evaluated : x.run.run events with
  | mk result events' =>
    rw [evaluated] at ok
    cases result with
    | error e => cases ok
    | ok a => exact second a (first events a (by rw [evaluated])) events' b ok

lemma Yields.collected {x : Eval α} (h : Yields P x) {a : α} (ok : x.collected.1 = .ok a) : P a :=
  h [] a ok

end Eval

/-! ## Operations -/

namespace Value

variable {v w : Value}

lemma wellFormed_ofExtended (x : Extended) : (ofExtended x).WellFormed := by
  cases x with
  | finite x =>
    rw [ofExtended]
    split
    · split <;> trivial
    · trivial
  | _ => trivial

/-- A part of a well-formed value is well-formed. -/
lemma WellFormed.member (wellFormed : v.WellFormed) (segment : String) :
    (v.member segment).WellFormed := by
  cases v with
  | object fields =>
    rw [Value.member]
    cases found : Fields.get? fields segment with
    | none => trivial
    | some w => exact Fields.WellFormed.get? wellFormed found
  | array items =>
    rw [Value.member]
    split
    · trivial
    · cases found : (Text.index? segment).bind (items[·]?) with
      | none => trivial
      | some w =>
        obtain ⟨index, -, place⟩ := Option.bind_eq_some_iff.1 found
        exact wellFormedItems_iff.1 wellFormed w (List.mem_of_getElem? place)
  | string s =>
    rw [Value.member]
    split <;> trivial
  | _ => trivial

lemma wellFormed_of_arithmetic {symbol : String} {f : Extended → Extended → Extended}
    {result : Value} (ok : arithmetic symbol f v w = .ok result) : result.WellFormed := by
  obtain ⟨x, -, ok⟩ := bind_eq_ok_iff.1 ok
  obtain ⟨y, -, ok⟩ := bind_eq_ok_iff.1 ok
  cases ok
  exact wellFormed_ofExtended _

lemma wellFormed_of_quotient {symbol : String} {f : Extended → Extended → Extended}
    {result : Value} (ok : quotient symbol f v w = .ok result) : result.WellFormed := by
  obtain ⟨y, -, ok⟩ := bind_eq_ok_iff.1 ok
  split at ok
  · cases ok
  · obtain ⟨x, -, ok⟩ := bind_eq_ok_iff.1 ok
    cases ok
    exact wellFormed_ofExtended _

/-- The two logical operators pass on an operand, and all others come to a value without fields. -/
lemma wellFormed_of_binary (left : v.WellFormed) (right : w.WellFormed) {op : BinaryOp}
    {result : Value} (ok : binary op v w = .ok result) : result.WellFormed := by
  cases op with
  | or | and =>
    cases ok
    split <;> assumption
  | eq | notEq =>
    cases ok
    trivial
  | lt | ltEq | gt | gtEq =>
    obtain ⟨o, -, rfl⟩ := map_eq_ok_iff.1 ok
    trivial
  | add =>
    rw [binary] at ok
    unfold plus at ok
    split at ok
    · cases ok
      trivial
    · cases ok
      trivial
    · exact wellFormed_of_arithmetic ok
  | sub | mul => exact wellFormed_of_arithmetic ok
  | div | rem => exact wellFormed_of_quotient ok

lemma wellFormed_of_unary {op : UnaryOp} {result : Value} (ok : unary op v = .ok result) :
    result.WellFormed := by
  cases op with
  | not =>
    cases ok
    trivial
  | neg =>
    obtain ⟨x, -, rfl⟩ := map_eq_ok_iff.1 ok
    exact wellFormed_ofExtended _

end Value

namespace Builtin

variable {f : Builtin} {args : List Value} {result : Value}

lemma wellFormed_of_ofNumber {name : String} {f : Extended → Extended} {v : Value}
    (ok : ofNumber name f v = .ok result) : result.WellFormed := by
  obtain ⟨x, -, rfl⟩ := map_eq_ok_iff.1 ok
  exact Value.wellFormed_ofExtended _

lemma wellFormed_of_pick {name : String} {f : Extended → Extended → Extended} {v : Value}
    (ok : pick name f v args = .ok result) : result.WellFormed := by
  obtain ⟨x, -, ok⟩ := bind_eq_ok_iff.1 ok
  obtain ⟨xs, -, ok⟩ := bind_eq_ok_iff.1 ok
  cases ok
  exact Value.wellFormed_ofExtended _

/-- Only a choice passes on an argument; all other functions come to a value without fields. -/
lemma wellFormed_of_result (wellFormed : ∀ v ∈ args, v.WellFormed)
    (ok : f.result args = .ok result) : result.WellFormed := by
  unfold Builtin.result at ok
  split at ok
  case h_1 | h_2 | h_3 | h_4 => exact wellFormed_of_ofNumber ok
  case h_5 | h_6 => exact wellFormed_of_pick ok
  case h_7 =>
    obtain ⟨n, -, rfl⟩ := map_eq_ok_iff.1 ok
    trivial
  case h_13 test yes no =>
    cases ok
    split
    · exact wellFormed yes (by simp)
    · exact wellFormed no (by simp)
  all_goals cases ok
  all_goals trivial

end Builtin

/-! ## Expressions -/

/-- The state and the event data are well-formed. -/
structure Scope.WellFormed (scope : Scope) : Prop where
  state : scope.state.WellFormed
  data : scope.data.WellFormed

lemma Scope.WellFormed.lookup {scope : Scope} (wellFormed : scope.WellFormed) {name : String}
    {v : Value} (found : scope.lookup name = some v) : v.WellFormed := by
  rw [Scope.lookup] at found
  cases there : scope.data.get? name with
  | none =>
    rw [there] at found
    exact wellFormed.state.get? found
  | some w =>
    rw [there] at found
    cases found
    exact wellFormed.data.get? there

namespace Expr

/-- Every literal in a list of leaves is well-formed. -/
def PlainLiterals (leaves : List Expr) : Prop :=
  ∀ v, .literal v ∈ leaves → v.WellFormed

lemma PlainLiterals.mono {fewer leaves : List Expr} (plain : PlainLiterals leaves)
    (sub : fewer ⊆ leaves) : PlainLiterals fewer :=
  fun v mem => plain v (sub mem)

lemma PlainLiterals.append {leaves more : List Expr} (plain : PlainLiterals leaves)
    (plain' : PlainLiterals more) : PlainLiterals (leaves ++ more) :=
  fun v mem => (List.mem_append.1 mem).elim (plain v) (plain' v)

/-- A name is no literal. -/
lemma plainLiterals_singleton {leaf : Expr} (name : ∀ v, leaf ≠ .literal v) :
    PlainLiterals [leaf] :=
  fun v mem => absurd (List.mem_singleton.1 mem).symm (name v)

lemma plainLiterals_literal {v : Value} (wellFormed : v.WellFormed) :
    PlainLiterals [.literal v] := by
  intro w mem
  cases List.mem_singleton.1 mem
  exact wellFormed

variable {scope : Scope}

mutual

/-- In a well-formed scope an expression comes to a well-formed value. -/
theorem yields_eval (wellFormed : scope.WellFormed) : ∀ e : Expr, PlainLiterals e.leaves →
    Eval.Yields Value.WellFormed (e.eval scope)
  | .literal v, plain => by
    rw [eval]
    exact Eval.yields_pure (plain v (by simp [leaves]))
  | .state name, _ => by
    rw [eval]
    cases found : scope.lookup name with
    | none => exact Eval.yields_pure trivial
    | some v => exact Eval.yields_pure (wellFormed.lookup found)
  | .field name, _ => by
    rw [eval]
    cases found : scope.data.get? name with
    | none => exact Eval.yields_pure trivial
    | some v => exact Eval.yields_pure (wellFormed.data.get? found)
  | .ident name, _ => by
    rw [eval]
    cases found : scope.lookup name with
    | none => exact Eval.yields_throw _
    | some v => exact Eval.yields_pure (wellFormed.lookup found)
  | .member base segment, plain => by
    rw [eval]
    exact Eval.yields_bind (yields_eval wellFormed base plain) fun v value =>
      Eval.yields_pure (value.member segment)
  | .call name args, plain => by
    rw [eval]
    split
    · exact Eval.yields_throw _
    · refine Eval.yields_bind (yields_evalAll wellFormed args plain) fun vs values => ?_
      refine Eval.yields_bind (P := fun _ => True) (fun _ _ _ => trivial) fun _ _ => ?_
      exact Eval.yields_ofExcept fun v ok => Builtin.wellFormed_of_result values ok
  | .unary op operand, plain => by
    rw [eval]
    exact Eval.yields_bind (yields_eval wellFormed operand plain) fun v _ =>
      Eval.yields_ofExcept fun w ok => Value.wellFormed_of_unary ok
  | .binary op left right, plain => by
    have first := yields_eval wellFormed left (plain.mono (List.subset_append_left _ _))
    have second := yields_eval wellFormed right (plain.mono (List.subset_append_right _ _))
    have both : Eval.Yields Value.WellFormed (do
        let v ← eval scope left
        let w ← eval scope right
        Eval.ofExcept (Value.binary op v w)) :=
      Eval.yields_bind first fun v left => Eval.yields_bind second fun w right =>
        Eval.yields_ofExcept fun result ok => Value.wellFormed_of_binary left right ok
    cases op with
    | and =>
      rw [eval]
      refine Eval.yields_bind first fun v left => ?_
      split
      · exact second
      · exact Eval.yields_pure left
    | or =>
      rw [eval]
      refine Eval.yields_bind first fun v left => ?_
      split
      · exact Eval.yields_pure left
      · exact second
    | _ => simpa only [eval] using both
  | .conditional test yes no, plain => by
    have tested := yields_eval wellFormed test (plain.mono (by simp [leaves]))
    have first := yields_eval wellFormed yes (plain.mono (by simp [leaves]))
    have second := yields_eval wellFormed no (plain.mono (by simp [leaves]))
    rw [eval]
    refine Eval.yields_bind tested fun v _ => ?_
    split
    · exact first
    · exact second

theorem yields_evalAll (wellFormed : scope.WellFormed) : ∀ es : List Expr,
    PlainLiterals (leavesAll es) → Eval.Yields (∀ v ∈ ·, v.WellFormed) (evalAll scope es)
  | [], _ => by
    rw [evalAll]
    exact Eval.yields_pure (by simp)
  | e :: es, plain => by
    have first := yields_eval wellFormed e (plain.mono (List.subset_append_left _ _))
    have more := yields_evalAll wellFormed es (plain.mono (List.subset_append_right _ _))
    rw [evalAll]
    exact Eval.yields_bind first fun v value => Eval.yields_bind more fun vs values =>
      Eval.yields_pure (List.forall_mem_cons.2 ⟨value, values⟩)

end

end Expr

/-! ## Formulas -/

/-- A derivation puts none but well-formed literals into its tree. -/
lemma Grammar.Derives.plainLiterals {d : Nat} {phrase : Phrase} {ts : List TokenKind} {e : Expr}
    (h : Derives d phrase ts e) : Expr.PlainLiterals e.leaves := by
  induction h with
  | tested _ _ _ ihTest ihYes ihNo => exact (ihTest.append ihYes).append ihNo
  | operation _ _ _ ihLeft ihRight => exact ihLeft.append ihRight
  | untested _ ih | tighter _ ih | operand _ ih | sign _ _ ih | unsigned _ ih | start _ ih
  | member _ _ ih | call _ _ ih | parens _ ih => exact ih
  | number x => exact Expr.plainLiterals_literal (Value.wellFormed_ofExtended x)
  | string | true | false | null => exact Expr.plainLiterals_literal trivial
  | state | field | name => exact Expr.plainLiterals_singleton nofun
  | callEmpty => exact fun v mem => absurd mem List.not_mem_nil
  | lastArgument _ ih => exact ih.append fun v mem => absurd mem List.not_mem_nil
  | moreArguments _ _ ihFirst ihMore => exact ihFirst.append ihMore

namespace Formula

variable {source : String} {f : Formula} {scope : Scope}

/-- The literals of a formula that was read from a text are well-formed. -/
lemma plainLiterals_of_parse (parsed : Formula.parse source = .ok f) :
    Expr.PlainLiterals f.expr.leaves := by
  obtain ⟨tokens, -, derives⟩ := Expr.exists_derives_of_parse (expr_of_parse parsed)
  exact derives.plainLiterals

/-- In a well-formed scope a formula comes to a well-formed value. -/
lemma wellFormed_of_eval (wellFormed : scope.WellFormed) (plain : Expr.PlainLiterals f.expr.leaves)
    {v : Value} (ok : (f.eval scope).collected.1 = .ok v) : v.WellFormed :=
  (Expr.yields_eval wellFormed f.expr plain).collected ok

end Formula

end Reflex
