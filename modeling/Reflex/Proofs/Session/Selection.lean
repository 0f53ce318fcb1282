import Reflex.Proofs.Session.Firing

/-!
# Which rule is selected

An event is answered by the first of the rules that accept its origin and whose conditions are all
met; a condition that fails is not met.  The rules behind that one are never looked at, so that it
makes no difference whether there are any.

* `CompiledRule.select_eq_find?` says which rule is selected.
* `CompiledRule.considered_eq_flatMap` says which conditions are evaluated on the way, rule by rule,
  and `CompiledRule.examined_eq_take` which of one rule.
* `CompiledRule.select_append` is about rules that are added behind the others.
-/

namespace Reflex

/-- Whether a formula comes to a value that counts as true. -/
def Formula.isMet (scope : Scope) (f : Formula) : Bool :=
  match (f.eval scope).collected.1 with
  | .ok v => v.truthy
  | .error _ => false

/-- Whether a rule answers events from an origin: it accepts the origin, and its conditions are all
met. -/
def CompiledRule.answers (scope : Scope) (origin : String) (rule : CompiledRule) : Bool :=
  rule.origin.accepts origin && rule.conditions.all (Formula.isMet scope)

namespace CompiledRule

variable {scope : Scope} {origin : String} {rule : CompiledRule} {rules more : List CompiledRule}

lemma allHold_cons (condition : Formula) (conditions : List Formula) :
    allHold scope (condition :: conditions) =
      if condition.isMet scope then
        ((allHold scope conditions).1, condition.asks scope ++ (allHold scope conditions).2)
      else (false, condition.asks scope) := by
  rw [allHold, Formula.collected_holds, Formula.isMet]
  cases (condition.eval scope).collected.1 with
  | error e => rfl
  | ok v => cases met : v.truthy <;> simp [Except.map, met]

lemma allHold_eq_all (conditions : List Formula) :
    (allHold scope conditions).1 = conditions.all (Formula.isMet scope) := by
  induction conditions with
  | nil => rfl
  | cons condition conditions ih =>
    rw [allHold_cons, List.all_cons]
    cases condition.isMet scope with
    | false => rfl
    | true => exact ih

lemma applies_eq_answers : (rule.applies scope origin).1 = rule.answers scope origin := by
  rw [applies, answers]
  cases rule.origin.accepts origin with
  | false => rfl
  | true => exact allHold_eq_all rule.conditions

/-- The first rule that answers is selected. -/
lemma select_eq_find? (rules : List CompiledRule) :
    (select scope origin rules).1 = rules.find? (·.answers scope origin) := by
  induction rules with
  | nil => rfl
  | cons rule rules ih =>
    rw [select, List.find?_cons, ← applies_eq_answers]
    cases rule.applies scope origin with
    | mk holds events =>
      cases holds with
      | false => exact ih
      | true => rfl

/-! ## What is evaluated on the way -/

/-- Of the conditions of one rule, those that are met at the beginning are evaluated and the one
after them. -/
lemma examined_eq_take (conditions : List Formula) :
    examined scope conditions =
      conditions.take ((conditions.takeWhile (Formula.isMet scope)).length + 1) := by
  induction conditions with
  | nil => rfl
  | cons condition conditions ih =>
    rw [examined, Formula.collected_holds, List.takeWhile_cons, Formula.isMet]
    cases (condition.eval scope).collected.1 with
    | error e => rfl
    | ok v => cases met : v.truthy <;> simp [Except.map, met, ih]

/-- The rules up to the selected one, or all of them, are looked at. -/
def reached (scope : Scope) (origin : String) (rules : List CompiledRule) : List CompiledRule :=
  match rules.findIdx? (·.answers scope origin) with
  | some i => rules.take (i + 1)
  | none => rules

lemma reached_cons : reached scope origin (rule :: rules) =
    if rule.answers scope origin then [rule] else rule :: reached scope origin rules := by
  rw [reached, List.findIdx?_cons]
  by_cases answers : rule.answers scope origin
  · simp [answers]
  · rw [if_neg answers, if_neg answers, reached]
    cases rules.findIdx? (·.answers scope origin) <;> rfl

/-- The conditions are evaluated rule by rule, for those rules that accept the origin. -/
lemma considered_eq_flatMap (rules : List CompiledRule) :
    considered scope origin rules =
      ((reached scope origin rules).filter (·.origin.accepts origin)).flatMap fun rule =>
        examined scope rule.conditions := by
  induction rules with
  | nil => rfl
  | cons rule rules ih =>
    rw [considered, reached_cons, allHold_eq_all, answers]
    cases accepts : rule.origin.accepts origin with
    | false => simp [accepts, ih]
    | true =>
      cases rule.conditions.all (Formula.isMet scope) with
      | false => simp [accepts, ih]
      | true => simp [accepts]

/-! ## Rules behind the others -/

/-- Rules behind the one that is selected change nothing. -/
lemma select_append (selected : (select scope origin rules).1 = some rule) :
    select scope origin (rules ++ more) = select scope origin rules := by
  induction rules with
  | nil => cases selected
  | cons first rules ih =>
    rw [select] at selected
    rw [List.cons_append, select, select]
    cases applied : first.applies scope origin with
    | mk holds events =>
      rw [applied] at selected
      cases holds with
      | true => rfl
      | false =>
        simp only at selected ⊢
        rw [ih selected]

end CompiledRule

end Reflex
