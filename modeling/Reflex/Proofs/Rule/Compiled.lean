import Reflex.Proofs.Expr.Identity
import Reflex.Proofs.Rule.References

/-!
# When rules compile

A set of rules compiles exactly when all of its expressions parse, and then no rule loses an update.

* `RuleSet.exists_compile_iff` is about the set.
* `Rule.exists_update_split` finds an update of a rule among those of the compiled rule.
-/

namespace Reflex

deriving instance DecidableEq for CompiledRule

/-- Whether a text parses. -/
def IsExpression (source : String) : Prop :=
  ∃ e, Expr.parse source = .ok e

lemma exists_formula_iff {source : String} :
    (∃ f, Formula.parse source = .ok f) ↔ IsExpression source := by
  simp only [Formula.parse, map_eq_ok_iff, IsExpression]
  constructor
  · rintro ⟨f, e, parsed, -⟩
    exact ⟨e, parsed⟩
  · rintro ⟨e, parsed⟩
    exact ⟨_, e, parsed, rfl⟩

/-- Positions make no difference to what holds of every item. -/
lemma forall_mem_zipIdx_iff {α : Type} {p : α → Prop} {xs : List α} :
    (∀ entry ∈ xs.zipIdx, p entry.1) ↔ ∀ x ∈ xs, p x := by
  conv_rhs => rw [← List.zipIdx_map_fst 0 xs]
  rw [List.forall_mem_map]

lemma Diagnostic.collect_eq_nil_iff {α : Type} {rule : Nat}
    {results : List (ExpressionPlace × Except ParseError α)} :
    collect rule results = [] ↔ ∀ result ∈ results, ∃ a, result.2 = .ok a := by
  rw [collect, List.filterMap_eq_nil_iff]
  refine forall₂_congr fun result _ => ?_
  obtain ⟨place, result⟩ := result
  cases result <;> simp

namespace Rule

variable {rule : Rule} {index : Nat}

/-- Whether the expressions of a rule all parse. -/
structure Parses (rule : Rule) : Prop where
  conditions : ∀ source ∈ rule.conditions, IsExpression source
  updates : ∀ update ∈ rule.updates, IsExpression update.2

lemma diagnostics_eq_nil_iff : rule.diagnostics index = [] ↔ rule.Parses := by
  have conditions : Diagnostic.collect index rule.parsedConditions = [] ↔
      ∀ source ∈ rule.conditions, IsExpression source := by
    simp only [Diagnostic.collect_eq_nil_iff, parsedConditions, List.forall_mem_map,
      exists_formula_iff]
    exact forall_mem_zipIdx_iff
  have updates : Diagnostic.collect index rule.parsedUpdates = [] ↔
      ∀ update ∈ rule.updates, IsExpression update.2 := by
    simp only [Diagnostic.collect_eq_nil_iff, parsedUpdates, List.forall_mem_map, map_eq_ok_iff,
      ← exists_formula_iff]
    refine forall₂_congr fun update _ => ?_
    constructor
    · rintro ⟨u, f, parsed, -⟩
      exact ⟨f, parsed⟩
    · rintro ⟨f, parsed⟩
      exact ⟨_, f, parsed, rfl⟩
  rw [diagnostics, List.append_eq_nil_iff, conditions, updates]
  exact ⟨fun h => ⟨h.1, h.2⟩, fun h => ⟨h.1, h.2⟩⟩

/-- The update of a compiled rule that an update of the rule is parsed to, with those behind it. -/
lemma exists_update_split {target source : String} {f : Formula}
    {earlier later : List (String × String)}
    (split : rule.updates = earlier ++ (target, source) :: later)
    (parsed : Formula.parse source = .ok f) (last : target ∉ later.map Prod.fst) :
    ∃ earlier' later', (rule.compile index).updates = earlier' ++ (target, f) :: later' ∧
      target ∉ later'.map Prod.fst := by
  let parse (update : String × String) : Option (String × Formula) :=
    ((Formula.parse update.2).map (update.1, ·)).toOption
  have updates : (rule.compile index).updates = rule.updates.filterMap parse := by
    rw [compile, parsedUpdates, List.filterMap_map]
    rfl
  have here : parse (target, source) = some (target, f) := by
    simp only [parse, parsed]
    rfl
  refine ⟨earlier.filterMap parse, later.filterMap parse, ?_, fun mem => ?_⟩
  · rw [updates, split, List.filterMap_append, List.filterMap_cons_some here]
  · obtain ⟨u, kept, rfl⟩ := List.mem_map.1 mem
    obtain ⟨update, mem, same⟩ := List.mem_filterMap.1 kept
    refine last (List.mem_map.2 ⟨update, mem, ?_⟩)
    cases read : Formula.parse update.2 with
    | error e => simp [parse, read, Except.map, Except.toOption] at same
    | ok f' =>
      simp only [parse, read, Except.map, Except.toOption, Option.some.injEq] at same
      rw [← same]

end Rule

namespace RuleSet

variable {rules : RuleSet} {compiled : List CompiledRule} {rule : Rule} {index : Nat}

lemma diagnostics_eq_nil_iff : rules.diagnostics = [] ↔ ∀ rule ∈ rules, rule.Parses := by
  simp only [diagnostics, List.flatMap_eq_nil_iff, Rule.diagnostics_eq_nil_iff]
  exact forall_mem_zipIdx_iff

lemma compile_eq_ok_iff : rules.compile = .ok compiled ↔ (∀ rule ∈ rules, rule.Parses) ∧
    compiled = rules.zipIdx.map fun (rule, index) => rule.compile index := by
  rw [compile, ← diagnostics_eq_nil_iff]
  by_cases parses : rules.diagnostics = []
  · simp [parses, eq_comm]
  · simp [parses]

/-- Rules compile exactly when all of their expressions parse. -/
theorem exists_compile_iff : (∃ compiled, rules.compile = .ok compiled) ↔
    ∀ rule ∈ rules, rule.Parses := by
  simp only [compile_eq_ok_iff, exists_and_left, exists_eq, and_true]

/-- The rule at a position is compiled with that position. -/
lemma eq_compile_of_mem (compiles : rules.compile = .ok compiled) {r : CompiledRule}
    (mem : r ∈ compiled) (found : rules[r.index]? = some rule) : r = rule.compile r.index := by
  obtain ⟨-, rfl⟩ := compile_eq_ok_iff.1 compiles
  obtain ⟨⟨rule', index⟩, listed, rfl⟩ := List.mem_map.1 mem
  have there : rules[index]? = some rule' := List.mem_zipIdx_iff_getElem?.1 listed
  obtain rfl : rule' = rule := Option.some.inj (there.symm.trans found)
  rfl

end RuleSet

end Reflex
