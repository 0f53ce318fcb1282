import Reflex.Proofs.Expr.Scope
import Reflex.Proofs.Ordered
import Reflex.Rule.Compiled

/-!
# The references of a set of rules

`RuleSet.references` is found in the text of the rules.  `RuleSet.within_references` relates it to
the compiled rules: whatever a compiled rule sets is a reference, and whatever its expressions may
read is a reference or a name without a dollar sign in front.
-/

namespace Reflex

/-- The keys of the state that rules may look at: their references, and every key that does not
begin with a dollar sign. -/
def RuleSet.Sees (rules : RuleSet) (key : String) : Prop :=
  key ∈ rules.references ∨ key.toList.head? ≠ some '$'

/-- A compiled rule whose expressions read `names` only and which sets `targets` only. -/
structure CompiledRule.Within (names targets : String → Prop) (rule : CompiledRule) : Prop where
  conditions : ∀ f ∈ rule.conditions, ∀ name, f.expr.Reads name → names name
  updates : ∀ u ∈ rule.updates, ∀ name, u.2.expr.Reads name → names name
  targets : ∀ u ∈ rule.updates, targets u.1

lemma Formula.expr_of_parse {source : String} {f : Formula} (h : Formula.parse source = .ok f) :
    Expr.parse source = .ok f.expr := by
  rw [parse] at h
  cases parsed : Expr.parse source with
  | error e =>
    rw [parsed] at h
    cases h
  | ok e =>
    rw [parsed] at h
    cases h
    rfl

namespace Rule

variable {rule : Rule} {index : Nat} {f : Formula}

/-- The conditions of a compiled rule are parsed conditions of the rule. -/
lemma exists_of_mem_conditions (mem : f ∈ (rule.compile index).conditions) :
    ∃ source ∈ rule.conditions, Formula.parse source = .ok f := by
  obtain ⟨⟨place, result⟩, mem, ok⟩ := List.mem_filterMap.1 mem
  obtain ⟨⟨source, i⟩, listed, same⟩ := List.mem_map.1 mem
  cases same
  refine ⟨source, (List.mem_zipIdx listed).2.2 ▸ List.getElem_mem _, ?_⟩
  cases parsed : Formula.parse source with
  | error e => simp [parsed, Except.toOption] at ok
  | ok f' => simpa [parsed, Except.toOption] using ok

/-- The updates of a compiled rule are parsed updates of the rule. -/
lemma exists_of_mem_updates {u : String × Formula} (mem : u ∈ (rule.compile index).updates) :
    ∃ source, (u.1, source) ∈ rule.updates ∧ Formula.parse source = .ok u.2 := by
  obtain ⟨⟨place, result⟩, mem, ok⟩ := List.mem_filterMap.1 mem
  obtain ⟨⟨name, source⟩, listed, same⟩ := List.mem_map.1 mem
  cases same
  cases parsed : Formula.parse source with
  | error e => simp [parsed, Except.toOption, Except.map] at ok
  | ok f' =>
    obtain rfl : (name, f') = u := by simpa [parsed, Except.toOption, Except.map] using ok
    exact ⟨source, listed, parsed⟩

end Rule

namespace RuleSet

variable {rules : RuleSet} {rule : Rule}

lemma mem_references_of_target (mem : rule ∈ rules) {name source : String}
    (update : (name, source) ∈ rule.updates) : name ∈ rules.references := by
  rw [references, NameSet.mem_ofList, List.mem_append]
  exact .inr (List.mem_flatMap.2 ⟨rule, mem, List.mem_map.2 ⟨_, update, rfl⟩⟩)

lemma mem_references_of_text (mem : rule ∈ rules) {source name : String}
    (expression : source ∈ rule.conditions ++ rule.updates.map (·.2))
    (scanned : name ∈ stateNames source.toList) : name ∈ rules.references := by
  rw [references, NameSet.mem_ofList, List.mem_append]
  exact .inl (List.mem_flatMap.2 ⟨rule, mem, List.mem_flatMap.2 ⟨source, expression, scanned⟩⟩)

/-- The rules see what their expressions may read. -/
lemma sees_of_reads (mem : rule ∈ rules) {source : String}
    (expression : source ∈ rule.conditions ++ rule.updates.map (·.2)) {f : Formula}
    (parsed : Formula.parse source = .ok f) {name : String} (reads : f.expr.Reads name) :
    rules.Sees name := by
  have parsed := Formula.expr_of_parse parsed
  rcases reads with state | ident
  · exact .inl (mem_references_of_text mem expression (Expr.state_mem_stateNames parsed state))
  · exact .inr (Expr.ident_head parsed ident)

/-- A compiled rule reads what the rules see and sets what they refer to. -/
theorem within_references {compiled : List CompiledRule} (h : rules.compile = .ok compiled) :
    ∀ rule ∈ compiled, rule.Within rules.Sees (· ∈ rules.references) := by
  rw [compile] at h
  split at h
  · cases h
    intro rule mem
    obtain ⟨⟨rule, index⟩, listed, rfl⟩ := List.mem_map.1 mem
    have mem : rule ∈ rules := (List.mem_zipIdx listed).2.2 ▸ List.getElem_mem _
    refine ⟨fun f hf name reads => ?_, fun u hu name reads => ?_, fun u hu => ?_⟩
    · obtain ⟨source, written, parsed⟩ := Rule.exists_of_mem_conditions hf
      exact sees_of_reads mem (List.mem_append_left _ written) parsed reads
    · obtain ⟨source, written, parsed⟩ := Rule.exists_of_mem_updates hu
      exact sees_of_reads mem (List.mem_append_right _ (List.mem_map.2 ⟨_, written, rfl⟩)) parsed
        reads
    · obtain ⟨source, written, -⟩ := Rule.exists_of_mem_updates hu
      exact mem_references_of_target mem written
  · cases h

end RuleSet

end Reflex
