import Reflex.Rule.Flat
import Reflex.Rule.Review
import Reflex.Rule.Schema

/-!
# Loading a rule document

`LoadedRules.ofDocument` takes a document through every check short of parsing its expressions: a
flat document becomes a design tree, the tree is held against the schema, and the rules in it are
reviewed.
-/

namespace Reflex

/-- Rules that were loaded from a document. -/
structure LoadedRules where
  rules : RuleSet
  /-- Whether the document was in the flat format. -/
  upgraded : Bool
  warnings : List RuleWarning

/-- The rules of a document. -/
def LoadedRules.ofDocument (document : Value) : Except LoadError LoadedRules := do
  let canonical ← match document with
    | .array records => (RuleSet.ofFlat records).map fun rules => rules.toDesign.toValue
    | v => .ok v
  let messages := Schema.ruleDocument.messages canonical
  if !messages.isEmpty then throw (.schema messages)
  let node ← match DesignNode.ofValue? canonical with
    | some node => .ok node
    | none => .error .document
  let rules ← RuleSet.ofDesign node
  if !rules.flaws.isEmpty then throw (.invariants (rules.flaws.map RuleFlaw.message))
  return ⟨rules, isFlat document, rules.warnings⟩

end Reflex
