import Reflex.Ordered
import Reflex.Rule.Basic
import Reflex.Rule.Fault
import Reflex.Text.Word

/-!
# Compiled rules

Before rules can be applied their expressions are parsed. `RuleSet.compile` parses all of them and
reports every expression that does not parse, in order. `RuleSet.references` lists the state
variables that rules mention, which it finds in the text of the expressions without parsing it.
-/

namespace Reflex

/-- The origins a rule answers. -/
inductive OriginFilter where
  | any
  | named (origin : String)
deriving DecidableEq

namespace OriginFilter

/-- The filter that an origin in a rule stands for. -/
def ofOrigin (origin : String) : OriginFilter :=
  if origin = wildcardOrigin then .any else .named origin

/-- Whether a rule answers events from an origin. -/
def accepts : OriginFilter → String → Bool
  | .any, _ => true
  | .named name, origin => name == origin

end OriginFilter

/-- A rule with its expressions parsed. -/
structure CompiledRule where
  /-- The position of the rule. -/
  index : Nat
  origin : OriginFilter
  conditions : List Formula
  updates : List (String × Formula)

/-- The parse errors in a list of results, each with its place. -/
def Diagnostic.collect {α : Type} (rule : Nat)
    (results : List (ExpressionPlace × Except ParseError α)) : List Diagnostic :=
  results.filterMap fun (place, result) =>
    match result with
    | .ok _ => none
    | .error e => some ⟨rule, place, e⟩

namespace Rule

/-- The conditions of a rule, parsed. -/
def parsedConditions (rule : Rule) : List (ExpressionPlace × Except ParseError Formula) :=
  rule.conditions.zipIdx.map fun (source, i) => (.condition i, Formula.parse source)

/-- The updates of a rule, parsed. -/
def parsedUpdates (rule : Rule) : List (ExpressionPlace × Except ParseError (String × Formula)) :=
  rule.updates.map fun (name, source) =>
    (.update name, (Formula.parse source).map (name, ·))

/-- The expressions of a rule that do not parse. -/
def diagnostics (index : Nat) (rule : Rule) : List Diagnostic :=
  Diagnostic.collect index rule.parsedConditions ++ Diagnostic.collect index rule.parsedUpdates

/-- The rule with those of its expressions that parse. -/
def compile (index : Nat) (rule : Rule) : CompiledRule where
  index := index
  origin := .ofOrigin rule.origin
  conditions := rule.parsedConditions.filterMap (·.2.toOption)
  updates := rule.parsedUpdates.filterMap (·.2.toOption)

end Rule

/-- The names in a text: a dollar sign and at least one word character after it. -/
def stateNames : List Char → List String
  | [] => []
  | c :: cs =>
    if c == '$' then
      let name := cs.takeWhile Text.isWord
      if name.isEmpty then stateNames cs else String.ofList ('$' :: name) :: stateNames cs
    else stateNames cs

namespace RuleSet

/-- The expressions that do not parse. -/
def diagnostics (rules : RuleSet) : List Diagnostic :=
  rules.zipIdx.flatMap fun (rule, index) => rule.diagnostics index

/-- The rules with their expressions parsed. -/
def compile (rules : RuleSet) : Except LoadError (List CompiledRule) :=
  if rules.diagnostics.isEmpty then .ok (rules.zipIdx.map fun (rule, index) => rule.compile index)
  else .error (.compile rules.diagnostics)

/-- The state variables that conditions and new values mention, and those that updates set. -/
def references (rules : RuleSet) : NameSet :=
  let mentioned := rules.flatMap fun rule =>
    (rule.conditions ++ rule.updates.map (·.2)).flatMap fun source => stateNames source.toList
  let targets := rules.flatMap fun rule => rule.updates.map (·.1)
  NameSet.ofList (mentioned ++ targets)

end RuleSet

end Reflex
