/-!
# Rules

A rule answers events from one origin: when its conditions hold, its updates give new values to
state variables. Conditions and updates are kept as they were written, in the order of writing; the
rules of a document stand in the order of their priority.
-/

namespace Reflex

/-- A part of a rule. -/
inductive RuleChild where
  /-- An expression that must hold for the rule to fire. -/
  | condition (expression : String)
  /-- A state variable and the expression of its new value. -/
  | update (stateName newValue : String)
deriving DecidableEq

/-- A rule as it was written. -/
structure Rule where
  /-- Where the events come from; `*` stands for every origin. -/
  origin : String
  children : List RuleChild
deriving DecidableEq

namespace Rule

/-- The conditions of a rule, in order. -/
def conditions (rule : Rule) : List String :=
  rule.children.filterMap fun
    | .condition expression => some expression
    | .update _ _ => none

/-- The updates of a rule, in order. -/
def updates (rule : Rule) : List (String × String) :=
  rule.children.filterMap fun
    | .condition _ => none
    | .update stateName newValue => some (stateName, newValue)

/-- The rule with the given conditions and, after them, the given updates. -/
def ofParts (origin : String) (conditions : List String) (updates : List (String × String)) :
    Rule where
  origin := origin
  children := conditions.map .condition ++ updates.map fun (name, value) => .update name value

end Rule

/-- Rules in the order of their priority. -/
abbrev RuleSet := List Rule

/-- The origin that stands for every origin. -/
def wildcardOrigin : String := "*"

end Reflex
