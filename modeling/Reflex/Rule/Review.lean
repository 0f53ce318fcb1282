import Reflex.Ordered
import Reflex.Rule.Basic
import Reflex.Text.Blank
import Reflex.Text.Decimal

/-!
# Review of rules

Some rules cannot be applied at all, and others probably do not do what their author meant.
`RuleSet.flaws` lists what makes a set of rules unusable and `RuleSet.warnings` what deserves a
second look; both go through the rules in order, and through the updates of each.
-/

namespace Reflex

/-- What makes a rule unusable. -/
inductive RuleFlaw where
  | noTarget (rule : Nat)
  | dottedTarget (rule : Nat) (stateName : String)
deriving DecidableEq

/-- The wording of a flaw. -/
def RuleFlaw.message : RuleFlaw → String
  | .noTarget rule => "rule " ++ Text.ofNat rule ++ ": update has no state name"
  | .dottedTarget rule stateName =>
    "rule " ++ Text.ofNat rule ++ ": update target \x27" ++ stateName ++
      "\x27 must be a top-level name"

/-- What an author may not have meant. -/
inductive RuleWarning where
  /-- No event comes from the empty origin. -/
  | emptyOrigin (rule : Nat)
  /-- Expressions cannot refer to the target by a `$` name. -/
  | bareTarget (rule : Nat) (stateName : String)
  | repeatedTarget (rule : Nat) (stateName : String)
deriving DecidableEq

/-- The wording of a warning. -/
def RuleWarning.message : RuleWarning → String
  | .emptyOrigin rule => "rule " ++ Text.ofNat rule ++ ": empty origin never matches"
  | .bareTarget rule stateName =>
    "rule " ++ Text.ofNat rule ++ ": target \x27" ++ stateName ++ "\x27 has no `$` prefix"
  | .repeatedTarget rule stateName =>
    "rule " ++ Text.ofNat rule ++ ": \x27" ++ stateName ++
      "\x27 is assigned more than once; the last value wins"

/-- The flaw of an update, if its target is no name of a state variable. -/
def RuleFlaw.ofTarget? (rule : Nat) (stateName : String) : Option RuleFlaw :=
  if (Text.trim stateName.toList).isEmpty then some (.noTarget rule)
  else if stateName.toList.contains '.' then some (.dottedTarget rule stateName)
  else none

/-- The warnings about the updates of a rule, where `seen` holds the targets before them. -/
def RuleWarning.ofTargets (rule : Nat) (seen : List String) : List String → List RuleWarning
  | [] => []
  | name :: names =>
    (if name.isEmpty || name.toList.head? == some '$' then [] else [.bareTarget rule name]) ++
      (if seen.contains name then [.repeatedTarget rule name] else []) ++
      RuleWarning.ofTargets rule (name :: seen) names

namespace RuleSet

/-- What makes the rules unusable. -/
def flaws (rules : RuleSet) : List RuleFlaw :=
  rules.zipIdx.flatMap fun (rule, index) =>
    rule.updates.filterMap fun (stateName, _) => RuleFlaw.ofTarget? index stateName

/-- What deserves a second look. -/
def warnings (rules : RuleSet) : List RuleWarning :=
  rules.zipIdx.flatMap fun (rule, index) =>
    (if rule.origin.isEmpty then [.emptyOrigin index] else []) ++
      RuleWarning.ofTargets index [] (rule.updates.map (·.1))

end RuleSet

end Reflex
