import Reflex.Expr.Eval
import Reflex.Rule.Compiled
import Reflex.State.Patch

/-!
# Choosing and firing a rule

An event is answered by the first rule whose origin accepts it and whose conditions all hold. The
updates of that rule are evaluated in order and gathered in one patch. Both steps only look at a
`Scope`; the events that the evaluated expressions ask for are given beside the result.

* `CompiledRule.allHold` evaluates conditions up to the first that does not hold.
* `CompiledRule.select` goes through the rules up to the first that applies.
* `CompiledRule.patch` evaluates the updates up to the first that fails.
-/

namespace Reflex

namespace CompiledRule

/-- Whether conditions all hold, and the events they ask for. A condition that fails does not hold,
and no condition is evaluated after one that does not hold. -/
def allHold (scope : Scope) : List Formula → Bool × List Event
  | [] => (true, [])
  | condition :: conditions =>
    match (condition.holds scope).collected with
    | (.ok true, events) =>
      let (holds, more) := allHold scope conditions
      (holds, events ++ more)
    | (_, events) => (false, events)

/-- Whether a rule applies to an event, and the events its conditions ask for. -/
def applies (scope : Scope) (origin : String) (rule : CompiledRule) : Bool × List Event :=
  if rule.origin.accepts origin then allHold scope rule.conditions else (false, [])

/-- The first rule that applies to an event, and the events asked for on the way. -/
def select (scope : Scope) (origin : String) :
    List CompiledRule → Option CompiledRule × List Event
  | [] => (none, [])
  | rule :: rules =>
    match rule.applies scope origin with
    | (true, events) => (some rule, events)
    | (false, events) =>
      let (selected, more) := select scope origin rules
      (selected, events ++ more)

/-- The new values of updates in order, and the events asked for; or the state variable of the
first update that fails, and why. -/
def newValues (scope : Scope) :
    List (String × Formula) → Except (String × EvalError) (List (String × Value)) × List Event
  | [] => (.ok [], [])
  | (name, formula) :: updates =>
    match (formula.eval scope).collected with
    | (.error e, events) => (.error (name, e), events)
    | (.ok v, events) =>
      let (values, more) := newValues scope updates
      (values.map ((name, v) :: ·), events ++ more)

/-- The patch that assigns values, a later one in place of an earlier one of the same name. -/
def assigning (values : List (String × Value)) : Patch :=
  values.foldl (fun patch (name, v) => patch.put name (.assign v)) []

/-- The patch of a rule, and the events its updates ask for. -/
def patch (scope : Scope) (rule : CompiledRule) :
    Except (String × EvalError) Patch × List Event :=
  let (values, events) := newValues scope rule.updates
  (values.map assigning, events)

end CompiledRule

end Reflex
