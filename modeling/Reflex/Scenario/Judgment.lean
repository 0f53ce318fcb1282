import Reflex.Scenario.Run
import Reflex.Text.Occurrence

/-!
# Judging a run

Each check of a scenario is held against the run, which gives a `Verdict` with what was expected,
what was found, and whether the check passed. A step that failed, or that does not exist, gives
checks of completed steps nothing to find. Numbers are compared by value.
-/

namespace Reflex

/-- What came of a check. -/
inductive Verdict where
  | stateEquals (path : String) (expected actual : Value) (passed : Bool)
  | firedRules (step : Nat) (expected : List Nat) (actual? : Option (List Nat)) (passed : Bool)
  | cycleOrder (step : Nat) (expected : List String) (actual? : Option (List String))
      (passed : Bool)
  | noChanges (step : Nat) (actual? : Option (List String)) (passed : Bool)
  | dispatchFails (step : Nat) (message : String) (actual? : Option String) (passed : Bool)

namespace Verdict

/-- Whether the check passed. -/
def passed : Verdict → Bool
  | .stateEquals _ _ _ passed => passed
  | .firedRules _ _ _ passed => passed
  | .cycleOrder _ _ _ passed => passed
  | .noChanges _ _ passed => passed
  | .dispatchFails _ _ _ passed => passed

/-- The name of a check about a step. -/
def stepLabel (kind : String) (step : Nat) : String :=
  kind ++ "(step " ++ Text.ofNat step ++ ")"

/-- The name of the check in reports. -/
def label : Verdict → String
  | .stateEquals path _ _ _ => "state_equals(" ++ path ++ ")"
  | .firedRules step _ _ _ => stepLabel "fired_rules" step
  | .cycleOrder step _ _ _ => stepLabel "cycle_order" step
  | .noChanges step _ _ => stepLabel "no_changes" step
  | .dispatchFails step _ _ _ => stepLabel "dispatch_fails" step

end Verdict

/-- What came of the checks of a scenario, in order. -/
structure Judgment where
  checks : List Verdict

/-- Whether every check passed. -/
def Judgment.allPassed (j : Judgment) : Bool :=
  j.checks.all Verdict.passed

/-- Whether a value is the expected one; two numbers are compared by value. -/
def Value.isExpected (actual expected : Value) : Bool :=
  match expected, actual with
  | .number n, .number m => n.sameValue m
  | v, w => v.same w

namespace CaseRun

/-- What a step did, if it was completed. -/
def completed? (run : CaseRun) (step : Nat) : Option Outcome :=
  match run.steps[step]?.map StepRecord.result with
  | some (.completed outcome) => some outcome
  | _ => none

/-- How a step failed, if it did. -/
def failed? (run : CaseRun) (step : Nat) : Option String :=
  match run.steps[step]?.map StepRecord.result with
  | some (.failed message) => some message
  | _ => none

/-- Holds a check against the run. -/
def judge (run : CaseRun) : Check → Verdict
  | .stateEquals path expected =>
    let actual := (Path.lookup? run.state path).getD .null
    .stateEquals path expected actual (actual.isExpected expected)
  | .firedRules step expected =>
    let actual? := (run.completed? step).map Outcome.firedRules
    .firedRules step expected actual? (actual? == some expected)
  | .cycleOrder step expected =>
    let actual? := (run.completed? step).map Outcome.origins
    .cycleOrder step expected actual? (actual? == some expected)
  | .noChanges step =>
    let actual? := (run.completed? step).map Outcome.changedKeys
    .noChanges step actual? (actual?.any List.isEmpty)
  | .dispatchFails step message =>
    let actual? := run.failed? step
    .dispatchFails step message actual?
      (actual?.any fun actual => Text.occursIn message.toList actual.toList)

/-- Holds checks against the run. -/
def judgment (run : CaseRun) (checks : List Check) : Judgment :=
  ⟨checks.map run.judge⟩

end CaseRun

end Reflex
