import Reflex.Session.Open
import Reflex.Scenario.Case

/-!
# Running a scenario

A scenario runs in a session of its own that starts with the scenario's document and has no
listeners. `Case.run` dispatches the events one after the other; a step that fails is kept and the
next one follows.
-/

namespace Reflex

/-- What became of a step. -/
inductive StepResult where
  | completed (outcome : Outcome)
  | failed (message : String)

/-- A step that was run. -/
structure StepRecord where
  origin : String
  event : String
  result : StepResult

/-- What a run of a scenario gave. -/
structure CaseRun where
  steps : List StepRecord
  /-- The document after the last step. -/
  state : Fields

namespace Session

/-- Runs steps one after the other. -/
def runSteps : List Step → Session → List StepRecord × Session
  | [], s => ([], s)
  | step :: steps, s =>
    let (outcome, t) := s.dispatchAlone ⟨step.origin, step.event⟩ step.data
    let result := match outcome with
      | .ok outcome => StepResult.completed outcome
      | .error e => .failed e.message
    let (records, u) := runSteps steps t
    (⟨step.origin, step.event, result⟩ :: records, u)

end Session

namespace Case

/-- The usual configuration with the limits of a scenario. -/
def config (c : Case) : Config :=
  let usual := Config.default
  { usual with
    maxCycles := c.limits.maxCycles?.getD usual.maxCycles
    maxNesting := c.limits.maxNesting?.getD usual.maxNesting
    maxUpdateDepth := c.limits.maxUpdateDepth?.getD usual.maxUpdateDepth }

/-- Starts the session of a scenario. -/
def start (c : Case) : Except Failure Session :=
  match c.config.check with
  | .error flaw => .error (.ofCause (.config flaw))
  | .ok () =>
    (Session.start c.config.sessionOptions .standard c.rules (some (Value.object c.state).compact))
      |>.mapError OpenError.failure

/-- Runs a scenario. -/
def run (c : Case) : Except Failure CaseRun := do
  let s ← c.start
  let (steps, t) := s.runSteps c.steps
  return ⟨steps, t.store.document⟩

end Case

end Reflex
