import Reflex.Command.Argument
import Reflex.Command.Console
import Reflex.Scenario.File

/-!
# The scenario program

The scenario program lists the scenarios of a project, runs them and stores their results, and
reports on the results. Scenarios and results are kept below the working directory.

* `ScenarioCommand.ofWords?` reads a command line.
* `ScenarioCommand.perform` carries it out.
* `scenarioProgram` does both.
-/

namespace Reflex

/-- A command of the scenario program. -/
inductive ScenarioCommand where
  /-- Lists the scenarios with their descriptions. -/
  | list
  /-- Runs one scenario, or all of them. -/
  | run (id? : Option String)
  /-- Reports on the stored results. -/
  | report

namespace ScenarioCommand

/-- Reads a command line. -/
def ofWords? : List String → Option ScenarioCommand
  | [] => none
  | name :: words => do
    let arguments ← Argument.ofWords? ⟨[], [], []⟩ words
    match name, Argument.words arguments with
    | "list", [] => some .list
    | "run", [] => some (.run none)
    | "run", [id] => some (.run (some id))
    | "report", [] => some .report
    | _, _ => none

variable {m : Type → Type} [Monad m] [MonadFiles m]

/-- Where scenarios and results are kept. -/
structure Places where
  cases : String
  results : String

/-- The places below the working directory. -/
def places : Command m Places := do
  let root ← ExceptT.lift MonadFiles.workingDirectory
  let dir := FilePath.join root "scenarios"
  return ⟨FilePath.join dir "cases", FilePath.join dir "results"⟩

/-- Lists the scenarios. -/
def runList : Command m ExitCode := do
  let dirs ← places
  for c in ← Case.discover dirs.cases do
    Command.print (c.id ++ "\t" ++ c.description)
  return .ok

/-- The scenario of a name, or all scenarios. -/
def chosen (dirs : Places) : Option String → Command m (List Case)
  | none => Case.discover dirs.cases
  | some id => do
    let path := FilePath.join dirs.cases (id ++ ".toml")
    if ← ExceptT.lift (MonadFiles.pathExists path) then
      return [← Attempt.within "load case" (Case.load path)]
    else throw (.ofCause (.missingCase id path))

/-- Runs a scenario and stores its result. -/
def runCase (dirs : Places) (c : Case) : Command m Verdict.Overall := do
  let result := c.evaluate
  let path ← result.save dirs.results
  Command.print ("run: case=" ++ result.id ++ " outcome=" ++ result.outcome.title ++ " results=" ++
    path)
  return result.outcome

/-- Runs scenarios; the exit code is good if all of them succeed. -/
def runCases (id? : Option String) : Command m ExitCode := do
  let dirs ← places
  let outcomes ← (← chosen dirs id?).mapM (runCase dirs)
  let worst := outcomes.foldl Verdict.Overall.worse .success
  return if worst = .success then .ok else .invalid

/-- Reports on the stored results. -/
def runReport : Command m ExitCode := do
  let dirs ← places
  let (results, warnings) ← CaseResult.loadAll dirs.results
  let summary := Summary.ofResults results
  Command.print ("report: cases=" ++ Text.ofNat summary.cases)
  Command.print ("report: success=" ++ Text.ofNat summary.success ++ " fail=" ++
    Text.ofNat summary.fail ++ " error=" ++ Text.ofNat summary.error)
  for result in results do
    if let some error := result.error? then
      Command.print ("report: error " ++ result.id ++ " " ++ error)
  for (label, rate) in summary.rates do
    Command.print ("report: check " ++ label ++ " " ++ Text.ofNat rate.passed ++ "/" ++
      Text.ofNat rate.total)
  for warning in warnings do
    Command.complain ("warning: " ++ warning)
  return .ok

/-- Carries out a command line. -/
def perform : ScenarioCommand → Command m ExitCode
  | .list => runList
  | .run id? => runCases id?
  | .report => runReport

end ScenarioCommand

variable {m : Type → Type} [Monad m] [MonadFiles m]

/-- The wording of a failure of the scenario program. -/
def Failure.reported (f : Failure) : String :=
  "Error: " ++ f.report

/-- The scenario program. -/
def scenarioProgram (words : List String) : m (ExitCode × Console) :=
  match ScenarioCommand.ofWords? words with
  | some command => Command.run Failure.reported command.perform
  | none => return (.usage, ⟨"", "usage: list | run [id] | report\n"⟩)

end Reflex
