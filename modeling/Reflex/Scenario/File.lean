import Reflex.File.Replace
import Reflex.Scenario.Report
import Reflex.Toml.Reader

/-!
# Files of scenarios and results

`Case.load` reads the scenario of a file, and `Case.discover` those of a directory.
`CaseResult.save` writes a result into a directory, and `CaseResult.loadAll` reads the results of a
directory back; files that hold no result are passed over with a warning.
-/

namespace Reflex

variable {m : Type → Type} [Monad m] [MonadFiles m]

namespace Case

/-- The scenario that a text stands for. -/
def parse (text : String) : Except Failure Case := do
  let c ← match (Toml.read? text).bind ofDatum? with
    | some c => .ok c
    | none => .error ((Failure.ofCause .toml).within "parse case")
  (c.check).mapError fun flaw => .ofCause (.scenario flaw)
  match refusedCheck? c.steps.length c.checks with
  | none => return c
  | some (index, flaw) =>
    .error ((Failure.ofCause (.scenario flaw)).within
      ("checks[" ++ Text.ofNat index ++ "] invalid"))

/-- The scenario of a file. -/
def load (path : String) : Attempt m Case := do
  let text ← Attempt.file ("read case " ++ path) (MonadFiles.readText path)
  Attempt.within ("load case " ++ path) (ExceptT.mk (pure (parse text)))

/-- The first name that two neighbours in a list share. -/
def repeatedId? : List Case → Option String
  | a :: b :: cs => if a.id = b.id then some a.id else repeatedId? (b :: cs)
  | _ => none

/-- The scenarios of a directory, in the order of their names, which must differ. -/
def discover (dir : String) : Attempt m (List Case) := do
  if ← (MonadFiles.pathExists dir : m Bool) then
    let names ← Attempt.file ("read cases dir " ++ dir) (MonadFiles.listDirectory dir)
    let paths := (names.map (FilePath.join dir)).filter (FilePath.extension? · == some "toml")
    let cases ← paths.mapM load
    let sorted := cases.mergeSort fun a b => a.id ≤ b.id
    match repeatedId? sorted with
    | some id => throw (.ofCause (.repeatedCase id))
    | none => return sorted
  else return []

end Case

namespace CaseResult

/-- The file of a result. -/
def path (dir id : String) : String :=
  FilePath.join dir (id ++ ".json")

/-- Writes a result into a directory, and gives the path of its file. -/
def save (dir : String) (r : CaseResult) : Attempt m String := do
  replaceFile "result" dir (path dir r.id) "json" (r.toValue.pretty ++ "\n")
  return path dir r.id

/-- The result that a text stands for. -/
def parse (text : String) : Except Failure CaseResult :=
  match Json.read text with
  | .error fault => .error ((Failure.ofCause (.json fault)).within "parse result")
  | .ok d =>
    match ofDatum? d with
    | some r => .ok r
    | none => .error ((Failure.ofCause .result).within "parse result")

/-- The result of a file. -/
def load (path : String) : Attempt m CaseResult := do
  let text ← Attempt.file ("read " ++ path) (MonadFiles.readText path)
  ExceptT.mk (pure (parse text))

/-- The result of a file, or why there is none, with the path of the file. -/
def attemptLoad (path : String) : m (String × Except Failure CaseResult) := do
  return (path, ← (load path : Attempt m CaseResult).run)

/-- The results of a directory in the order of their names, and a warning for each file that holds
none. -/
def loadAll (dir : String) : Attempt m (List CaseResult × List String) := do
  if ← (MonadFiles.pathExists dir : m Bool) then
    let names ← Attempt.file ("read " ++ dir) (MonadFiles.listDirectory dir)
    let paths := (names.map (FilePath.join dir)).filter (FilePath.extension? · == some "json")
    let loaded ← ExceptT.lift (paths.mapM attemptLoad)
    let results := loaded.filterMap fun (_, result) => result.toOption
    let warnings := loaded.filterMap fun (path, result) =>
      match result with
      | .ok _ => none
      | .error f => some ("skip " ++ path ++ ": " ++ f.message)
    return (results.mergeSort fun a b => a.id ≤ b.id, warnings)
  else return ([], [])

end CaseResult

end Reflex
