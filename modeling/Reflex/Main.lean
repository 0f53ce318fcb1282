import Reflex.Command.Rules
import Reflex.Command.Scenarios

/-!
# The command line

The program runs on the files of the machine. Its first argument `scenarios` stands for the
scenario program with the arguments after it; all other arguments are for the rule program.
-/

namespace Reflex

/-- The failure of an operation on the machine's files. Some operations report their error code with
a minus sign. -/
def FileError.ofError : IO.Error → FileError
  | .noFileOrDirectory .. => .notFound
  | .alreadyExists .. => .exists
  | .inappropriateType _ code details =>
    if code = 20 || -code = 20 then .notDirectory
    else if code = 21 || -code = 21 then .isDirectory
    else .other details
  | .invalidArgument _ code details =>
    if code = 36 || -code = 36 then .nameTooLong else .other details
  | .resourceBusy .. => .busy
  | e => .other (toString e)

/-- An operation on the machine's files. -/
def attemptOnDisk {α : Type} (operation : IO α) : IO (Except FileError α) := do
  match ← operation.toBaseIO with
  | .ok a => return .ok a
  | .error e => return .error (.ofError e)

/-- The text of a file of the machine. -/
def readOnDisk (path : String) : IO (Except FileError String) := do
  match ← attemptOnDisk (IO.FS.readBinFile path) with
  | .error e => return .error e
  | .ok bytes =>
    match String.fromUTF8? bytes with
    | some text => return .ok text
    | none => return .error .notText

instance : MonadFiles IO where
  workingDirectory := return (← IO.currentDir).toString
  pathExists path := do ((← IO.currentDir) / path).pathExists
  readText := readOnDisk
  writeText path text := attemptOnDisk (IO.FS.writeFile path text)
  rename source target := attemptOnDisk (IO.FS.rename source target)
  makeDirectories path :=
    attemptOnDisk (if path.isEmpty then pure () else IO.FS.createDirAll path)
  listDirectory path := attemptOnDisk do
    let entries ← ((← IO.currentDir) / path).readDir
    return NameSet.ofList (entries.toList.map (·.fileName))

/-- The program that a command line names. -/
def program : List String → IO (ExitCode × Console)
  | "scenarios" :: words => scenarioProgram words
  | words => ruleProgram words

end Reflex

def main (words : List String) : IO UInt32 := do
  let (code, console) ← Reflex.program words
  IO.print console.out
  IO.eprint console.err
  return code.number.toUInt32
