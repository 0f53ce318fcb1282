import Reflex.Failure

/-!
# Commands

A command of the command line reads and writes files and prints lines. `Console` keeps what it has
printed, also if the command fails later. `Command.run` runs a command and words its failure.
-/

namespace Reflex

/-- What a command has printed. -/
structure Console where
  /-- The output. -/
  out : String
  /-- Warnings and errors. -/
  err : String
deriving DecidableEq

/-- How a program ends. -/
inductive ExitCode where
  | ok
  /-- Something that was read is invalid, or a scenario did not succeed. -/
  | invalid
  /-- A dispatch failed. -/
  | dispatchFailed
  /-- The program does not understand its arguments. -/
  | usage
deriving DecidableEq

/-- The number of an exit code. -/
def ExitCode.number : ExitCode → Nat
  | .ok => 0
  | .invalid => 1
  | .dispatchFailed | .usage => 2

variable {m : Type → Type} [Monad m] [MonadFiles m]

instance : MonadFiles (StateT Console m) where
  workingDirectory := StateT.lift MonadFiles.workingDirectory
  pathExists path := StateT.lift (MonadFiles.pathExists path)
  readText path := StateT.lift (MonadFiles.readText path)
  writeText path text := StateT.lift (MonadFiles.writeText path text)
  rename source target := StateT.lift (MonadFiles.rename source target)
  makeDirectories path := StateT.lift (MonadFiles.makeDirectories path)
  listDirectory path := StateT.lift (MonadFiles.listDirectory path)

/-- A computation over files that prints and may fail. -/
abbrev Command (m : Type → Type) := Attempt (StateT Console m)

namespace Command

/-- Prints a line of output. -/
def print (line : String) : Command m Unit :=
  ExceptT.lift (modify fun c => { c with out := c.out ++ line ++ "\n" })

/-- Prints a warning or an error. -/
def complain (line : String) : Command m Unit :=
  ExceptT.lift (modify fun c => { c with err := c.err ++ line ++ "\n" })

/-- Runs a command, and prints its failure in the given wording. -/
def run (wording : Failure → String) (command : Command m ExitCode) : m (ExitCode × Console) := do
  match ← StateT.run (ExceptT.run command) ⟨"", ""⟩ with
  | (.ok code, console) => return (code, console)
  | (.error f, console) =>
    return (.invalid, { console with err := console.err ++ wording f ++ "\n" })

end Command

end Reflex
