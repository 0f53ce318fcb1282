import Reflex.Config.Basic
import Reflex.File.Basic
import Reflex.Scenario.Case

/-!
# Failures

What goes wrong in a command has a cause, and the steps of the command on the way to it add what
they were doing. A `Failure` keeps the cause and these contexts.

* `Failure.message` is one line of contexts and cause.
* `Failure.report` is the long form, with the causes below the outermost context.
-/

namespace Reflex

/-- The cause of a failure. -/
inductive Cause where
  | rules (e : LoadError)
  | store (e : StoreError)
  | config (flaw : ConfigFlaw)
  | scenario (flaw : CaseFlaw)
  | file (e : FileError)
  /-- A text is not TOML, or not what is looked for in it. -/
  | toml
  /-- A text is not JSON. -/
  | json (fault : Json.Fault)
  /-- A JSON text is not a stored result. -/
  | result
  | storageKey (key : String)
  /-- Event data that are not an object. -/
  | eventData
  | missingCase (id path : String)
  | repeatedCase (id : String)

/-- The wording of a cause. -/
def Cause.message : Cause → String
  | .rules e => e.message
  | .store e => e.message
  | .config flaw => flaw.message
  | .scenario flaw => flaw.message
  | .file e => e.message
  | .toml => "invalid TOML document"
  | .json fault => fault.message
  | .result => "invalid result"
  | .storageKey key => "invalid storage key \x27" ++ key ++ "\x27"
  | .eventData => "--data must be a JSON object"
  | .missingCase id path => "case " ++ id ++ " not found at " ++ path
  | .repeatedCase id => "duplicate case.id " ++ id

/-- What went wrong, and in the course of what. -/
structure Failure where
  /-- What was being done, the outermost step first. -/
  contexts : List String
  cause : Cause

namespace Failure

/-- A failure without a context. -/
def ofCause (cause : Cause) : Failure := ⟨[], cause⟩

/-- The failure in the course of a further step. -/
def within (context : String) (f : Failure) : Failure :=
  { f with contexts := context :: f.contexts }

/-- The contexts and the cause, the outermost first. -/
def chain (f : Failure) : List String :=
  f.contexts ++ [f.cause.message]

/-- The chain in one line. -/
def message (f : Failure) : String :=
  String.intercalate ": " f.chain

/-- A text whose lines after the first are moved to the right. -/
def indented (width : Nat) (text : String) : String :=
  String.ofList (text.toList.flatMap fun c =>
    if c == '\n' then '\n' :: List.replicate width ' ' else [c])

/-- A cause with its number in the list of causes. -/
def numbered (cause : String) (index : Nat) : String :=
  let number := Text.ofNat index
  "\n" ++ String.ofList (List.replicate (5 - number.length) ' ') ++ number ++ ": " ++
    indented 7 cause

/-- The chain over several lines. A single cause is not numbered. -/
def report (f : Failure) : String :=
  match f.chain with
  | [] => ""
  | [head] => head
  | [head, cause] => head ++ "\n\nCaused by:\n    " ++ indented 4 cause
  | head :: causes =>
    head ++ "\n\nCaused by:" ++ String.join (causes.zipIdx.map fun (cause, i) => numbered cause i)

end Failure

/-- A computation over files that may fail. -/
abbrev Attempt (m : Type → Type) := ExceptT Failure m

namespace Attempt

variable {m : Type → Type} [Monad m] {α ε : Type}

/-- Names the step in which a computation fails. -/
def within (context : String) (x : Attempt m α) : Attempt m α :=
  ExceptT.mk do
    match ← x.run with
    | .ok a => return .ok a
    | .error f => return .error (f.within context)

/-- Takes the result of a step, or fails with its cause. -/
def ofExcept (cause : ε → Cause) (result : Except ε α) : Attempt m α :=
  match result with
  | .ok a => pure a
  | .error e => throw (.ofCause (cause e))

/-- Takes a value that may be missing, or fails. -/
def ofOption (cause : Cause) (value? : Option α) : Attempt m α :=
  match value? with
  | some a => pure a
  | none => throw (.ofCause cause)

/-- An operation on files, which names itself if it fails. -/
def file (context : String) (operation : m (Except FileError α)) : Attempt m α := do
  let result ← (operation : m (Except FileError α))
  within context (ofExcept .file result)

end Attempt

end Reflex
