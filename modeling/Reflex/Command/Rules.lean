import Reflex.Command.Argument
import Reflex.Command.Console
import Reflex.Config.File
import Reflex.Rule.File
import Reflex.Session.Open

/-!
# The rule program

The rule program checks rule files, brings them into the form of design trees, and dispatches events
to rules over a stored document.

* `RuleInvocation.ofWords?` reads a command line.
* `RuleInvocation.perform` carries it out.
* `ruleProgram` does both.
-/

namespace Reflex

/-- A command of the rule program. -/
inductive RuleCommand where
  /-- Checks rules and their expressions. -/
  | check (rules : String)
  /-- Lists the state variables of rules. -/
  | refs (rules : String)
  /-- Saves rules as a design tree, in another file if one is named. -/
  | upgrade (rules : String) (output? : Option String)
  /-- Dispatches an event, after the event that starts a session if asked to. -/
  | dispatch (rules : String) (event : Event) (data? : Option String) (initFirst : Bool)
  /-- Shows the stored document, or the value that a path names. -/
  | state (path? : Option String)

/-- A command line of the rule program. -/
structure RuleInvocation where
  /-- The path of the configuration. -/
  config : String
  command : RuleCommand

/-! ### Reading a command line -/

namespace RuleCommand

/-- The options and switches of a command. -/
def flags (name : String) : Flags :=
  if name = "upgrade" then ⟨["config", "output"], [], [('o', "output")]⟩
  else if name = "dispatch" then ⟨["config", "data"], ["init", "alt"], []⟩
  else ⟨["config"], [], []⟩

/-- The command of a name with its arguments. -/
def ofArguments? (name : String) (arguments : List Argument) : Option RuleCommand := do
  match name, Argument.words arguments with
  | "check", [rules] => some (.check rules)
  | "refs", [rules] => some (.refs rules)
  | "upgrade", [rules] => return .upgrade rules (← Argument.value? "output" arguments)
  | "dispatch", [rules, origin, event] =>
    let data? ← Argument.value? "data" arguments
    let initFirst ← Argument.switched? "init" arguments
    let alt ← Argument.switched? "alt" arguments
    return .dispatch rules ⟨origin, modifiedEvent event alt⟩ data? initFirst
  | "state", [] => some (.state none)
  | "state", [path] => some (.state (some path))
  | _, _ => none

/-- The paths of files in a command, which must not be empty. -/
def paths : RuleCommand → List String
  | .check rules => [rules]
  | .refs rules => [rules]
  | .upgrade rules output? => rules :: output?.toList
  | .dispatch rules _ _ _ => [rules]
  | .state _ => []

end RuleCommand

namespace RuleInvocation

/-- The configuration that is named before the command, and the words after it. -/
def leadingConfig? : List String → Option (Option String × List String)
  | [] => none
  | word :: words =>
    match Argument.Form.ofWord word, words with
    | .plain, _ => some (none, word :: words)
    | .long "config" (some config), _ => some (some config, words)
    | .long "config" none, config :: words =>
      if Argument.isValue config then some (some config, words) else none
    | _, _ => none

/-- Reads a command line. A configuration named after the command goes before one named ahead of
it. -/
def ofWords? (words : List String) : Option RuleInvocation := do
  match ← leadingConfig? words with
  | (leading?, name :: words) =>
    let arguments ← Argument.ofWords? (RuleCommand.flags name) words
    let config? ← Argument.value? "config" arguments
    let command ← RuleCommand.ofArguments? name arguments
    let config := (config?.or leading?).getD Config.defaultPath
    if (config :: leading?.toList ++ command.paths).any String.isEmpty then none
    return ⟨config, command⟩
  | _ => none

end RuleInvocation

/-! ### Carrying out a command -/

variable {m : Type → Type} [Monad m] [MonadFiles m]

namespace RuleCommand

/-- Checks rules and their expressions. -/
def runCheck (path : String) : Command m ExitCode := do
  let loaded ← LoadedRules.load path
  for warning in loaded.warnings do
    Command.complain ("warning: " ++ warning.message)
  match loaded.rules.diagnostics with
  | [] =>
    Command.print ("ok: " ++ Text.ofNat loaded.rules.length ++ " rule(s)" ++
      (if loaded.upgraded then " (legacy format)" else ""))
    return .ok
  | diagnostics =>
    for diagnostic in diagnostics do
      Command.complain ("error: " ++ diagnostic.message)
    return .invalid

/-- Lists the state variables of rules. -/
def runRefs (path : String) : Command m ExitCode := do
  let loaded ← LoadedRules.load path
  for name in loaded.rules.references do
    Command.print name
  return .ok

/-- Saves rules as a design tree. -/
def runUpgrade (path target : String) : Command m ExitCode := do
  let loaded ← LoadedRules.load path
  RuleSet.save target loaded.rules
  Command.print ((if loaded.upgraded then "upgraded " else "rewrote ") ++
    Text.ofNat loaded.rules.length ++ " rule(s) to " ++ target)
  return .ok

/-- The event data that a text stands for. -/
def readData : Option String → Command m Fields
  | none => pure []
  | some text => do
    match ← Attempt.within "parse --data" (Attempt.ofExcept .json (Json.readValue text)) with
    | .object fields => return fields
    | _ => throw (.ofCause .eventData)

/-- The line that says what a cycle did. -/
def cycleLine (index : Nat) (c : Cycle) : String :=
  let fired := match c.fired? with
    | some rule => "rule " ++ Text.ofNat rule
    | none => "no rule"
  "cycle " ++ Text.ofNat index ++ ": " ++ c.event.origin ++ "/" ++ c.event.name ++ " -> " ++
    fired ++ " [" ++ String.intercalate ", " c.changes ++ "]"

/-- Dispatches events one after the other, up to the first dispatch that fails. -/
def runEvents : List (Event × Fields) → Session → Command m (ExitCode × Session)
  | [], s => return (.ok, s)
  | (event, data) :: events, s => do
    match s.dispatchAlone event data with
    | (.ok outcome, t) =>
      for (c, index) in outcome.zipIdx do
        Command.print (cycleLine index c)
      runEvents events t
    | (.error e, t) =>
      Command.complain
        ("dispatch " ++ event.origin ++ "/" ++ event.name ++ " failed: " ++ e.message)
      return (.dispatchFailed, t)

/-- Dispatches an event and stores the document that it leaves behind, also if it fails. -/
def runDispatch (configPath rulesPath : String) (event : Event) (data? : Option String)
    (initFirst : Bool) : Command m ExitCode := do
  let config ← Config.load configPath
  let loaded ← LoadedRules.load rulesPath
  let data ← readData data?
  let s ← Session.openStored config loaded.rules
  let start := if initFirst then [((⟨initEvent, initEvent⟩ : Event), ([] : Fields))] else []
  let (code, t) ← runEvents (start ++ [(event, data)]) s
  ExceptT.lift (Session.saveStored config t)
  return code

/-- The text that shows a value by itself. -/
def shown (v : Value) : String :=
  match v with
  | .object _ | .array _ => v.pretty
  | _ => v.display

/-- Shows the stored document, or the value that a path names in it. -/
def runState (configPath : String) (path? : Option String) : Command m ExitCode := do
  let config ← Config.load configPath
  let document ← config.readDocument
  match path? with
  | none => Command.print (Value.object document).pretty
  | some path => Command.print (shown ((Path.lookup? document path).getD .null))
  return .ok

end RuleCommand

/-- Carries out a command line. -/
def RuleInvocation.perform (i : RuleInvocation) : Command m ExitCode :=
  match i.command with
  | .check rules => RuleCommand.runCheck rules
  | .refs rules => RuleCommand.runRefs rules
  | .upgrade rules output? => RuleCommand.runUpgrade rules (output?.getD rules)
  | .dispatch rules event data? initFirst =>
    RuleCommand.runDispatch i.config rules event data? initFirst
  | .state path? => RuleCommand.runState i.config path?

/-- The rule program. -/
def ruleProgram (words : List String) : m (ExitCode × Console) :=
  match RuleInvocation.ofWords? words with
  | some i => Command.run Failure.message i.perform
  | none => return (.usage, ⟨"", "usage: check | refs | upgrade | dispatch | state\n"⟩)

end Reflex
