import Reflex.Datum
import Reflex.Rule.Basic
import Reflex.Text.Blank
import Reflex.Text.Decimal

/-!
# Scenarios

A scenario sets up rules and a document, dispatches events step by step, and checks what came of
them. It is written as a TOML file.

* `Case.ofDatum?` takes a scenario out of a table.
* `Case.check` refuses a scenario that makes no sense.
-/

namespace Reflex

/-- An event that a scenario dispatches. -/
structure Step where
  origin : String
  event : String
  data : Fields

/-- What a scenario expects. Steps are counted from zero. -/
inductive Check where
  /-- The value that a path names after the last step. -/
  | stateEquals (path : String) (expected : Value)
  /-- The rules that a step fired, in the order of the cycles. -/
  | firedRules (step : Nat) (rules : List Nat)
  /-- The origins that a step dealt with, in the order of the cycles. -/
  | cycleOrder (step : Nat) (origins : List String)
  /-- A step changed nothing. -/
  | noChanges (step : Nat)
  /-- A step failed, and its message holds a text. -/
  | dispatchFails (step : Nat) (message : String)

/-- The limits that a scenario sets. -/
structure CaseLimits where
  maxCycles? : Option Nat
  maxNesting? : Option Nat
  maxUpdateDepth? : Option Nat

/-- A scenario. -/
structure Case where
  id : String
  description : String
  limits : CaseLimits
  /-- The document at the beginning. -/
  state : Fields
  rules : RuleSet
  steps : List Step
  checks : List Check

/-- What is wrong with a scenario. -/
inductive CaseFlaw where
  | emptyId
  | badId
  | zeroLimit (name : String)
  | noSteps
  | noChecks
  | emptyPath
  | stepOutOfRange (step steps : Nat)
deriving DecidableEq

/-- The wording of a flaw. -/
def CaseFlaw.message : CaseFlaw → String
  | .emptyId => "case.id must be non-empty"
  | .badId => "case.id must use [a-z0-9_-] only"
  | .zeroLimit name => "config." ++ name ++ " must be > 0"
  | .noSteps => "steps must be a non-empty array"
  | .noChecks => "checks must be a non-empty array"
  | .emptyPath => "state_equals.name must be non-empty"
  | .stepOutOfRange step steps =>
    "step " ++ Text.ofNat step ++ " out of range (" ++ Text.ofNat steps ++ " steps)"

/-! ### Reading -/

/-- A field that may be left out, of which nothing stands for the empty list. -/
def listOrNil {α : Type} (item? : Datum → Option α) : Option Datum → Option (List α)
  | none => some []
  | some d => d.list? item?

namespace Step

/-- The step of a table. -/
def ofDatum? (d : Datum) : Option Step := do
  match ← d.fields? .items [("origin", .required), ("event", .required), ("data", .defaulted)] with
  | [some origin, some event, data] =>
    let fields ← match data with
      | none => some []
      | some d => d.object?
    return ⟨← origin.string?, ← event.string?, fields⟩
  | _ => none

end Step

namespace Check

/-- The check of a table, of which `type` names the kind. -/
def ofDatum? (d : Datum) : Option Check := do
  let _ ← d.toValue?
  let (kind, d) ← d.tagged? "type"
  if kind = "state_equals" then
    match ← d.fields? .names [("name", .required), ("value", .required)] with
    | [some path, some v] => return .stateEquals (← path.string?) (← v.toValue?)
    | _ => none
  else if kind = "fired_rules" then
    match ← d.fields? .names [("step", .required), ("rules", .required)] with
    | [some step, some rules] =>
      return .firedRules (← step.count?) (← rules.list? Datum.count?)
    | _ => none
  else if kind = "cycle_order" then
    match ← d.fields? .names [("step", .required), ("origins", .required)] with
    | [some step, some origins] =>
      return .cycleOrder (← step.count?) (← origins.list? Datum.string?)
    | _ => none
  else if kind = "no_changes" then
    match ← d.fields? .names [("step", .required)] with
    | [some step] => return .noChanges (← step.count?)
    | _ => none
  else if kind = "dispatch_fails" then
    match ← d.fields? .names [("step", .required), ("message", .required)] with
    | [some step, some message] => return .dispatchFails (← step.count?) (← message.string?)
    | _ => none
  else none

/-- Refuses a check that cannot be made of a run with so many steps. -/
def check (steps : Nat) : Check → Except CaseFlaw Unit
  | .stateEquals path _ =>
    if (Text.trim path.toList).isEmpty then .error .emptyPath else .ok ()
  | .firedRules step _ | .cycleOrder step _ | .noChanges step | .dispatchFails step _ =>
    if steps ≤ step then .error (.stepOutOfRange step steps) else .ok ()

end Check

namespace Case

/-- An update of a rule: the state variable and the expression of its new value. -/
def updateOfDatum? (d : Datum) : Option (String × String) := do
  match ← d.fields? .items [("state", .required), ("value", .required)] with
  | [some state, some value] => return (← state.string?, ← value.string?)
  | _ => none

/-- The rule of a table; its conditions go before its updates. -/
def ruleOfDatum? (d : Datum) : Option Rule := do
  match ← d.fields? .items
    [("origin", .required), ("conditions", .defaulted), ("updates", .defaulted)] with
  | [some origin, conditions, updates] =>
    return Rule.ofParts (← origin.string?) (← listOrNil Datum.string? conditions)
      (← listOrNil updateOfDatum? updates)
  | _ => none

/-- A limit that may be left out. -/
def limitOfDatum? : Option Datum → Option (Option Nat)
  | none => some none
  | some d => d.count?.map some

/-- The limits of a table. -/
def limitsOfDatum? : Option Datum → Option CaseLimits
  | none => some ⟨none, none, none⟩
  | some d => do
    match ← d.fields? .items
      [("max_cycles", .optional), ("max_nesting", .optional), ("max_update_depth", .optional)] with
    | [cycles, nesting, depth] =>
      return ⟨← limitOfDatum? cycles, ← limitOfDatum? nesting, ← limitOfDatum? depth⟩
    | _ => none

/-- The name and the description of a table. -/
def metaOfDatum? (d : Datum) : Option (String × String) := do
  match ← d.fields? .items [("id", .required), ("description", .required)] with
  | [some id, some description] => return (← id.string?, ← description.string?)
  | _ => none

/-- The scenario of a table. Names that it does not know are passed over. -/
def ofDatum? (d : Datum) : Option Case := do
  match ← d.fields? .items [("case", .required), ("config", .defaulted), ("state", .defaulted),
    ("rules", .defaulted), ("steps", .defaulted), ("checks", .defaulted)] with
  | [some about, config, state, rules, steps, checks] =>
    let (id, description) ← metaOfDatum? about
    let limits ← limitsOfDatum? config
    let state ← match state with
      | none => some []
      | some d => d.object?
    let rules ← listOrNil ruleOfDatum? rules
    let steps ← listOrNil Step.ofDatum? steps
    let checks ← listOrNil Check.ofDatum? checks
    return { id, description, limits, state, rules, steps, checks }
  | _ => none

/-! ### Checking -/

/-- Whether a character may stand in the name of a scenario. -/
def isIdChar (c : Char) : Bool :=
  c.isLower || c.isDigit || c == '-' || c == '_'

/-- Refuses a name that is empty or holds other characters. -/
def checkId (id : String) : Except CaseFlaw Unit :=
  if (Text.trim id.toList).isEmpty then .error .emptyId
  else if id.toList.all isIdChar then .ok ()
  else .error .badId

/-- Refuses a limit of zero. -/
def checkLimit (name : String) (limit? : Option Nat) : Except CaseFlaw Unit :=
  if limit? = some 0 then .error (.zeroLimit name) else .ok ()

/-- The first check that is refused, with its position. -/
def refusedCheck? (steps : Nat) (checks : List Check) : Option (Nat × CaseFlaw) :=
  checks.zipIdx.findSome? fun (check, index) =>
    match check.check steps with
    | .ok () => none
    | .error flaw => some (index, flaw)

/-- Refuses a scenario whose name, limits, steps or number of checks make no sense. -/
def check (c : Case) : Except CaseFlaw Unit := do
  checkId c.id
  checkLimit "max_cycles" c.limits.maxCycles?
  checkLimit "max_nesting" c.limits.maxNesting?
  checkLimit "max_update_depth" c.limits.maxUpdateDepth?
  if c.steps.isEmpty then throw .noSteps
  if c.checks.isEmpty then throw .noChecks

end Case

end Reflex
