import Reflex.Scenario.Judgment

/-!
# Results of scenarios

The result of a scenario says how it went and is stored as JSON. `CaseResult.toValue` writes a
result and `CaseResult.ofDatum?` reads it back; parts that are absent are left out.
-/

namespace Reflex

/-- How a scenario went. -/
inductive Verdict.Overall where
  | success
  | fail
  /-- The scenario could not be run. -/
  | error
deriving DecidableEq

namespace Verdict.Overall

/-- The name of an outcome in stored results. -/
def name : Overall → String
  | .success => "success"
  | .fail => "fail"
  | .error => "error"

/-- The name of an outcome in messages. -/
def title : Overall → String
  | .success => "Success"
  | .fail => "Fail"
  | .error => "Error"

/-- The outcome of a name. -/
def ofName? (name : String) : Option Overall :=
  [success, fail, error].find? (·.name == name)

/-- The outcome that a judgment gives; without a judgment the scenario could not be run. -/
def ofJudgment? : Option Judgment → Overall
  | some j => if j.allPassed then .success else .fail
  | none => .error

/-- The worse of two outcomes. -/
def worse : Overall → Overall → Overall
  | .error, _ | _, .error => .error
  | .fail, _ | _, .fail => .fail
  | .success, .success => .success

/-- The outcome of a datum: its name, or a table with the name as its only key. -/
def ofDatum? : Datum → Option Overall
  | .string s => ofName? s
  | .table [(s, .null)] => ofName? s
  | _ => none

end Verdict.Overall

/-- The result of a scenario. -/
structure CaseResult where
  id : String
  outcome : Verdict.Overall
  /-- Why the scenario could not be run. -/
  error? : Option String
  judgment? : Option Judgment

/-! ### Writing -/

/-- A list of counts as a value. -/
def Value.ofNats (ns : List Nat) : Value :=
  .array (ns.map .ofNat)

/-- A list of texts as a value. -/
def Value.ofStrings (ss : List String) : Value :=
  .array (ss.map .string)

/-- A value that may be absent, as `null` if it is. -/
def Value.ofOption {α : Type} (f : α → Value) (a? : Option α) : Value :=
  (a?.map f).getD .null

/-- A verdict as a value. -/
def Verdict.toValue : Verdict → Value
  | .stateEquals path expected actual passed =>
    .object [("type", .string "state_equals"), ("name", .string path), ("expected", expected),
      ("actual", actual), ("passed", .bool passed)]
  | .firedRules step expected actual? passed =>
    .object [("type", .string "fired_rules"), ("step", .ofNat step),
      ("expected", .ofNats expected), ("actual", .ofOption Value.ofNats actual?),
      ("passed", .bool passed)]
  | .cycleOrder step expected actual? passed =>
    .object [("type", .string "cycle_order"), ("step", .ofNat step),
      ("expected", .ofStrings expected), ("actual", .ofOption Value.ofStrings actual?),
      ("passed", .bool passed)]
  | .noChanges step actual? passed =>
    .object [("type", .string "no_changes"), ("step", .ofNat step),
      ("actual", .ofOption Value.ofStrings actual?), ("passed", .bool passed)]
  | .dispatchFails step message actual? passed =>
    .object [("type", .string "dispatch_fails"), ("step", .ofNat step),
      ("message", .string message), ("actual", .ofOption Value.string actual?),
      ("passed", .bool passed)]

/-- A judgment as a value. -/
def Judgment.toValue (j : Judgment) : Value :=
  .object [("checks", .array (j.checks.map Verdict.toValue))]

/-- A result as a value. -/
def CaseResult.toValue (r : CaseResult) : Value :=
  .object ([("case_id", .string r.id), ("outcome", .string r.outcome.name)] ++
    (match r.error? with
      | some error => [("error", .string error)]
      | none => []) ++
    (match r.judgment? with
      | some j => [("judgment", j.toValue)]
      | none => []))

/-! ### Reading -/

/-- A field that may be left out or `null`. -/
def nullableField {α : Type} (item? : Datum → Option α) : Option Datum → Option (Option α)
  | none => some none
  | some d => d.nullable? item?

/-- The verdict of a datum, of which `type` names the kind. -/
def Verdict.ofDatum? (d : Datum) : Option Verdict := do
  let _ ← d.toValue?
  let (kind, d) ← d.tagged? "type"
  if kind = "state_equals" then
    match ← d.fields? .names
      [("name", .required), ("expected", .required), ("actual", .required),
        ("passed", .required)] with
    | [some path, some expected, some actual, some passed] =>
      return .stateEquals (← path.string?) (← expected.toValue?) (← actual.toValue?)
        (← passed.bool?)
    | _ => none
  else if kind = "fired_rules" then
    match ← d.fields? .names
      [("step", .required), ("expected", .required), ("actual", .optional),
        ("passed", .required)] with
    | [some step, some expected, actual, some passed] =>
      return .firedRules (← step.count?) (← expected.list? Datum.count?)
        (← nullableField (Datum.list? Datum.count?) actual) (← passed.bool?)
    | _ => none
  else if kind = "cycle_order" then
    match ← d.fields? .names
      [("step", .required), ("expected", .required), ("actual", .optional),
        ("passed", .required)] with
    | [some step, some expected, actual, some passed] =>
      return .cycleOrder (← step.count?) (← expected.list? Datum.string?)
        (← nullableField (Datum.list? Datum.string?) actual) (← passed.bool?)
    | _ => none
  else if kind = "no_changes" then
    match ← d.fields? .names
      [("step", .required), ("actual", .optional), ("passed", .required)] with
    | [some step, actual, some passed] =>
      return .noChanges (← step.count?) (← nullableField (Datum.list? Datum.string?) actual)
        (← passed.bool?)
    | _ => none
  else if kind = "dispatch_fails" then
    match ← d.fields? .names
      [("step", .required), ("message", .required), ("actual", .optional),
        ("passed", .required)] with
    | [some step, some message, actual, some passed] =>
      return .dispatchFails (← step.count?) (← message.string?)
        (← nullableField Datum.string? actual) (← passed.bool?)
    | _ => none
  else none

/-- The judgment of a datum. -/
def Judgment.ofDatum? (d : Datum) : Option Judgment := do
  match ← d.fields? .names [("checks", .required)] with
  | [some checks] => return ⟨← checks.list? Verdict.ofDatum?⟩
  | _ => none

/-- The result of a datum. Names that it does not know are passed over. -/
def CaseResult.ofDatum? (d : Datum) : Option CaseResult := do
  match ← d.fields? .names [("case_id", .required), ("outcome", .required), ("error", .defaulted),
    ("judgment", .defaulted)] with
  | [some id, some outcome, error, judgment] =>
    return ⟨← id.string?, ← Verdict.Overall.ofDatum? outcome, ← nullableField Datum.string? error,
      ← nullableField Judgment.ofDatum? judgment⟩
  | _ => none

/-! ### Evaluating -/

/-- Runs a scenario and judges the run. -/
def Case.evaluate (c : Case) : CaseResult :=
  match c.run with
  | .ok run =>
    let j := run.judgment c.checks
    ⟨c.id, .ofJudgment? (some j), none, some j⟩
  | .error f => ⟨c.id, .ofJudgment? none, some f.message, none⟩

end Reflex
