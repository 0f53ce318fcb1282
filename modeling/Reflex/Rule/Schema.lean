import Reflex.Json.Printer
import Reflex.Rule.Design

/-!
# The schema of rule documents

A `Schema` describes which JSON values are allowed, and `Schema.messages` lists what is wrong with
a value. A value of the wrong type is reported without a look inside. An object is searched for
missing fields first, then its fields are checked in the order of the schema. A value that must fit
exactly one of several schemas is reported as a whole.

`Schema.ruleDocument` is the schema of the design tree.
-/

namespace Reflex

/-- A description of JSON values. -/
inductive Schema where
  /-- One text and nothing else. -/
  | constant (text : String)
  /-- Any text. -/
  | anyText
  /-- An array whose items fit a schema. -/
  | list (item : Schema)
  /-- An array without items. -/
  | emptyList
  /-- An object that has all the required fields, and whose known fields fit their schemas. -/
  | object (required : List String) (properties : List (String × Schema))
  /-- A value that fits exactly one of the schemas. -/
  | oneOf (options : List Schema)

namespace Schema

/-- A text in JSON quotes. -/
def quoted (s : String) : String :=
  (Value.string s).compact

/-- The complaint about a value that has the wrong type. -/
def wrongType (v : Value) (expected : String) : String :=
  v.compact ++ " is not of type " ++ quoted expected

/-- The complaints about the fields that an object lacks. -/
def missing (fields : Fields) (required : List String) : List String :=
  (required.filter fun name => !fields.has name).map fun name =>
    quoted name ++ " is a required property"

mutual

/-- What is wrong with a value. -/
def messages (v : Value) : Schema → List String
  | .constant text =>
    match v with
    | .string s => if s == text then [] else [quoted text ++ " was expected"]
    | _ => [quoted text ++ " was expected"]
  | .anyText =>
    match v with
    | .string _ => []
    | _ => [wrongType v "string"]
  | .list item =>
    match v with
    | .array items => items.flatMap fun w => messages w item
    | _ => [wrongType v "array"]
  | .emptyList =>
    match v with
    | .array [] => []
    | .array _ => [v.compact ++ " has more than 0 items"]
    | _ => [wrongType v "array"]
  | .object required properties =>
    match v with
    | .object fields => missing fields required ++ propertyMessages fields properties
    | _ => [wrongType v "object"]
  | .oneOf options =>
    match fitting v options with
    | 1 => []
    | 0 => [v.compact ++
        " is not valid under any of the schemas listed in the \x27oneOf\x27 keyword"]
    | _ => [v.compact ++
        " is valid under more than one of the schemas listed in the \x27oneOf\x27 keyword"]

/-- What is wrong with the fields that a schema knows. -/
def propertyMessages (fields : Fields) : List (String × Schema) → List String
  | [] => []
  | (name, schema) :: properties =>
    (match fields.get? name with
      | some v => messages v schema
      | none => []) ++ propertyMessages fields properties

/-- How many of the schemas a value fits. -/
def fitting (v : Value) : List Schema → Nat
  | [] => 0
  | schema :: schemas => (if (messages v schema).isEmpty then 1 else 0) + fitting v schemas

end

/-- The schema of a node that has no children: a condition or an update. -/
def leaf (kind : NodeKind) (props : List String) : Schema :=
  .object ["className", "props"]
    [("className", .constant kind.className),
      ("props", .object props (props.map (·, .anyText))),
      ("children", .emptyList)]

/-- The schema of the node of a rule. -/
def action : Schema :=
  .object ["className", "props", "children"]
    [("className", .constant NodeKind.action.className),
      ("props", .object ["origin"] [("origin", .anyText)]),
      ("children", .list (.oneOf
        [leaf .condition ["Condition"], leaf .update ["stateName", "newValue"]]))]

/-- The schema of a rule document. -/
def ruleDocument : Schema :=
  .object ["className", "children"]
    [("className", .constant NodeKind.actions.className),
      ("props", .object [] []),
      ("children", .list action)]

end Schema

end Reflex
