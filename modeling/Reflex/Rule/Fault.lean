import Reflex.Expr.Parser

/-!
# Faults of rule documents

Loading a rule document takes several steps, and each has faults of its own: the flat format of old
files, the shape of the design tree, the schema, the invariants of the rules, and the expressions.
`LoadError` says which fault it was, and `LoadError.message` words it.
-/

namespace Reflex

/-- A record of the flat format that is not as it should be. -/
inductive FlatFault where
  /-- The document is neither a list of records nor a tree. -/
  | document (found : String)
  | record (index : Nat) (found : String)
  | conditions (index : Nat) (found : String)
  | updates (index : Nat) (found : String)
deriving DecidableEq

/-- The wording of a fault of the flat format. -/
def FlatFault.message : FlatFault → String
  | .document found => "expected an array or an object, got " ++ found
  | .record index found =>
    "record " ++ Text.ofNat index ++ ": expected an object, got " ++ found
  | .conditions index found =>
    "record " ++ Text.ofNat index ++ ": `conditions` must be an array, got " ++ found
  | .updates index found =>
    "record " ++ Text.ofNat index ++ ": `updates` must be an object, got " ++ found

/-- Where an expression stands in its rule. -/
inductive ExpressionPlace where
  | condition (position : Nat)
  | update (stateName : String)
deriving DecidableEq

/-- The wording of a place. -/
def ExpressionPlace.text : ExpressionPlace → String
  | .condition position => "condition " ++ Text.ofNat position
  | .update stateName => "update " ++ stateName

/-- An expression of a rule that does not parse. -/
structure Diagnostic where
  /-- The position of the rule. -/
  rule : Nat
  place : ExpressionPlace
  error : ParseError
deriving DecidableEq

/-- The wording of a diagnostic. -/
def Diagnostic.message (d : Diagnostic) : String :=
  "rule " ++ Text.ofNat d.rule ++ " " ++ d.place.text ++ ": " ++ d.error.message

/-- Why a rule document cannot be used. -/
inductive LoadError where
  | unknownClass (className path : String)
  | misplacedClass (className path : String)
  | invalidProp (path prop : String)
  | flat (fault : FlatFault)
  /-- The tree is not made of design nodes. -/
  | document
  | schema (messages : List String)
  | invariants (messages : List String)
  | compile (diagnostics : List Diagnostic)
deriving DecidableEq

/-- The wording of a loading fault. -/
def LoadError.message : LoadError → String
  | .unknownClass className path => "unknown className `" ++ className ++ "` at " ++ path
  | .misplacedClass className path => "`" ++ className ++ "` is not allowed at " ++ path
  | .invalidProp path prop => path ++ ": prop `" ++ prop ++ "` must be a string"
  | .flat fault => "legacy rule format: " ++ fault.message
  | .document => "rule document: not a design tree"
  | .schema messages => "rule schema validation failed: " ++ String.intercalate "; " messages
  | .invariants messages => "rule invariants failed: " ++ String.intercalate "; " messages
  | .compile diagnostics =>
    Text.ofNat diagnostics.length ++ " expression error(s):\n- " ++
      String.intercalate "\n- " (diagnostics.map Diagnostic.message)

end Reflex
