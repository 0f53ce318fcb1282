import Reflex.Event
import Reflex.Json.Printer
import Reflex.Rule.Design

/-!
# The flat format of old rule documents

An old document is a list of records, each with an event, an origin, a list of conditions and an
object of updates. `RuleSet.ofFlat` reads the records as rules: a record of the initial event
becomes a rule for the origin of that event, whatever origin it names, and the conditions go before
the updates. `DesignNode.ofDocument` reads a document of either format as a design tree.
-/

namespace Reflex

namespace Rule

/-- The conditions of a record, which may be left out. -/
def flatConditions (index : Nat) : Option Value → Except LoadError (List String)
  | none => .ok []
  | some .null => .ok []
  | some (.array items) => .ok (items.map Value.asExpression)
  | some v => .error (.flat (.conditions index v.typeName))

/-- The updates of a record, which may be left out. -/
def flatUpdates (index : Nat) : Option Value → Except LoadError (List (String × String))
  | none => .ok []
  | some .null => .ok []
  | some (.object fields) => .ok (fields.map fun (name, v) => (name, v.asExpression))
  | some v => .error (.flat (.updates index v.typeName))

/-- The origin of a record. -/
def flatOrigin (fields : Fields) : String :=
  if (fields.get? "event").bind Value.string? = some initEvent then initEvent
  else ((fields.get? "origin").bind Value.string?).getD ""

/-- The rule of a record. -/
def ofFlat (index : Nat) : Value → Except LoadError Rule
  | .object fields => do
    let conditions ← flatConditions index (Fields.get? fields "conditions")
    let updates ← flatUpdates index (Fields.get? fields "updates")
    return Rule.ofParts (flatOrigin fields) conditions updates
  | v => .error (.flat (.record index v.typeName))

end Rule

/-- The rules of a list of records. -/
def RuleSet.ofFlat (records : List Value) : Except LoadError RuleSet :=
  forEachIndexed Rule.ofFlat records

/-- Whether a document is in the flat format. -/
def isFlat : Value → Bool
  | .array _ => true
  | _ => false

/-- The design tree of a document of either format. -/
def DesignNode.ofDocument : Value → Except LoadError DesignNode
  | .array records => (RuleSet.ofFlat records).map RuleSet.toDesign
  | .object fields =>
    match DesignNode.ofValue? (.object fields) with
    | some node => .ok node
    | none => .error .document
  | v => .error (.flat (.document v.typeName))

/-- The rules of a document of either format. -/
def RuleSet.ofDocument (document : Value) : Except LoadError RuleSet :=
  DesignNode.ofDocument document >>= RuleSet.ofDesign

end Reflex
