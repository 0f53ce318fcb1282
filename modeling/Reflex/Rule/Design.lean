import Reflex.Rule.Basic
import Reflex.Rule.Fault
import Reflex.Value.Basic

/-!
# The design tree of a rule document

A rule document is a tree of nodes. Each node has a class, properties and children: a root of class
`Actions` holds one `Action` for each rule, which holds its conditions and updates.

* `DesignNode.ofValue?` and `DesignNode.toValue` read and write a tree as a JSON value.
* `RuleSet.ofDesign` takes the rules out of a tree, and `RuleSet.toDesign` is the tree of a set of
  rules.
-/

namespace Reflex

/-- What a node of the tree stands for. -/
inductive NodeKind where
  | actions
  | action
  | condition
  | update
deriving DecidableEq

namespace NodeKind

/-- The class that a tree gives to nodes of a kind. -/
def className : NodeKind → String
  | .actions => "Actions"
  | .action => "Action"
  | .condition => "ActionCondition"
  | .update => "ActionUpdate"

/-- The kind of the nodes of a class. -/
def ofClassName? (name : String) : Option NodeKind :=
  [actions, action, condition, update].find? (·.className == name)

end NodeKind

/-- A node of a design tree. -/
structure DesignNode where
  className : String
  props : Fields
  children : List DesignNode

namespace DesignNode

mutual

/-- The JSON value of a tree. -/
def toValue : DesignNode → Value
  | ⟨className, props, children⟩ =>
    .object [("className", .string className), ("props", .object props),
      ("children", .array (toValues children))]

/-- The JSON values of trees. -/
def toValues : List DesignNode → List Value
  | [] => []
  | node :: nodes => toValue node :: toValues nodes

end

/-- The properties of a node, which may be left out. -/
def propsOf? : Option Value → Option Fields
  | none => some []
  | some v => v.fields?

mutual

/-- The tree of a JSON value. An object gives the parts of a node by name, and may hold other
names; an array gives the class, the properties and the children by position. -/
def ofValue? : Value → Option DesignNode
  | .object fields => do
    let className ← (Fields.get? fields "className").bind Value.string?
    let props ← propsOf? (Fields.get? fields "props")
    let children ← childrenOf? fields
    return ⟨className, props, children⟩
  | .array [.string className] => some ⟨className, [], []⟩
  | .array [.string className, .object props] => some ⟨className, props, []⟩
  | .array [.string className, .object props, .array items] => do
    let children ← ofValues? items
    return ⟨className, props, children⟩
  | _ => none

/-- The children among the fields of a node, which may be left out. -/
def childrenOf? : List (String × Value) → Option (List DesignNode)
  | [] => some []
  | (key, .array items) :: fields =>
    if key == "children" then ofValues? items else childrenOf? fields
  | (key, _) :: fields => if key == "children" then none else childrenOf? fields

/-- The trees of JSON values. -/
def ofValues? : List Value → Option (List DesignNode)
  | [] => some []
  | v :: vs => do
    let node ← ofValue? v
    let nodes ← ofValues? vs
    return node :: nodes

end

/-- Asks for a node of one kind. -/
def expect (node : DesignNode) (kind : NodeKind) (path : String) : Except LoadError Unit :=
  match NodeKind.ofClassName? node.className with
  | some k => if k = kind then .ok () else .error (.misplacedClass node.className path)
  | none => .error (.unknownClass node.className path)

/-- The text of a property; one that is absent or `null` is empty. -/
def textProp (node : DesignNode) (name path : String) : Except LoadError String :=
  match node.props.get? name with
  | none => .ok ""
  | some .null => .ok ""
  | some (.string s) => .ok s
  | some _ => .error (.invalidProp path name)

end DesignNode

/-- The path of a child node. -/
def childPath (path : String) (index : Nat) : String :=
  path ++ "/" ++ Text.ofNat index

/-- Applies a step to the items of a list from left to right, up to the first fault. Each step is
given the position of its item. -/
def forEachIndexed {ε α β : Type} (step : Nat → α → Except ε β) (items : List α) :
    Except ε (List β) :=
  items.zipIdx.mapM fun (item, index) => step index item

namespace Rule

/-- The part of a rule that a node stands for. -/
def childOfDesign (path : String) (node : DesignNode) : Except LoadError RuleChild :=
  match NodeKind.ofClassName? node.className with
  | none => .error (.unknownClass node.className path)
  | some .condition => do
    let expression ← node.textProp "Condition" path
    return .condition expression
  | some .update => do
    let stateName ← node.textProp "stateName" path
    let newValue ← node.textProp "newValue" path
    return .update stateName newValue
  | some _ => .error (.misplacedClass node.className path)

/-- The rule that a node stands for. -/
def ofDesign (path : String) (node : DesignNode) : Except LoadError Rule := do
  node.expect .action path
  let origin ← node.textProp "origin" path
  let children ←
    forEachIndexed (fun i child => childOfDesign (childPath path i) child) node.children
  return ⟨origin, children⟩

/-- The node of a rule. -/
def toDesign (rule : Rule) : DesignNode where
  className := NodeKind.action.className
  props := [("origin", .string rule.origin)]
  children := rule.children.map fun
    | .condition expression =>
      ⟨NodeKind.condition.className, [("Condition", .string expression)], []⟩
    | .update stateName newValue =>
      ⟨NodeKind.update.className,
        [("stateName", .string stateName), ("newValue", .string newValue)], []⟩

end Rule

namespace RuleSet

/-- The rules of a tree. -/
def ofDesign (root : DesignNode) : Except LoadError RuleSet := do
  root.expect .actions "root"
  forEachIndexed (fun i node => Rule.ofDesign (childPath "root" i) node) root.children

/-- The tree of a set of rules. -/
def toDesign (rules : RuleSet) : DesignNode where
  className := NodeKind.actions.className
  props := []
  children := rules.map Rule.toDesign

end RuleSet

end Reflex
