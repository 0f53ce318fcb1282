import Reflex.Proofs.Result
import Reflex.Proofs.Value.Fields
import Reflex.Rule.Design

/-!
# Design trees and the rules in them

A design tree is written as a JSON value and read from one, and a set of rules is written as a
design tree and taken out of one.  Either way nothing is lost.

* `DesignNode.ofValue?_toValue` says that a tree is read back from its JSON value.
* `RuleSet.ofDesign_toDesign` says that rules are taken out of their tree again.
* `exists_forEachIndexed` and `forEachIndexed_map` say when a step succeeds on every item of a list.
-/

namespace Reflex

/-! ## Trees and values -/

namespace DesignNode

variable {fields props : Fields} {items : List Value} {nodes : List DesignNode}

/-- The children are those of the field of that name. -/
lemma childrenOf?_eq (fields : Fields) : childrenOf? fields =
    match fields.get? "children" with
    | none => some []
    | some (.array items) => ofValues? items
    | some _ => none := by
  induction fields with
  | nil => rw [childrenOf?, Fields.get?_nil]
  | cons field fields ih =>
    obtain ⟨key, v⟩ := field
    rw [Fields.get?_cons]
    by_cases own : key = "children"
    · subst own
      cases v <;> simp [childrenOf?]
    · cases v <;> simp [childrenOf?, own, Ne.symm own, ih]

/-- An object is read as a node when its parts are. -/
lemma ofValue?_object {className : String} (named : fields.get? "className" = some (.string className))
    (kept : propsOf? (fields.get? "props") = some props) (under : childrenOf? fields = some nodes) :
    ofValue? (.object fields) = some ⟨className, props, nodes⟩ := by
  rw [ofValue?, named, kept, under]
  rfl

/-- Values are read as trees when each of them is, and what holds of each tree holds of all. -/
lemma exists_ofValues? {P : DesignNode → Prop}
    (each : ∀ v ∈ items, ∃ node, ofValue? v = some node ∧ P node) :
    ∃ nodes, ofValues? items = some nodes ∧ ∀ node ∈ nodes, P node := by
  induction items with
  | nil => exact ⟨[], by rw [ofValues?], List.forall_mem_nil P⟩
  | cons v items ih =>
    obtain ⟨⟨node, read, here⟩, others⟩ := List.forall_mem_cons.1 each
    obtain ⟨nodes, reads, there⟩ := ih others
    refine ⟨node :: nodes, ?_, List.forall_mem_cons.2 ⟨here, there⟩⟩
    rw [ofValues?, read, reads]
    rfl

mutual

/-- A tree is read back from its JSON value. -/
theorem ofValue?_toValue : ∀ node : DesignNode, ofValue? node.toValue = some node
  | ⟨className, props, children⟩ => by
    rw [toValue]
    refine ofValue?_object rfl rfl ?_
    rw [childrenOf?_eq]
    exact ofValues?_toValues children

/-- Trees are read back from their JSON values. -/
theorem ofValues?_toValues : ∀ nodes : List DesignNode, ofValues? (toValues nodes) = some nodes
  | [] => by rw [toValues, ofValues?]
  | node :: nodes => by
    rw [toValues, ofValues?, ofValue?_toValue node, ofValues?_toValues nodes]
    rfl

end

lemma toValues_eq_map (nodes : List DesignNode) : toValues nodes = nodes.map toValue := by
  induction nodes with
  | nil => rw [toValues, List.map_nil]
  | cons node nodes ih => rw [toValues, ih, List.map_cons]

end DesignNode

/-! ## Steps on every item of a list -/

section

variable {ε α β : Type} {step : Nat → α → Except ε β} {items : List α}

/-- Where a step succeeds on every item, at whatever position, it succeeds on all of them. -/
lemma exists_forEachIndexed (succeeds : ∀ i, ∀ x ∈ items, ∃ y, step i x = .ok y) :
    ∃ ys, forEachIndexed step items = .ok ys := by
  rw [forEachIndexed]
  generalize 0 = start
  induction items generalizing start with
  | nil => exact ⟨[], rfl⟩
  | cons x items ih =>
    obtain ⟨y, here⟩ := succeeds start x List.mem_cons_self
    obtain ⟨ys, there⟩ :=
      ih (fun i x' mem => succeeds i x' (List.mem_cons_of_mem x mem)) (start + 1)
    refine ⟨y :: ys, ?_⟩
    rw [List.zipIdx_cons, List.mapM_cons]
    exact bind_eq_ok_iff.2 ⟨y, here, bind_eq_ok_iff.2 ⟨ys, there, rfl⟩⟩

/-- A step that takes back what a function does takes it back on every item. -/
lemma forEachIndexed_map {f : β → α} {ys : List β} (back : ∀ i y, step i (f y) = .ok y) :
    forEachIndexed step (ys.map f) = .ok ys := by
  rw [forEachIndexed]
  generalize 0 = start
  induction ys generalizing start with
  | nil => rfl
  | cons y ys ih =>
    rw [List.map_cons, List.zipIdx_cons, List.mapM_cons]
    exact bind_eq_ok_iff.2 ⟨y, back start y, bind_eq_ok_iff.2 ⟨ys, ih (start + 1), rfl⟩⟩

/-- Where all of the steps succeed, the results are those of the items, one by one. -/
lemma forall₂_of_forEachIndexed {ys : List β} (succeeded : forEachIndexed step items = .ok ys) :
    List.Forall₂ (fun x y => ∃ i, step i x = .ok y) items ys := by
  rw [forEachIndexed] at succeeded
  generalize 0 = start at succeeded
  induction items generalizing start ys with
  | nil =>
    cases succeeded
    exact .nil
  | cons x items ih =>
    rw [List.zipIdx_cons, List.mapM_cons] at succeeded
    obtain ⟨y, here, rest⟩ := bind_eq_ok_iff.1 succeeded
    obtain ⟨ys, there, same⟩ := bind_eq_ok_iff.1 rest
    cases same
    exact .cons ⟨start, here⟩ (ih (start + 1) there)

end

/-! ## Rules and trees -/

/-- The kind of a class is the kind that has it. -/
@[simp] lemma NodeKind.ofClassName?_className (kind : NodeKind) :
    NodeKind.ofClassName? kind.className = some kind := by
  cases kind <;> decide

namespace DesignNode

variable {node : DesignNode} {name path s : String}

lemma expect_of_className (kind : NodeKind) (named : node.className = kind.className) :
    node.expect kind path = .ok () := by
  rw [expect, named, NodeKind.ofClassName?_className]
  exact if_pos rfl

lemma textProp_of_string (found : node.props.get? name = some (.string s)) :
    node.textProp name path = .ok s := by
  rw [textProp, found]

end DesignNode

lemma Rule.ofDesign_toDesign (path : String) (rule : Rule) :
    Rule.ofDesign path rule.toDesign = .ok rule := by
  have children : forEachIndexed (fun i child => childOfDesign (childPath path i) child)
      rule.toDesign.children = .ok rule.children := by
    refine forEachIndexed_map fun i child => ?_
    cases child <;> rfl
  rw [ofDesign, DesignNode.expect_of_className .action rfl,
    DesignNode.textProp_of_string (s := rule.origin) rfl, children]
  rfl

/-- Rules are taken out of their tree again. -/
theorem RuleSet.ofDesign_toDesign (rules : RuleSet) : RuleSet.ofDesign rules.toDesign = .ok rules := by
  rw [ofDesign, DesignNode.expect_of_className .actions rfl]
  exact forEachIndexed_map fun i rule => Rule.ofDesign_toDesign _ rule

end Reflex
