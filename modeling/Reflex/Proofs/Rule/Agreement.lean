import Reflex.Proofs.Rule.Design
import Reflex.Rule.Load

/-!
# The checks of a rule document agree

A rule document goes through three checks that know its format each in its own way: the schema, the
reading of a design tree, and the table of classes by which rules are taken out of the tree.  They
agree with each other through `DesignNode.IsRoot`, which says of a tree what they ask of it.

* `Schema.Fits` says that a value has nothing wrong with it; there is one lemma for each kind of
  schema.
* `Schema.exists_isRoot` reads such a tree from a value that fits the schema, and
  `DesignNode.IsRoot.fits` says that its own JSON value fits.
* `DesignNode.IsRoot.exists_rules` takes rules out of such a tree, and `RuleSet.isRoot_toDesign`
  says that the trees of rules are of this kind.
* `LoadedRules.checks_agree` is the result.
-/

namespace Reflex

/-! ## What fits a schema -/

namespace Schema

/-- Nothing is wrong with a value. -/
def Fits (schema : Schema) (v : Value) : Prop :=
  schema.messages v = []

variable {v : Value} {text : String} {item schema first second : Schema} {required : List String}
  {properties : List (String × Schema)} {fields : Fields}

lemma fits_constant_iff : (constant text).Fits v ↔ v = .string text := by
  rw [Fits, messages.eq_def]
  cases v <;> simp

lemma fits_anyText_iff : anyText.Fits v ↔ ∃ s, v = .string s := by
  rw [Fits, messages.eq_def]
  cases v <;> simp

lemma fits_list_iff : (list item).Fits v ↔ ∃ items, v = .array items ∧ ∀ w ∈ items, item.Fits w := by
  rw [Fits, messages.eq_def]
  cases v <;> simp [Fits]

lemma fits_emptyList_iff : emptyList.Fits v ↔ v = .array [] := by
  rw [Fits, messages.eq_def]
  cases v with
  | array items => cases items <;> simp
  | _ => simp

lemma propertyMessages_eq_nil_iff : propertyMessages fields properties = [] ↔
    ∀ property ∈ properties, ∀ w, fields.get? property.1 = some w → property.2.Fits w := by
  induction properties with
  | nil => simp [propertyMessages]
  | cons property properties ih =>
    obtain ⟨name, schema⟩ := property
    rw [propertyMessages, List.append_eq_nil_iff, ih, List.forall_mem_cons]
    refine and_congr_left fun _ => ?_
    cases fields.get? name with
    | none => simp
    | some w => simp [Fits]

lemma missing_eq_nil_iff : missing fields required = [] ↔
    ∀ name ∈ required, ∃ w, fields.get? name = some w := by
  simp [missing, List.filter_eq_nil_iff, Fields.has, ← Option.ne_none_iff_exists']

/-- An object fits when it has what is required, and what it has of the known fields fits. -/
lemma fits_object_iff : (object required properties).Fits v ↔ ∃ fields : Fields,
    v = .object fields ∧ (∀ name ∈ required, ∃ w, fields.get? name = some w) ∧
      ∀ property ∈ properties, ∀ w, fields.get? property.1 = some w → property.2.Fits w := by
  rw [Fits, messages.eq_def]
  cases v with
  | object fields => simp [missing_eq_nil_iff, propertyMessages_eq_nil_iff]
  | _ => simp

/-- Of two schemas a value has to fit one and not the other. -/
lemma fits_oneOf_iff : (oneOf [first, second]).Fits v ↔
    (first.Fits v ∧ ¬ second.Fits v) ∨ (¬ first.Fits v ∧ second.Fits v) := by
  rw [Fits, messages.eq_def]
  by_cases one : first.Fits v <;> by_cases other : second.Fits v <;>
    simp_all [Fits, fitting]

/-! ## Nodes -/

/-- The schema of the nodes of a kind. -/
def node (required : List String) (kind : NodeKind) (props children : Schema) : Schema :=
  .object required
    [("className", .constant kind.className), ("props", props), ("children", children)]

/-- The schema of properties of which given ones are texts. -/
def texts (names : List String) : Schema :=
  .object names (names.map (·, .anyText))

variable {kind : NodeKind} {props children : Schema} {names : List String}

/-- A node fits when it has what is required, and whatever it has of its three parts fits. -/
lemma fits_node_iff : (node required kind props children).Fits v ↔ ∃ fields : Fields,
    v = .object fields ∧ (∀ name ∈ required, ∃ w, fields.get? name = some w) ∧
      (∀ w, fields.get? "className" = some w → w = .string kind.className) ∧
      (∀ w, fields.get? "props" = some w → props.Fits w) ∧
      ∀ w, fields.get? "children" = some w → children.Fits w := by
  simp [node, fits_object_iff, fits_constant_iff]

lemma fits_texts_iff : (texts names).Fits v ↔ ∃ fields : Fields,
    v = .object fields ∧ ∀ name ∈ names, ∃ s, fields.get? name = some (.string s) := by
  simp only [texts, fits_object_iff, List.forall_mem_map, fits_anyText_iff]
  refine exists_congr fun fields => and_congr_right fun _ => ?_
  constructor
  · rintro ⟨required, text⟩ name mem
    obtain ⟨w, found⟩ := required name mem
    obtain ⟨s, rfl⟩ := text name mem w found
    exact ⟨s, found⟩
  · intro h
    refine ⟨fun name mem => ?_, fun name mem w found => ?_⟩
    · obtain ⟨s, found⟩ := h name mem
      exact ⟨_, found⟩
    obtain ⟨s, found'⟩ := h name mem
    exact ⟨s, Option.some.inj (found.symm.trans found')⟩

lemma leaf_eq_node : leaf kind names = node ["className", "props"] kind (texts names) .emptyList :=
  rfl

lemma action_eq_node : action = node ["className", "props", "children"] .action (texts ["origin"])
    (.list (.oneOf [leaf .condition ["Condition"], leaf .update ["stateName", "newValue"]])) :=
  rfl

lemma ruleDocument_eq_node :
    ruleDocument = node ["className", "children"] .actions (texts []) (.list action) :=
  rfl

end Schema

/-! ## Trees that rules can be taken out of -/

namespace DesignNode

/-- Given properties of a node are texts. -/
def HasTexts (names : List String) (node : DesignNode) : Prop :=
  ∀ name ∈ names, ∃ s, node.props.get? name = some (.string s)

/-- A node of a kind, without children, that has given properties. -/
structure IsLeaf (kind : NodeKind) (names : List String) (node : DesignNode) : Prop where
  className : node.className = kind.className
  props : node.HasTexts names
  children : node.children = []

/-- The node of a condition or of an update. -/
def IsPart (node : DesignNode) : Prop :=
  node.IsLeaf .condition ["Condition"] ∨ node.IsLeaf .update ["stateName", "newValue"]

/-- The node of a rule. -/
structure IsAction (node : DesignNode) : Prop where
  className : node.className = NodeKind.action.className
  props : node.HasTexts ["origin"]
  children : ∀ child ∈ node.children, child.IsPart

/-- The node of a set of rules. -/
structure IsRoot (node : DesignNode) : Prop where
  className : node.className = NodeKind.actions.className
  children : ∀ child ∈ node.children, child.IsAction

end DesignNode

open DesignNode

/-! ## From the schema to trees -/

namespace Schema

variable {v : Value} {kind : NodeKind} {names required : List String} {children : Schema}
  {P : DesignNode → Prop}

/-- A value that fits the schema of a node is read as one, if values that fit the schema of its
children are. -/
lemma exists_node (named : "className" ∈ required) (propped : names = [] ∨ "props" ∈ required)
    (fit : (node required kind (texts names) children).Fits v)
    (under : ∀ fields : Fields, (∀ name ∈ required, ∃ w, fields.get? name = some w) →
      (∀ w, fields.get? "children" = some w → children.Fits w) →
      ∃ nodes, childrenOf? fields = some nodes ∧ ∀ child ∈ nodes, P child) :
    ∃ node, ofValue? v = some node ∧ node.className = kind.className ∧ node.HasTexts names ∧
      ∀ child ∈ node.children, P child := by
  obtain ⟨fields, rfl, present, className, props, fitting⟩ := fits_node_iff.1 fit
  obtain ⟨w, found⟩ := present _ named
  obtain rfl := className w found
  obtain ⟨nodes, read, each⟩ := under fields present fitting
  have kept : ∃ ps : Fields, propsOf? (fields.get? "props") = some ps ∧
      ∀ name ∈ names, ∃ s, ps.get? name = some (.string s) := by
    cases found : fields.get? "props" with
    | some w =>
      obtain ⟨ps, rfl, texts⟩ := fits_texts_iff.1 (props w found)
      exact ⟨ps, rfl, texts⟩
    | none =>
      -- Properties may be left out only where none is asked for.
      rcases propped with rfl | mem
      · exact ⟨[], rfl, List.forall_mem_nil _⟩
      · obtain ⟨w, found'⟩ := present _ mem
        cases found.symm.trans found'
  obtain ⟨ps, kept, texts⟩ := kept
  exact ⟨_, ofValue?_object found kept read, rfl, texts, each⟩

/-- Where a list of children is required, they are read one by one. -/
lemma exists_children {fields : Fields} {item : Schema} (listed : "children" ∈ required)
    (present : ∀ name ∈ required, ∃ w, fields.get? name = some w)
    (fit : ∀ w, fields.get? "children" = some w → (Schema.list item).Fits w)
    (each : ∀ w, item.Fits w → ∃ node, ofValue? w = some node ∧ P node) :
    ∃ nodes, childrenOf? fields = some nodes ∧ ∀ child ∈ nodes, P child := by
  obtain ⟨w, found⟩ := present _ listed
  obtain ⟨items, rfl, fitting⟩ := fits_list_iff.1 (fit w found)
  rw [childrenOf?_eq, found]
  exact exists_ofValues? fun v mem => each v (fitting v mem)

lemma exists_isLeaf (fit : (leaf kind names).Fits v) :
    ∃ node, ofValue? v = some node ∧ node.IsLeaf kind names := by
  rw [leaf_eq_node] at fit
  have childless (fields : Fields) (fitting : ∀ w, fields.get? "children" = some w → emptyList.Fits w) :
      childrenOf? fields = some [] := by
    rw [childrenOf?_eq]
    cases found : fields.get? "children" with
    | none => rfl
    | some w =>
      obtain rfl := fits_emptyList_iff.1 (fitting w found)
      exact ofValues?_toValues []
  obtain ⟨node, read, className, texts, none⟩ := exists_node (P := fun _ => False)
    List.mem_cons_self (.inr (by simp)) fit
    fun fields _ fitting => ⟨[], childless fields fitting, List.forall_mem_nil _⟩
  exact ⟨node, read, className, texts, List.eq_nil_iff_forall_not_mem.2 none⟩

lemma exists_isPart
    (fit : (oneOf [leaf .condition ["Condition"], leaf .update ["stateName", "newValue"]]).Fits v) :
    ∃ node, ofValue? v = some node ∧ node.IsPart := by
  rcases fits_oneOf_iff.1 fit with ⟨condition, -⟩ | ⟨-, update⟩
  · exact (exists_isLeaf condition).imp fun node => And.imp_right .inl
  · exact (exists_isLeaf update).imp fun node => And.imp_right .inr

lemma exists_isAction (fit : action.Fits v) : ∃ node, ofValue? v = some node ∧ node.IsAction := by
  rw [action_eq_node] at fit
  obtain ⟨node, read, className, texts, parts⟩ := exists_node List.mem_cons_self (.inr (by simp)) fit
    fun fields present fitting => exists_children (by simp) present fitting fun w => exists_isPart
  exact ⟨node, read, className, texts, parts⟩

/-- A value that fits the schema of rule documents is read as the tree of a set of rules. -/
lemma exists_isRoot (fit : ruleDocument.Fits v) : ∃ node, ofValue? v = some node ∧ node.IsRoot := by
  rw [ruleDocument_eq_node] at fit
  obtain ⟨node, read, className, -, actions⟩ := exists_node List.mem_cons_self (.inl rfl) fit
    fun fields present fitting => exists_children (by simp) present fitting fun w => exists_isAction
  exact ⟨node, read, className, actions⟩

end Schema

/-! ## From trees to the schema -/

namespace DesignNode

variable {node : DesignNode} {kind kind' : NodeKind} {names names' required : List String}
  {children : Schema} {path : String}

lemma toValue_eq (node : DesignNode) : node.toValue =
    .object [("className", .string node.className), ("props", .object node.props),
      ("children", .array (node.children.map toValue))] := by
  obtain ⟨className, props, children⟩ := node
  rw [toValue, toValues_eq_map]

/-- The value of a node has all three parts. -/
lemma fits_toValue_iff (parts : required ⊆ ["className", "props", "children"]) :
    (Schema.node required kind (Schema.texts names) children).Fits node.toValue ↔
      node.className = kind.className ∧ node.HasTexts names ∧
        children.Fits (.array (node.children.map toValue)) := by
  rw [toValue_eq, Schema.fits_node_iff]
  constructor
  · rintro ⟨fields, same, -, className, props, fitting⟩
    cases same
    obtain ⟨ps, same, texts⟩ := Schema.fits_texts_iff.1 (props _ rfl)
    cases same
    exact ⟨Value.string.inj (className _ rfl), texts, fitting _ rfl⟩
  · rintro ⟨className, texts, fitting⟩
    refine ⟨_, rfl, fun name mem => ?_, fun w found => ?_, fun w found => ?_, fun w found => ?_⟩
    · have part := parts mem
      simp only [List.mem_cons, List.not_mem_nil, or_false] at part
      rcases part with rfl | rfl | rfl <;> exact ⟨_, rfl⟩
    · obtain rfl : .string node.className = w := Option.some.inj found
      rw [className]
    · obtain rfl : .object node.props = w := Option.some.inj found
      exact Schema.fits_texts_iff.2 ⟨_, rfl, texts⟩
    · obtain rfl : .array (node.children.map toValue) = w := Option.some.inj found
      exact fitting

/-- The value of a leaf fits the schema of its kind, and of no other. -/
lemma fits_leaf_iff (h : node.IsLeaf kind names) : (Schema.leaf kind' names').Fits node.toValue ↔
    kind.className = kind'.className ∧ node.HasTexts names' := by
  rw [Schema.leaf_eq_node, fits_toValue_iff (by simp), h.className, h.children, List.map_nil,
    Schema.fits_emptyList_iff, eq_self_iff_true, and_true]

lemma IsPart.fits (h : node.IsPart) : (Schema.oneOf
    [.leaf .condition ["Condition"], .leaf .update ["stateName", "newValue"]]).Fits node.toValue := by
  rw [Schema.fits_oneOf_iff]
  rcases h with condition | update
  · rw [fits_leaf_iff condition, fits_leaf_iff condition]
    exact .inl ⟨⟨rfl, condition.props⟩, fun other => absurd other.1 (by decide)⟩
  · rw [fits_leaf_iff update, fits_leaf_iff update]
    exact .inr ⟨fun other => absurd other.1 (by decide), rfl, update.props⟩

/-- The values of nodes fit when each of them does. -/
lemma fits_children {P : DesignNode → Prop} {item : Schema} {nodes : List DesignNode}
    (each : ∀ child ∈ nodes, P child) (fits : ∀ child, P child → item.Fits child.toValue) :
    (Schema.list item).Fits (.array (nodes.map toValue)) :=
  Schema.fits_list_iff.2 ⟨_, rfl, List.forall_mem_map.2 fun child mem => fits child (each child mem)⟩

lemma IsAction.fits (h : node.IsAction) : Schema.action.Fits node.toValue := by
  rw [Schema.action_eq_node, fits_toValue_iff (by simp)]
  exact ⟨h.className, h.props, fits_children h.children fun _ => IsPart.fits⟩

/-- The value of the tree of a set of rules fits the schema of rule documents. -/
lemma IsRoot.fits (h : node.IsRoot) : Schema.ruleDocument.Fits node.toValue := by
  rw [Schema.ruleDocument_eq_node, fits_toValue_iff (by simp)]
  exact ⟨h.className, List.forall_mem_nil _, fits_children h.children fun _ => IsAction.fits⟩

/-! ## From trees to rules -/

lemma exists_textProp {name : String} (h : node.HasTexts names) (mem : name ∈ names)
    (path : String) : ∃ s, node.textProp name path = .ok s := by
  obtain ⟨s, found⟩ := h name mem
  exact ⟨s, textProp_of_string found⟩

lemma IsPart.exists_child (h : node.IsPart) (path : String) :
    ∃ child, Rule.childOfDesign path node = .ok child := by
  rcases h with condition | update
  · obtain ⟨expression, read⟩ := exists_textProp condition.props List.mem_cons_self path
    refine ⟨.condition expression, ?_⟩
    simp only [Rule.childOfDesign, condition.className, NodeKind.ofClassName?_className, read]
    rfl
  · obtain ⟨stateName, named⟩ := exists_textProp update.props List.mem_cons_self path
    obtain ⟨newValue, read⟩ :=
      exists_textProp update.props (List.mem_cons_of_mem _ List.mem_cons_self) path
    refine ⟨.update stateName newValue, ?_⟩
    simp only [Rule.childOfDesign, update.className, NodeKind.ofClassName?_className, named, read]
    rfl

lemma IsAction.exists_rule (h : node.IsAction) (path : String) :
    ∃ rule, Rule.ofDesign path node = .ok rule := by
  obtain ⟨origin, read⟩ := exists_textProp h.props List.mem_cons_self path
  obtain ⟨children, taken⟩ := exists_forEachIndexed fun i child mem =>
    (h.children child mem).exists_child (childPath path i)
  refine ⟨⟨origin, children⟩, ?_⟩
  rw [Rule.ofDesign, expect_of_className .action h.className, read, taken]
  rfl

/-- The rules of a tree are taken out of it. -/
lemma IsRoot.exists_rules (h : node.IsRoot) : ∃ rules, RuleSet.ofDesign node = .ok rules := by
  obtain ⟨rules, taken⟩ := exists_forEachIndexed fun i child mem =>
    (h.children child mem).exists_rule (childPath "root" i)
  refine ⟨rules, ?_⟩
  rw [RuleSet.ofDesign, expect_of_className .actions h.className]
  exact taken

end DesignNode

/-! ## From rules to trees -/

lemma Rule.isAction_toDesign (rule : Rule) : rule.toDesign.IsAction where
  className := rfl
  props := by
    intro name mem
    obtain rfl := List.mem_singleton.1 mem
    exact ⟨rule.origin, rfl⟩
  children := by
    refine List.forall_mem_map.2 fun child _ => ?_
    cases child with
    | condition expression =>
      refine .inl ⟨rfl, fun name mem => ?_, rfl⟩
      obtain rfl := List.mem_singleton.1 mem
      exact ⟨expression, rfl⟩
    | update stateName newValue =>
      refine .inr ⟨rfl, fun name mem => ?_, rfl⟩
      rcases List.mem_pair.1 mem with rfl | rfl
      · exact ⟨stateName, rfl⟩
      · exact ⟨newValue, rfl⟩

lemma RuleSet.isRoot_toDesign (rules : RuleSet) : rules.toDesign.IsRoot where
  className := rfl
  children := List.forall_mem_map.2 fun rule _ => rule.isAction_toDesign

/-! ## Loading -/

namespace LoadedRules

/-- The value of the canonical format that loading holds against the schema. -/
def canonicalOf : Value → Except LoadError Value
  | .array records => (RuleSet.ofFlat records).map fun rules => rules.toDesign.toValue
  | v => .ok v

/-- What comes of rules for which nothing but their review is left. -/
def reviewed (rules : RuleSet) (upgraded : Bool) : Except LoadError LoadedRules :=
  if rules.flaws = [] then .ok ⟨rules, upgraded, rules.warnings⟩
  else .error (.invariants (rules.flaws.map RuleFlaw.message))

variable {document canonical : Value} {records : List Value} {node : DesignNode} {rules : RuleSet}

lemma canonicalOf_of_not_isFlat (h : isFlat document = false) :
    canonicalOf document = .ok document := by
  cases document with
  | array records => cases h
  | _ => rfl

lemma canonicalOf_array (read : RuleSet.ofFlat records = .ok rules) :
    canonicalOf (.array records) = .ok rules.toDesign.toValue := by
  rw [canonicalOf, read]
  rfl

/-- Where the three checks are passed, nothing but the review is left. -/
lemma ofDocument_eq_reviewed (same : canonicalOf document = .ok canonical)
    (fit : Schema.ruleDocument.Fits canonical) (read : DesignNode.ofValue? canonical = some node)
    (taken : RuleSet.ofDesign node = .ok rules) :
    ofDocument document = reviewed rules (isFlat document) := by
  rw [Schema.Fits] at fit
  -- What is held against the schema has been found already, so that only the review is left.
  have upgraded : ofDocument document =
      (canonicalOf document >>= fun _ => reviewed rules (isFlat document)) := by
    cases document with
    | array records =>
      obtain ⟨rules_of_records, listed, rfl⟩ := map_eq_ok_iff.1 same
      by_cases flawless : rules.flaws = [] <;>
        simp [ofDocument, canonicalOf, reviewed, listed, fit, read, taken, flawless, Except.map,
          bind, Except.bind, pure, Except.pure, throw, throwThe, MonadExceptOf.throw]
    | _ =>
      obtain rfl := Except.ok.inj same
      by_cases flawless : rules.flaws = [] <;>
        simp [ofDocument, canonicalOf, reviewed, fit, read, taken, flawless, bind, Except.bind,
          pure, Except.pure, throw, throwThe, MonadExceptOf.throw]
  rw [upgraded, same]
  rfl

/-- The checks agree.  A document of the canonical format that fits the schema is read as a tree,
and rules are taken out of the tree.  The tree that a flat document is upgraded to fits the schema,
is read back from its value, and rules are taken out of it.  In both cases the review decides
whether loading succeeds.  And a tree that a document is upgraded to is upgraded to itself. -/
theorem checks_agree (document : Value) :
    (isFlat document = false → Schema.ruleDocument.Fits document →
      ∃ node rules, DesignNode.ofValue? document = some node ∧ RuleSet.ofDesign node = .ok rules ∧
        ofDocument document = reviewed rules false) ∧
    (isFlat document = true → ∀ node, DesignNode.ofDocument document = .ok node →
      Schema.ruleDocument.Fits node.toValue ∧ DesignNode.ofValue? node.toValue = some node ∧
        ∃ rules, RuleSet.ofDesign node = .ok rules ∧ ofDocument document = reviewed rules true) ∧
    ∀ node, DesignNode.ofDocument document = .ok node →
      DesignNode.ofDocument node.toValue = .ok node := by
  refine ⟨fun canonical fit => ?_, fun flat node upgraded => ?_, fun node _ => ?_⟩
  · obtain ⟨node, read, root⟩ := Schema.exists_isRoot fit
    obtain ⟨rules, taken⟩ := root.exists_rules
    refine ⟨node, rules, read, taken, ?_⟩
    rw [ofDocument_eq_reviewed (canonicalOf_of_not_isFlat canonical) fit read taken, canonical]
  · obtain ⟨records, rfl⟩ : ∃ records, document = .array records := by
      cases document with
      | array records => exact ⟨records, rfl⟩
      | _ => cases flat
    obtain ⟨rules, read, rfl⟩ := map_eq_ok_iff.1 upgraded
    have fit := rules.isRoot_toDesign.fits
    have back := DesignNode.ofValue?_toValue rules.toDesign
    have taken := rules.ofDesign_toDesign
    exact ⟨fit, back, rules, taken,
      ofDocument_eq_reviewed (canonicalOf_array read) fit back taken⟩
  · have back := DesignNode.ofValue?_toValue node
    rw [DesignNode.toValue_eq] at back ⊢
    rw [DesignNode.ofDocument, back]

/-- A canonical document that leaves out what may be left out, and a flat document with a condition
that is not a text and an update. -/
theorem checks_agree_on_both_formats :
    let canonical : Value := .object [("className", .string "Actions"), ("children", .array [])]
    let flat : Value := .array [.object [("origin", .string "btn"),
      ("conditions", .array [.bool true]), ("updates", .object [("$a", .string "1")])]]
    (∃ node rules, DesignNode.ofValue? canonical = some node ∧ RuleSet.ofDesign node = .ok rules ∧
      ofDocument canonical = reviewed rules false) ∧
    ∃ node, DesignNode.ofDocument flat = .ok node ∧ Schema.ruleDocument.Fits node.toValue ∧
      DesignNode.ofDocument node.toValue = .ok node ∧
        ∃ rules, RuleSet.ofDesign node = .ok rules ∧ ofDocument flat = reviewed rules true := by
  intro canonical flat
  have fit : Schema.ruleDocument.Fits canonical := by
    unfold Schema.Fits
    rfl
  refine ⟨(checks_agree canonical).1 rfl fit, _, rfl, ?_⟩
  obtain ⟨fits, -, rules⟩ := (checks_agree flat).2.1 rfl _ rfl
  exact ⟨fits, (checks_agree flat).2.2 _ rfl, rules⟩

end LoadedRules

end Reflex
