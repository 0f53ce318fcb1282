import Reflex.Proofs.File.Disk
import Reflex.Proofs.Json.Pretty
import Reflex.Proofs.Rule.Agreement
import Reflex.Rule.File

/-!
# The canonical form of rules

Rules are kept as the text of their design tree.  The text is read back as the tree and the tree is
loaded as the rules, so that nothing is lost by writing rules down; and what is written next is the
same text again.

* `LoadedRules.ofDocument_toDesign` is about the tree, and `RuleSet.readValue_text` about its text.
* `LoadedRules.does_load_iff` says what loading a file comes to.
* `RuleSet.canonical_form_loses_nothing` is the result.
-/

namespace Reflex

/-! ## The text of a design tree -/

/-- A node is a plain value when its children are and its properties are texts. -/
lemma DesignNode.isPlain_toValue {levels : Nat} {node : DesignNode} (named : node.props.names.Nodup)
    (texts : ∀ prop ∈ node.props, ∃ s, prop.2 = .string s)
    (each : ∀ child ∈ node.children, child.toValue.IsPlain levels) :
    node.toValue.IsPlain (levels + 2) := by
  have props : (Value.object node.props).IsPlain (levels + 1) := by
    refine Value.isPlain_object named fun prop mem => ?_
    obtain ⟨s, text⟩ := texts prop mem
    rw [text]
    exact Value.isPlain_string s
  have children : (Value.array (node.children.map DesignNode.toValue)).IsPlain (levels + 1) :=
    Value.isPlain_array (List.forall_mem_map.2 each)
  rw [DesignNode.toValue_eq]
  refine Value.isPlain_object (by simp [Fields.names]) ?_
  simp only [List.forall_mem_cons]
  exact ⟨Value.isPlain_string _, props, children, List.forall_mem_nil _⟩

lemma Rule.isPlain_toDesign (rule : Rule) : rule.toDesign.toValue.IsPlain 4 := by
  refine DesignNode.isPlain_toValue (List.nodup_singleton _) ?_ (List.forall_mem_map.2 ?_)
  · exact List.forall_mem_singleton.2 ⟨rule.origin, rfl⟩
  · intro child _
    cases child with
    | condition expression =>
      refine DesignNode.isPlain_toValue (List.nodup_singleton _) ?_ (List.forall_mem_nil _)
      exact List.forall_mem_singleton.2 ⟨expression, rfl⟩
    | update stateName newValue =>
      refine DesignNode.isPlain_toValue (by simp [Fields.names]) ?_ (List.forall_mem_nil _)
      exact List.forall_mem_cons.2 ⟨⟨stateName, rfl⟩, List.forall_mem_singleton.2 ⟨newValue, rfl⟩⟩

namespace RuleSet

lemma isPlain_toDesign (rules : RuleSet) : rules.toDesign.toValue.IsPlain 6 :=
  DesignNode.isPlain_toValue List.nodup_nil (List.forall_mem_nil _)
    (List.forall_mem_map.2 fun rule _ => rule.isPlain_toDesign)

/-- The text of rules is read as their design tree. -/
theorem readValue_text (rules : RuleSet) :
    Json.readValue rules.text = .ok rules.toDesign.toValue :=
  Value.readValue_pretty (rules.isPlain_toDesign.mono (by decide)) Json.isBlank_lineEnd

end RuleSet

namespace LoadedRules

variable {document canonical : Value} {rules : RuleSet} {loaded : LoadedRules}

/-- Of the design tree of rules nothing is left to check but the rules themselves. -/
theorem ofDocument_toDesign (rules : RuleSet) :
    ofDocument rules.toDesign.toValue = reviewed rules false := by
  have notFlat : isFlat rules.toDesign.toValue = false := by
    rw [DesignNode.toValue_eq]
    rfl
  rw [ofDocument_eq_reviewed (canonicalOf_of_not_isFlat notFlat) rules.isRoot_toDesign.fits
    (DesignNode.ofValue?_toValue _) rules.ofDesign_toDesign, notFlat]

/-- Of a flat document that is read nothing is left to check but the rules either. -/
lemma ofDocument_of_ofFlat {records : List Value} (read : RuleSet.ofFlat records = .ok rules) :
    ofDocument (.array records) = reviewed rules true :=
  ofDocument_eq_reviewed (canonicalOf_array read) rules.isRoot_toDesign.fits
    (DesignNode.ofValue?_toValue _) rules.ofDesign_toDesign

lemma reviewed_eq_ok_iff {upgraded : Bool} : reviewed rules upgraded = .ok loaded ↔
    rules.flaws = [] ∧ loaded = ⟨rules, upgraded, rules.warnings⟩ := by
  rw [reviewed]
  by_cases flawless : rules.flaws = []
  · simp [flawless, eq_comm]
  · simp [flawless]

/-- A document that is accepted fits the schema, if need be after it was upgraded. -/
lemma exists_canonical (accepted : ofDocument document = .ok loaded) :
    ∃ canonical, canonicalOf document = .ok canonical ∧ Schema.ruleDocument.Fits canonical := by
  cases document with
  | array records =>
    cases listed : RuleSet.ofFlat records with
    | error e =>
      simp [ofDocument, listed, Except.map, bind, Except.bind] at accepted
    | ok rules =>
      refine ⟨_, canonicalOf_array listed, ?_⟩
      by_contra unfit
      rw [Schema.Fits] at unfit
      simp [ofDocument, listed, unfit, Except.map, bind, Except.bind, throw, throwThe,
        MonadExceptOf.throw] at accepted
  | _ =>
    refine ⟨_, canonicalOf_of_not_isFlat rfl, ?_⟩
    by_contra unfit
    rw [Schema.Fits] at unfit
    simp [ofDocument, unfit, bind, Except.bind, throw, throwThe, MonadExceptOf.throw] at accepted

/-- Rules that were loaded have passed their review. -/
lemma reviewed_of_ofDocument (accepted : ofDocument document = .ok loaded) :
    loaded.rules.flaws = [] ∧ loaded = ⟨loaded.rules, isFlat document, loaded.rules.warnings⟩ := by
  obtain ⟨canonical, upgraded, fit⟩ := exists_canonical accepted
  obtain ⟨node, read, root⟩ := Schema.exists_isRoot fit
  obtain ⟨rules, taken⟩ := root.exists_rules
  rw [ofDocument_eq_reviewed upgraded fit read taken, reviewed_eq_ok_iff] at accepted
  obtain ⟨flawless, rfl⟩ := accepted
  exact ⟨flawless, rfl⟩

/-- A file is loaded when its text is that of a document that is accepted.  The disk stays as it
is. -/
lemma does_load_iff {path : String} {disk disk' : Disk} :
    (load path : Attempt (StateM Disk) LoadedRules).Does disk loaded disk' ↔
      ∃ text document, disk.readText path = .ok text ∧ Json.readValue text = .ok document ∧
        ofDocument document = .ok loaded ∧ disk' = disk := by
  have reading : ((MonadFiles.readText path : StateM Disk (Except FileError String)).run disk).run =
      (disk.readText path, disk) := rfl
  unfold load
  simp only [Attempt.does_bind_iff, Attempt.does_file_iff, Attempt.does_within_iff,
    Attempt.does_ofExcept_iff, reading, Prod.mk.injEq]
  constructor
  · rintro ⟨text, _, ⟨read, rfl⟩, document, _, ⟨parsed, rfl⟩, accepted, rfl⟩
    exact ⟨text, document, read, parsed, accepted, rfl⟩
  · rintro ⟨text, document, read, parsed, accepted, rfl⟩
    exact ⟨text, _, ⟨read, rfl⟩, document, _, ⟨parsed, rfl⟩, accepted, rfl⟩

/-- The rules of a document that was accepted are accepted as they are when they are read from their
own text. -/
lemma ofDocument_of_accepted (accepted : ofDocument document = .ok loaded) :
    ofDocument loaded.rules.toDesign.toValue =
      .ok ⟨loaded.rules, false, loaded.rules.warnings⟩ := by
  rw [ofDocument_toDesign, reviewed_eq_ok_iff]
  exact ⟨(reviewed_of_ofDocument accepted).1, rfl⟩

end LoadedRules

/-- **The canonical form loses nothing.**  The text of rules, whatever texts they hold and however
conditions and updates follow each other, is read as their design tree.  The tree is loaded exactly
when the review finds no flaw in the rules; then it is loaded as these rules, not as an upgrade, and
with their warnings.

So it is with every document that is accepted, be it flat or of the canonical format: the text of
its rules is loaded as the same rules.  And so it is with files: when the rules of any file are
loaded and saved, at the same path or at another, loading the saved file gives the same rules, and
saving these at any path gives the same text again. -/
theorem RuleSet.canonical_form_loses_nothing :
    (∀ rules : RuleSet, Json.readValue rules.text = .ok rules.toDesign.toValue ∧
      ∀ loaded, LoadedRules.ofDocument rules.toDesign.toValue = .ok loaded ↔
        rules.flaws = [] ∧ loaded = ⟨rules, false, rules.warnings⟩) ∧
    (∀ document loaded, LoadedRules.ofDocument document = .ok loaded →
      (Json.readValue loaded.rules.text).toOption.map LoadedRules.ofDocument =
        some (.ok ⟨loaded.rules, false, loaded.warnings⟩)) ∧
    ∀ (path target : String) (disk disk' saved : Disk) (loaded : LoadedRules),
      (LoadedRules.load path : Attempt (StateM Disk) LoadedRules).Does disk loaded disk' →
      (loaded.rules.save target : Attempt (StateM Disk) Unit).Does disk' () saved →
        (LoadedRules.load target : Attempt (StateM Disk) LoadedRules).Does saved
          ⟨loaded.rules, false, loaded.warnings⟩ saved ∧
        ∀ (target' : String) (again : Disk),
          (loaded.rules.save target' : Attempt (StateM Disk) Unit).Does saved () again →
            again.readText target' = saved.readText target := by
  refine ⟨fun rules => ⟨rules.readValue_text, fun loaded => ?_⟩, ?_, ?_⟩
  · rw [LoadedRules.ofDocument_toDesign, LoadedRules.reviewed_eq_ok_iff]
  · intro document loaded accepted
    have warnings : loaded.warnings = loaded.rules.warnings :=
      congrArg LoadedRules.warnings (LoadedRules.reviewed_of_ofDocument accepted).2
    rw [loaded.rules.readValue_text, warnings, ← LoadedRules.ofDocument_of_accepted accepted]
    rfl
  · intro path target disk disk' saved loaded loads saves
    obtain ⟨text, document, -, -, accepted, -⟩ := LoadedRules.does_load_iff.1 loads
    have warnings : loaded.warnings = loaded.rules.warnings :=
      congrArg LoadedRules.warnings (LoadedRules.reviewed_of_ofDocument accepted).2
    have written : saved.readText target = .ok loaded.rules.text := readText_of_replaceFile saves
    constructor
    · rw [warnings]
      exact LoadedRules.does_load_iff.2 ⟨_, _, written, loaded.rules.readValue_text,
        LoadedRules.ofDocument_of_accepted accepted, rfl⟩
    · intro target' again savesAgain
      rw [written]
      exact readText_of_replaceFile savesAgain

/-- A working directory with a rule file of the flat format. -/
def flatDisk : Disk where
  root := "/h"
  nodes := [(["a"], .file (String.ofList ['[', '\x7b', '\x22', 'o', 'r', 'i', 'g', 'i', 'n', '\x22',
    ':', '\x22', 'b', '\x22', '\x7d', ']']))]

/-- The rules of the file are loaded as an upgrade, saved in its place, and loaded as the same rules
again. -/
theorem flat_file_is_saved_and_loaded :
    let rules : RuleSet := [.ofParts "b" [] []]
    (LoadedRules.load "a" : Attempt (StateM Disk) LoadedRules).Does flatDisk ⟨rules, true, []⟩
      flatDisk ∧
    ∃ saved, (rules.save "a" : Attempt (StateM Disk) Unit).Does flatDisk () saved ∧
      (LoadedRules.load "a" : Attempt (StateM Disk) LoadedRules).Does saved ⟨rules, false, []⟩
        saved := by
  intro rules
  have loads : (LoadedRules.load "a" : Attempt (StateM Disk) LoadedRules).Does flatDisk
      ⟨rules, true, []⟩ flatDisk := by
    refine LoadedRules.does_load_iff.2
      ⟨_, .array [.object [("origin", .string "b")]], rfl, ?_, ?_, rfl⟩
    · rw [Json.readValue, Json.read, String.toList_ofList, String.length_ofList]
      decide +kernel
    · rfl
  let written (text : String) := flatDisk.put ["a.json.tmp"] (.file text)
  let saved (text : String) := ((written text).erase ["a.json.tmp"]).put ["a"] (.file text)
  have writes (text : String) : flatDisk.writeText "a.json.tmp" text = .ok (written text) := rfl
  have renames (text : String) : (written text).rename "a.json.tmp" "a" = .ok (saved text) := by
    have spares : Disk.Spares flatDisk (written text) := .put (by decide)
    have source : (written text).destination "a.json.tmp" =
        .ok (some ⟨[], "a.json.tmp", false⟩) :=
      Disk.destination_eq_some_iff.2 ((Disk.destination_eq_some_iff.1 rfl).of_spares spares)
    have target : (written text).destination "a" = .ok (some ⟨[], "a", false⟩) :=
      Disk.destination_eq_some_iff.2 ((Disk.destination_eq_some_iff.1 rfl).of_spares spares)
    rw [Disk.rename, source, target]
    rfl
  have saves : (rules.save "a" : Attempt (StateM Disk) Unit).Does flatDisk ()
      (saved rules.text) := by
    unfold RuleSet.save replaceFile
    simp only [Attempt.does_bind_iff, Attempt.does_file_iff]
    exact ⟨(), flatDisk, rfl, (), written rules.text,
      Disk.attempt_eq_ok_iff.2 (writes rules.text), Disk.attempt_eq_ok_iff.2 (renames rules.text)⟩
  obtain ⟨-, -, files⟩ := RuleSet.canonical_form_loses_nothing
  exact ⟨loads, saved rules.text, saves, (files "a" "a" flatDisk flatDisk _ _ loads saves).1⟩

end Reflex
