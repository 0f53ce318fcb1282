import Reflex.Proofs.State.WellFormed
import Reflex.Proofs.Value.Equality

/-!
# Differences between documents

The changes between two documents are the keys under which they differ, so that they obey the laws
of a distance: there are none exactly between equal documents, they are the same in either
direction, and those by way of a third document are no fewer than those on the direct way.  What a
patch changes is among the keys that it names.  `Patch.changes_are_exact` puts this together.
-/

namespace Reflex

namespace Fields

/-- What is found in a well-formed document does not differ from itself. -/
lemma differ_self {fs : Fields} (wellFormed : fs.WellFormed) (key : String) :
    differ (fs.get? key) (fs.get? key) = false := by
  cases found : fs.get? key with
  | none => rfl
  | some v => rw [differ, v.same_self (wellFormed.get? found), Bool.not_true]

/-- Where two results differ, one of them differs from any third. -/
lemma differ_or_differ {first last : Option Value} (middle : Option Value)
    (other : differ first last = true) :
    differ first middle = true ∨ differ middle last = true := by
  cases middle with
  | none =>
    cases first with
    | none => exact .inr other
    | some u => exact .inl rfl
  | some v =>
    cases first with
    | none => exact .inl rfl
    | some u =>
      cases last with
      | none => exact .inr rfl
      | some w =>
        simp only [differ, Bool.not_eq_true'] at other ⊢
        by_contra! same
        rw [Bool.ne_false_iff, Bool.ne_false_iff] at same
        rw [Value.same_trans u same.1 same.2] at other
        cases other

lemma differ_comm {first last : Option Value} (wellFormed : ∀ v, first = some v → v.WellFormed)
    (wellFormed' : ∀ v, last = some v → v.WellFormed) : differ first last = differ last first := by
  cases first with
  | none => cases last <;> rfl
  | some v =>
    cases last with
    | none => rfl
    | some w =>
      have symm : v.same w ↔ w.same v :=
        ⟨v.same_symm (wellFormed v rfl) (wellFormed' w rfl),
          w.same_symm (wellFormed' w rfl) (wellFormed v rfl)⟩
      rw [differ, differ, Bool.eq_iff_iff.2 symm]

/-- Two results differ if only one of them is there, or if both are and are not the same. -/
lemma differ_eq_true_iff {first last : Option Value} : differ first last = true ↔
    first.isSome ≠ last.isSome ∨ ∃ v w, first = some v ∧ last = some w ∧ v.same w = false := by
  cases first <;> cases last <;> simp [differ]

/-- Two well-formed documents are equal if they do not differ under any key. -/
lemma same_of_differ {before after : Fields} (nodup : before.names.Nodup)
    (nodup' : after.names.Nodup)
    (same : ∀ key, differ (before.get? key) (after.get? key) = false) :
    (Value.object before).same (.object after) := by
  have found : ∀ key v, before.get? key = some v → ∃ w, after.get? key = some w ∧ v.same w := by
    intro key v here
    have agree := same key
    rw [here] at agree
    cases there : after.get? key with
    | none =>
      rw [there] at agree
      cases agree
    | some w =>
      rw [there, differ, Bool.not_eq_false'] at agree
      exact ⟨w, rfl, agree⟩
  have missing : ∀ key, before.get? key = none → after.get? key = none := by
    intro key here
    have agree := same key
    rw [here] at agree
    cases there : after.get? key with
    | none => rfl
    | some w =>
      rw [there] at agree
      cases agree
  have names : before.names.Perm after.names := by
    refine (List.perm_ext_iff_of_nodup nodup nodup').2 fun key => not_iff_not.1 ?_
    rw [← get?_eq_none_iff, ← get?_eq_none_iff]
    refine ⟨missing key, fun there => ?_⟩
    by_contra present
    obtain ⟨v, here⟩ := Option.ne_none_iff_exists'.1 present
    obtain ⟨w, there', -⟩ := found key v here
    cases there.symm.trans there'
  have length : before.length = after.length := by
    simpa [Fields.names] using names.length_eq
  rw [Value.same, length, beq_self_eq_true, Bool.true_and]
  exact Value.sameFields_of_forall fun field mem =>
    found field.1 field.2 ((get?_eq_some_iff nodup).2 mem)

/-- Under no key do two well-formed documents differ that are equal. -/
lemma differ_of_same {before after : Fields} (wellFormed : before.WellFormed)
    (wellFormed' : after.WellFormed) (same : (Value.object before).same (.object after))
    (key : String) : differ (before.get? key) (after.get? key) = false := by
  have symm : (Value.object after).same (.object before) :=
    Value.same_symm (.object before) wellFormed wellFormed' same
  simp only [Value.same, Bool.and_eq_true] at same symm
  cases here : before.get? key with
  | some v =>
    obtain ⟨w, there, like⟩ := Value.exists_of_sameFields same.2 (mem_of_get? here)
    rw [there, differ, like, Bool.not_true]
  | none =>
    cases there : after.get? key with
    | none => rfl
    | some w =>
      -- What only the second document has would have its like in the first.
      obtain ⟨v, here', -⟩ := Value.exists_of_sameFields symm.2 (mem_of_get? there)
      cases here.symm.trans here'

lemma changes_eq_nil_iff {before after : Fields} (wellFormed : before.WellFormed)
    (wellFormed' : after.WellFormed) :
    before.changes after = [] ↔ (Value.object before).same (.object after) := by
  constructor
  · intro nothing
    refine same_of_differ wellFormed.1 wellFormed'.1 fun key => Bool.eq_false_iff.2 fun other => ?_
    have changed := mem_changes_of_differ other
    rw [nothing] at changed
    cases changed
  · intro same
    refine List.eq_nil_iff_forall_not_mem.2 fun key changed => ?_
    rw [mem_changes wellFormed'.1, differ_of_same wellFormed wellFormed' same] at changed
    cases changed

lemma changes_comm {before after : Fields} (wellFormed : before.WellFormed)
    (wellFormed' : after.WellFormed) : after.changes before = before.changes after := by
  refine NameSet.eq_of_mem_iff (sorted_changes _ _) (sorted_changes _ _) fun key => ?_
  rw [mem_changes wellFormed.1, mem_changes wellFormed'.1,
    differ_comm (fun v found => wellFormed'.get? found) fun v found => wellFormed.get? found]

/-- What changes on the way to a third document changes on one of the two parts of the way. -/
lemma mem_changes_or_mem_changes {before last : Fields} (after : Fields)
    (nodup : last.names.Nodup) {key : String} (changed : key ∈ before.changes last) :
    key ∈ before.changes after ∨ key ∈ after.changes last :=
  (differ_or_differ (after.get? key) ((mem_changes nodup).1 changed)).imp mem_changes_of_differ
    mem_changes_of_differ

end Fields

namespace Patch

variable {before : Fields} {patch : Patch} {key : String}

/-- A patch changes nothing under a key that it does not name. -/
lemma mem_keys_of_mem_changes (wellFormed : before.WellFormed)
    (changed : key ∈ before.changes (apply before patch)) : key ∈ patch.keys := by
  by_contra unnamed
  have other := (Fields.mem_changes (nodup_apply wellFormed.1)).1 changed
  rw [get?_apply, nextAt?_of_notMem unnamed, Fields.differ_self wellFormed] at other
  cases other

/-- **The changes of a patch are exact.**  A document is patched, by whatever operations.  A key is
among the changes exactly when one of the two documents has it and the other has not, or when both
have it with values that are not the same; every such key is named by the patch.  There are no
changes exactly when the documents are equal as objects, the changes are the same when the documents
change places, and what changes from the first document to any third one changes from the first to
the patched one or from there to the third.  A document is a map, so neither it nor an object in it
repeats a key, and an operation that computes a value computes such a value. -/
theorem changes_are_exact {before : Fields} (wellFormed : before.WellFormed) {patch : Patch}
    (operations : Patch.WellFormed patch) :
    let after := apply before patch
    (∀ key, key ∈ before.changes after ↔ before.has key ≠ after.has key ∨
      ∃ v w, before.get? key = some v ∧ after.get? key = some w ∧ v.same w = false) ∧
    (∀ key ∈ before.changes after, key ∈ patch.keys) ∧
    (before.changes after = [] ↔ (Value.object before).same (.object after)) ∧
    after.changes before = before.changes after ∧
    ∀ last : Fields, last.WellFormed → ∀ key ∈ before.changes last,
      key ∈ before.changes after ∨ key ∈ after.changes last := by
  intro after
  have wellFormed' : after.WellFormed := wellFormed_apply patch operations wellFormed
  refine ⟨fun key => ?_, fun key => mem_keys_of_mem_changes wellFormed,
    Fields.changes_eq_nil_iff wellFormed wellFormed', Fields.changes_comm wellFormed wellFormed',
    fun last third key => Fields.mem_changes_or_mem_changes after third.1⟩
  rw [Fields.mem_changes wellFormed'.1, Fields.differ_eq_true_iff]
  rfl

/-- A patch of all kinds of operations, of which three change something. -/
theorem changes_of_all_kinds :
    let before : Fields := [("$gone", .bool true), ("$kept", .null), ("$name", .string "ann"),
      ("$user", .object [("on", .bool false), ("name", .string "ann")])]
    let patch : Patch := [("$gone", .remove), ("$kept", .default (.bool true)),
      ("$name", .set (.string "ann")), ("$new", .compute fun _ => some .null),
      ("$user", .merge [("on", .set (.bool true))])]
    let after := apply before patch
    before.WellFormed ∧ Patch.WellFormed patch ∧
      before.changes after = ["$gone", "$new", "$user"] ∧
      after.changes before = ["$gone", "$new", "$user"] ∧
      ¬(Value.object before).same (.object after) ∧
      before.has "$new" ≠ after.has "$new" := by
  intro before patch after
  have wellFormed : before.WellFormed := by
    simp [before, Fields.WellFormed, Fields.names, Fields.WellFormedValues, Value.WellFormed]
  have operations : Patch.WellFormed patch := by
    simp [patch, Patch.WellFormed, PatchOp.WellFormed, Value.WellFormed]
  have changes : before.changes after = ["$gone", "$new", "$user"] := by decide
  obtain ⟨present, -, none, comm, -⟩ := changes_are_exact wellFormed operations
  refine ⟨wellFormed, operations, changes, comm.trans changes, fun same => ?_, ?_⟩
  · cases changes.symm.trans (none.2 same)
  · obtain only | ⟨v, w, here, -⟩ := (present "$new").1 (changes ▸ by decide)
    · exact only
    · cases here

end Patch

end Reflex
