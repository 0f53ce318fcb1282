import Reflex.Proofs.Expr.Values
import Reflex.Proofs.Rule.References
import Reflex.Proofs.State.Patch
import Reflex.Proofs.Value.Data
import Reflex.Session.Firing

/-!
# Documents stay well-formed

A patch that puts well-formed values in place keeps a document well-formed, and the updates of a
rule come to such a patch when the state and the event data are well-formed.  What a rule does to a
well-formed document is a well-formed document again (`CompiledRule.wellFormed_apply`).

* `Patch.WellFormed` says of a patch that it puts well-formed values in place, however deep.
* `PatchOp.wellFormed_assign` says it of the assignment of a well-formed value.
* `Rule.plain_compile` says that the expressions of a compiled rule hold none but well-formed
  literals.
-/

namespace Reflex

/-! ## Patches -/

mutual

/-- An operation makes well-formed values of well-formed values. -/
def PatchOp.WellFormed : PatchOp → Prop
  | .set v => v.WellFormed
  | .merge ops => Patch.WellFormed ops
  | .remove => True
  | .default v => v.WellFormed
  | .compute f => ∀ current?, (∀ v, current? = some v → v.WellFormed) →
      ∀ v, f current? = some v → v.WellFormed

/-- The operations of a patch make well-formed values of well-formed values. -/
def Patch.WellFormed : List (String × PatchOp) → Prop
  | [] => True
  | (_, op) :: ops => op.WellFormed ∧ Patch.WellFormed ops

end

lemma Patch.wellFormed_iff {patch : Patch} :
    Patch.WellFormed patch ↔ ∀ entry ∈ patch, entry.2.WellFormed := by
  induction patch with
  | nil => simp [Patch.WellFormed]
  | cons entry patch ih => rw [Patch.WellFormed, ih, List.forall_mem_cons]

lemma Patch.wellFormed_put {patch : Patch} {key : String} {op : PatchOp}
    (wellFormed : Patch.WellFormed patch) (operation : op.WellFormed) :
    Patch.WellFormed (patch.put key op) := by
  refine Patch.wellFormed_iff.2 fun entry mem => ?_
  rcases Ordered.mem_put mem with rfl | mem
  · exact operation
  · exact Patch.wellFormed_iff.1 wellFormed entry mem

mutual

theorem PatchOp.wellFormed_next? {current? : Option Value}
    (current : ∀ v, current? = some v → v.WellFormed) : ∀ op : PatchOp, op.WellFormed →
      ∀ v, op.next? current? = some v → v.WellFormed
  | .set w, wellFormed, v, next => by
    rw [PatchOp.next?] at next
    cases next
    exact wellFormed
  | .merge ops, wellFormed, v, next => by
    rw [PatchOp.next?] at next
    cases next
    refine Patch.wellFormed_apply ops wellFormed ?_
    cases current? with
    | none => exact ⟨List.nodup_nil, trivial⟩
    | some w =>
      cases w with
      | object fields => exact current _ rfl
      | _ => exact ⟨List.nodup_nil, trivial⟩
  | .remove, _, v, next => by
    rw [PatchOp.next?] at next
    cases next
  | .default w, wellFormed, v, next => by
    rw [PatchOp.next?] at next
    cases next
    cases current? with
    | none => exact wellFormed
    | some u => exact current u rfl
  | .compute f, wellFormed, v, next => by
    rw [PatchOp.next?] at next
    exact wellFormed current? current v next

/-- A well-formed patch keeps fields well-formed. -/
theorem Patch.wellFormed_apply : ∀ {fs : Fields} (patch : List (String × PatchOp)),
    Patch.WellFormed patch → fs.WellFormed → (Patch.apply fs patch).WellFormed
  | fs, [], _, fields => by
    rw [Patch.apply]
    exact fields
  | fs, (key, op) :: patch, wellFormed, fields => by
    rw [Patch.apply_cons]
    refine Patch.wellFormed_apply patch wellFormed.2 ?_
    have current : ∀ v, fs.get? key = some v → v.WellFormed := fun v found => fields.get? found
    have next := PatchOp.wellFormed_next? current op wellFormed.1
    rw [Patch.applyOp]
    cases made : op.next? (fs.get? key) with
    | none => exact fields.remove
    | some v => exact fields.put (next v made)

end

mutual

/-- The assignment of a well-formed value is well-formed. -/
theorem PatchOp.wellFormed_assign : ∀ v : Value, v.WellFormed → (PatchOp.assign v).WellFormed
  | .object fields, wellFormed => by
    rw [PatchOp.assign]
    exact PatchOp.wellFormed_assignFields fields wellFormed.2 trivial
  | .null, _ => trivial
  | .bool _, _ => trivial
  | .number _, _ => trivial
  | .string _, _ => trivial
  | .array _, wellFormed => wellFormed

theorem PatchOp.wellFormed_assignFields {acc : List (String × PatchOp)} :
    ∀ fields : List (String × Value), Fields.WellFormedValues fields → Patch.WellFormed acc →
      Patch.WellFormed (PatchOp.assignFields acc fields)
  | [], _, before => before
  | (key, v) :: fields, wellFormed, before => by
    rw [PatchOp.assignFields]
    exact PatchOp.wellFormed_assignFields fields wellFormed.2
      (Patch.wellFormed_put before (PatchOp.wellFormed_assign v wellFormed.1))

end

/-! ## Rules -/

namespace CompiledRule

/-- The new values of a rule hold none but well-formed literals. -/
def Plain (rule : CompiledRule) : Prop :=
  ∀ update ∈ rule.updates, Expr.PlainLiterals update.2.expr.leaves

variable {scope : Scope} {rule : CompiledRule} {patch : Patch}

lemma wellFormed_of_newValues (wellFormed : scope.WellFormed) {updates : List (String × Formula)}
    (plain : ∀ update ∈ updates, Expr.PlainLiterals update.2.expr.leaves)
    {values : List (String × Value)} (done : (newValues scope updates).1 = .ok values) :
    ∀ entry ∈ values, entry.2.WellFormed := by
  induction updates generalizing values with
  | nil =>
    cases done
    simp
  | cons update updates ih =>
    obtain ⟨name, formula⟩ := update
    obtain ⟨here, there⟩ := List.forall_mem_cons.1 plain
    rw [newValues] at done
    cases evaluated : (formula.eval scope).collected with
    | mk result events =>
      rw [evaluated] at done
      cases result with
      | error e => cases done
      | ok v =>
        obtain ⟨values', rest, rfl⟩ := map_eq_ok_iff.1 done
        have value : v.WellFormed := Formula.wellFormed_of_eval wellFormed here (by rw [evaluated])
        exact List.forall_mem_cons.2 ⟨value, ih there rest⟩

lemma wellFormed_assigning {values : List (String × Value)}
    (wellFormed : ∀ entry ∈ values, entry.2.WellFormed) : Patch.WellFormed (assigning values) :=
  List.foldlRecOn values _ (show Patch.WellFormed [] from trivial) fun _ before entry mem =>
    Patch.wellFormed_put before (PatchOp.wellFormed_assign entry.2 (wellFormed entry mem))

/-- What a rule does to a well-formed document is a well-formed document again. -/
theorem wellFormed_apply (wellFormed : scope.WellFormed) (plain : rule.Plain)
    (computed : (rule.patch scope).1 = .ok patch) {document : Fields}
    (before : document.WellFormed) : (Patch.apply document patch).WellFormed := by
  obtain ⟨values, done, rfl⟩ := map_eq_ok_iff.1 computed
  exact Patch.wellFormed_apply _
    (wellFormed_assigning (wellFormed_of_newValues wellFormed plain done)) before

end CompiledRule

/-- A compiled rule holds none but well-formed literals, since its expressions were read from
texts. -/
lemma Rule.plain_compile (rule : Rule) (index : Nat) : (rule.compile index).Plain := by
  intro update mem
  obtain ⟨text, -, parsed⟩ := Rule.exists_of_mem_updates mem
  exact Formula.plainLiterals_of_parse parsed

end Reflex
