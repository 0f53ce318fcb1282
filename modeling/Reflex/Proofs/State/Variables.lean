import Reflex.Proofs.State.Patch
import Reflex.Proofs.Value.Equality
import Reflex.State.Store

/-!
# The values of state variables

A state variable is what a path begins with, and its value is a field of the document.  An update
that does not count a state variable among its changes leaves a value there that agrees with the one
before (`Store.agrees_of_notMem_changesOf`).
-/

namespace Reflex

/-- The state variable that a path begins with has no dot in its name. -/
lemma Path.exists_topLevel (path : String) :
    ∃ cs : List Char, '.' ∉ cs ∧ topLevel path = String.ofList cs := by
  rw [topLevel, segments]
  by_cases dotted : '.' ∈ path.toList
  · obtain ⟨cs, rest, split, undotted⟩ := List.eq_append_cons_of_mem dotted
    exact ⟨cs, undotted, by rw [split, List.splitOn_append_cons_self_of_not_mem undotted]; rfl⟩
  · exact ⟨path.toList, dotted, by rw [List.splitOn_eq_singleton dotted]; rfl⟩

lemma Path.segments_topLevel (path : String) : segments (topLevel path) = [topLevel path] := by
  obtain ⟨cs, undotted, name⟩ := exists_topLevel path
  rw [name, segments, String.toList_ofList, List.splitOn_eq_singleton undotted]
  rfl

/-- What a document has under two names agrees when the names are not among the changes. -/
lemma Fields.agrees_of_notMem_changes {before after : Fields} {key : String}
    (unchanged : key ∉ before.changes after) :
    ((before.get? key).getD .null).Agrees ((after.get? key).getD .null) := by
  have same : differ (before.get? key) (after.get? key) = false :=
    Bool.eq_false_iff.2 fun other => unchanged (mem_changes_of_differ other)
  cases found : before.get? key with
  | none =>
    cases found' : after.get? key with
    | none => exact .refl _
    | some w =>
      rw [found, found'] at same
      cases same
  | some v =>
    cases found' : after.get? key with
    | none =>
      rw [found, found'] at same
      cases same
    | some w =>
      rw [found, found', differ, Bool.not_eq_false'] at same
      exact .inr same

namespace Store

/-- The value of a state variable is a field of the document. -/
lemma get_topLevel (store : Store) (path : String) :
    store.get (Path.topLevel path) = (store.document.get? (Path.topLevel path)).getD .null := by
  simp only [get, getOr, Path.lookup?, Path.segments_topLevel]
  cases store.document.get? (Path.topLevel path) <;> simp

/-- A state variable that an update does not count among its changes keeps a value that agrees. -/
lemma agrees_of_notMem_changesOf {store : Store} {patch : Patch} {path : String}
    (unchanged : Path.topLevel path ∉ store.changesOf patch) :
    (store.get (Path.topLevel path)).Agrees ((store.commit patch).get (Path.topLevel path)) := by
  rw [get_topLevel, get_topLevel]
  exact Fields.agrees_of_notMem_changes unchanged

end Store

end Reflex
