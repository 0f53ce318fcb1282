import Reflex.Proofs.Ordered
import Reflex.Proofs.Value.Fields
import Reflex.State.Patch

/-!
# What a patch does to one key

A patch acts on each key by itself: what is found under a key afterwards depends on what was found
under it before and on the operations on that key (`Patch.get?_apply`), and so does whether the key
is among the changes (`Fields.mem_changes`).
-/

namespace Reflex

namespace Patch

variable {fs : Fields} {patch : Patch} {key key' : String} {op : PatchOp}

/-- What a patch makes of the value found under a key. -/
def nextAt? (key : String) : Patch → Option Value → Option Value
  | [], current? => current?
  | (k, op) :: patch, current? =>
    nextAt? key patch (if k = key then op.next? current? else current?)

/-- The fields after one operation on a key. -/
def applyOp (fs : Fields) (key : String) (op : PatchOp) : Fields :=
  match op.next? (fs.get? key) with
  | some v => fs.put key v
  | none => fs.remove key

lemma apply_nil : apply fs [] = fs := by rw [apply]

lemma apply_cons : apply fs ((key, op) :: patch) = apply (applyOp fs key op) patch := by
  rw [apply]
  rfl

lemma get?_applyOp_self : (applyOp fs key op).get? key = op.next? (fs.get? key) := by
  rw [applyOp]
  cases op.next? (fs.get? key) with
  | none => exact Fields.get?_remove_self
  | some v => exact Fields.get?_put_self

lemma get?_applyOp_of_ne (h : key' ≠ key) : (applyOp fs key op).get? key' = fs.get? key' := by
  rw [applyOp]
  cases op.next? (fs.get? key) with
  | none => exact Fields.get?_remove_of_ne h
  | some v => exact Fields.get?_put_of_ne h

lemma nodup_applyOp (nodup : fs.names.Nodup) : (applyOp fs key op).names.Nodup := by
  rw [applyOp]
  cases op.next? (fs.get? key) with
  | none => exact Fields.nodup_remove nodup
  | some v => exact Fields.nodup_put nodup

/-- A patch acts on each key by itself. -/
lemma get?_apply (fs : Fields) (patch : Patch) (key : String) :
    (apply fs patch).get? key = nextAt? key patch (fs.get? key) := by
  induction patch generalizing fs with
  | nil => rw [apply_nil, nextAt?]
  | cons entry patch ih =>
    obtain ⟨k, op⟩ := entry
    rw [apply_cons, ih, nextAt?]
    by_cases h : k = key
    · subst h
      rw [get?_applyOp_self, if_pos rfl]
    · rw [get?_applyOp_of_ne (Ne.symm h), if_neg h]

lemma nodup_apply (nodup : fs.names.Nodup) : (apply fs patch).names.Nodup := by
  induction patch generalizing fs with
  | nil => rwa [apply_nil]
  | cons entry patch ih =>
    rw [apply_cons]
    exact ih (nodup_applyOp nodup)

/-- A patch leaves the keys alone that it does not name. -/
lemma nextAt?_of_notMem (h : key ∉ patch.keys) (current? : Option Value) :
    nextAt? key patch current? = current? := by
  induction patch generalizing current? with
  | nil => rfl
  | cons entry patch ih =>
    obtain ⟨k, op⟩ := entry
    rw [keys, List.map_cons, List.mem_cons, not_or] at h
    rw [nextAt?, if_neg (Ne.symm h.1)]
    exact ih h.2 current?

end Patch

namespace Fields

variable {before after : Fields} {key : String}

/-- Whether two results of a look-up differ. -/
def differ : Option Value → Option Value → Bool
  | none, none => false
  | some v, some w => !v.same w
  | _, _ => true

/-- A key under which the two documents differ is among the changes. -/
lemma mem_changes_of_differ (other : differ (before.get? key) (after.get? key) = true) :
    key ∈ before.changes after := by
  rw [changes, NameSet.mem_ofList, List.mem_append, List.mem_map, List.mem_map]
  cases found : after.get? key with
  | none =>
    cases found' : before.get? key with
    | none => rw [found, found'] at other; cases other
    | some v =>
      exact .inr ⟨(key, v), List.mem_filter.2 ⟨mem_of_get? found', by simp [has, found]⟩, rfl⟩
  | some w =>
    refine .inl ⟨(key, w), List.mem_filter.2 ⟨mem_of_get? found, ?_⟩, rfl⟩
    cases found' : before.get? key with
    | none => simp [found']
    | some v => simpa [found, found', differ] using other

/-- A key is among the changes when the two documents differ under it. -/
lemma mem_changes (nodup : after.names.Nodup) :
    key ∈ before.changes after ↔ differ (before.get? key) (after.get? key) = true := by
  refine ⟨fun mem => ?_, mem_changes_of_differ⟩
  rw [changes, NameSet.mem_ofList, List.mem_append, List.mem_map, List.mem_map] at mem
  rcases mem with ⟨⟨k, w⟩, mem, rfl⟩ | ⟨⟨k, v⟩, mem, rfl⟩
  · obtain ⟨mem, other⟩ := List.mem_filter.1 mem
    rw [(get?_eq_some_iff nodup).2 mem]
    cases found : before.get? k with
    | none => rfl
    | some v => simpa [found, differ] using other
  · obtain ⟨mem, gone⟩ := List.mem_filter.1 mem
    have missing : after.get? k = none := by simpa [has] using gone
    rw [missing]
    cases found : before.get? k with
    | none => exact absurd (List.mem_map.2 ⟨_, mem, rfl⟩) (get?_eq_none_iff.1 found)
    | some v => rfl

lemma sorted_changes (before after : Fields) : (before.changes after).Pairwise (· < ·) :=
  NameSet.sorted_ofList _

end Fields

end Reflex
