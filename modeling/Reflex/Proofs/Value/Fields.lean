import Reflex.Proofs.Ordered
import Reflex.Value.Basic

/-!
# Fields and what a look-up finds

The fields of an object are a list of pairs.  What can be said of them is said through
`Fields.get?`: setting and removing a field changes what is found under its own name and nothing
else.  A list without repeated names is determined by what it answers (`get?_eq_some_iff`), and
both operations keep names from being repeated.

* `Value.WellFormed` says that no object inside of a value repeats a name, and `Fields.WellFormed`
  says it of a document.
* `Value.same_self` says that a well-formed value equals itself.  With a repeated name it need
  not, since the second field of that name is compared with the first.
-/

namespace Reflex

namespace Fields

variable {fs : Fields} {key key' : String} {v w : Value}

@[simp] lemma get?_nil : Fields.get? [] key = none := rfl

lemma get?_cons :
    Fields.get? ((key', v) :: fs) key = if key = key' then some v else fs.get? key := by
  rw [get?, List.lookup_cons]
  by_cases h : key = key'
  · simp [h]
  · rw [beq_false_of_ne h, if_neg h]
    rfl

@[simp] lemma get?_put_self : (fs.put key v).get? key = some v := by
  induction fs with
  | nil => simp [put, get?_cons]
  | cons entry fs ih =>
    obtain ⟨k, w⟩ := entry
    by_cases h : k = key
    · simp [put, h, get?_cons]
    · simp [put, h, get?_cons, ih, Ne.symm h]

lemma get?_put_of_ne (h : key' ≠ key) : (fs.put key v).get? key' = fs.get? key' := by
  induction fs with
  | nil => simp [put, get?_cons, h]
  | cons entry fs ih =>
    obtain ⟨k, w⟩ := entry
    by_cases hk : k = key
    · simp [put, hk, get?_cons, h]
    · simp [put, hk, get?_cons, ih]

@[simp] lemma get?_remove_self : (fs.remove key).get? key = none := by
  induction fs with
  | nil => rfl
  | cons entry fs ih =>
    obtain ⟨k, w⟩ := entry
    rw [remove] at ih ⊢
    by_cases h : k = key
    · simpa [h] using ih
    · simpa [h, get?_cons, Ne.symm h] using ih

lemma get?_remove_of_ne (h : key' ≠ key) : (fs.remove key).get? key' = fs.get? key' := by
  induction fs with
  | nil => rfl
  | cons entry fs ih =>
    obtain ⟨k, w⟩ := entry
    rw [remove] at ih ⊢
    by_cases hk : k = key
    · simpa [hk, get?_cons, h] using ih
    · simp [hk, get?_cons, ih]

/-! ## Repeated names -/

lemma get?_eq_none_iff : fs.get? key = none ↔ key ∉ fs.names := by
  rw [get?, List.lookup_eq_none_iff, names, List.mem_map]
  constructor
  · rintro h ⟨entry, mem, rfl⟩
    simpa using h entry mem
  · intro h entry mem
    rw [bne_iff_ne]
    rintro rfl
    exact h ⟨entry, mem, rfl⟩

lemma mem_of_get? (h : fs.get? key = some v) : (key, v) ∈ fs :=
  Ordered.mem_of_lookup h

/-- Without repeated names a look-up finds every field. -/
lemma get?_eq_some_iff (nodup : fs.names.Nodup) : fs.get? key = some v ↔ (key, v) ∈ fs :=
  Ordered.lookup_eq_some_iff nodup

lemma mem_names_put : key' ∈ (fs.put key v).names ↔ key' = key ∨ key' ∈ fs.names := by
  rw [← not_iff_not, ← get?_eq_none_iff, not_or]
  by_cases h : key' = key
  · simp [h]
  · simp [h, get?_put_of_ne h, get?_eq_none_iff]

/-- A new field stands behind all others. -/
lemma names_put :
    (fs.put key v).names = if key ∈ fs.names then fs.names else fs.names ++ [key] := by
  induction fs with
  | nil => simp [put, names]
  | cons entry fs ih =>
    obtain ⟨k, w⟩ := entry
    by_cases h : k = key
    · simp [put, h, names]
    · have more : (put ((k, w) :: fs) key v).names = k :: (put fs key v).names := by
        simp [put, h, names]
      have present : key ∈ names ((k, w) :: fs) ↔ key ∈ names fs := by
        simp [names, Ne.symm h]
      simp only [more, ih, present]
      split <;> rfl

lemma nodup_put (nodup : fs.names.Nodup) : (fs.put key v).names.Nodup := by
  induction fs with
  | nil => simp [put, names]
  | cons entry fs ih =>
    obtain ⟨k, w⟩ := entry
    by_cases h : k = key
    · rw [put, if_pos (by simpa using h)]
      exact nodup
    · rw [names, List.map_cons, List.nodup_cons] at nodup
      rw [put, if_neg (by simpa using h), names, List.map_cons, List.nodup_cons]
      refine ⟨fun mem => ?_, ih nodup.2⟩
      rcases mem_names_put.1 mem with same | mem
      · exact h same
      · exact nodup.1 mem

lemma nodup_remove (nodup : fs.names.Nodup) : (fs.remove key).names.Nodup :=
  nodup.sublist (List.filter_sublist.map _)

end Fields

/-! ## Well-formed values -/

mutual

/-- No object in the value repeats a name. -/
def Value.WellFormed : Value → Prop
  | .array items => Value.WellFormedItems items
  | .object fields => (fields.map (·.1)).Nodup ∧ Fields.WellFormedValues fields
  | _ => True

/-- No object in any of the items repeats a name. -/
def Value.WellFormedItems : List Value → Prop
  | [] => True
  | v :: items => v.WellFormed ∧ Value.WellFormedItems items

/-- No object in the value of any field repeats a name. -/
def Fields.WellFormedValues : List (String × Value) → Prop
  | [] => True
  | (_, v) :: fields => v.WellFormed ∧ Fields.WellFormedValues fields

end

/-- The fields repeat no name, and neither does any object in their values. -/
def Fields.WellFormed (fs : Fields) : Prop :=
  fs.names.Nodup ∧ Fields.WellFormedValues fs

lemma Value.wellFormedItems_iff {items : List Value} :
    WellFormedItems items ↔ ∀ v ∈ items, v.WellFormed := by
  induction items with
  | nil => simp [WellFormedItems]
  | cons v items ih => rw [WellFormedItems, ih, List.forall_mem_cons]

lemma Fields.wellFormedValues_iff {fs : Fields} :
    Fields.WellFormedValues fs ↔ ∀ entry ∈ fs, entry.2.WellFormed := by
  induction fs with
  | nil => simp [WellFormedValues]
  | cons entry fs ih =>
    rw [WellFormedValues, ih, List.forall_mem_cons]

lemma Fields.WellFormed.get? {fs : Fields} (h : fs.WellFormed) {key : String} {v : Value}
    (found : fs.get? key = some v) : v.WellFormed :=
  wellFormedValues_iff.1 h.2 _ (mem_of_get? found)

lemma Number.same_self (n : Number) : n.same n = true := by
  cases n <;> simp [same, Binary64.sameValue]

mutual

/-- A well-formed value equals itself. -/
theorem Value.same_self : ∀ v : Value, v.WellFormed → v.same v = true
  | .null, _ => rfl
  | .bool b, _ => by simp [Value.same]
  | .number n, _ => n.same_self
  | .string s, _ => by simp [Value.same]
  | .array items, h => sameItems_self items h
  | .object fields, h => by
    simp only [Value.same, beq_self_eq_true, Bool.true_and]
    exact sameFields_self fields fields h.2 fun entry mem => (Fields.get?_eq_some_iff h.1).2 mem

theorem Value.sameItems_self :
    ∀ items : List Value, Value.WellFormedItems items → Value.sameItems items items = true
  | [], _ => rfl
  | v :: items, h => by
    simp only [Value.sameItems, Bool.and_eq_true]
    exact ⟨same_self v h.1, sameItems_self items h.2⟩

theorem Value.sameFields_self :
    ∀ (fields : List (String × Value)) (all : Fields), Fields.WellFormedValues fields →
      (∀ entry ∈ fields, all.get? entry.1 = some entry.2) → Value.sameFields fields all = true
  | [], _, _, _ => rfl
  | (key, v) :: fields, all, h, found => by
    have here : all.get? key = some v := found (key, v) List.mem_cons_self
    simp only [Value.sameFields, here, Bool.and_eq_true]
    exact ⟨same_self v h.1,
      sameFields_self fields all h.2 fun entry mem => found entry (List.mem_cons_of_mem _ mem)⟩

end

end Reflex
