import Reflex.Datum
import Reflex.Proofs.Value.Fields

/-!
# Values and the data they are read from

A well-formed value is what its own datum stands for, and whatever value a datum stands for is
well-formed, since a table that repeats a name keeps its last value.

* `Datum.toValue?_ofValue` takes a value back out of its datum.
* `Datum.wellFormed_of_toValue?` says that a value that was read is well-formed.
-/

namespace Reflex

namespace Fields

variable {fs gs : Fields} {key : String} {v : Value}

lemma put_of_notMem (new : key ∉ fs.names) : fs.put key v = fs ++ [(key, v)] := by
  induction fs with
  | nil => rfl
  | cons field fs ih =>
    obtain ⟨k, w⟩ := field
    obtain ⟨other, new⟩ := not_or.1 (mt List.mem_cons.2 new)
    rw [put, if_neg (by simpa using Ne.symm other), ih new, List.cons_append]

/-- Fields whose names are not repeated are set one after the other as they are. -/
lemma ofList_of_nodup (nodup : fs.names.Nodup) : ofList fs = fs := by
  suffices general : ∀ gs : Fields, (gs ++ fs).names.Nodup →
      fs.foldl (fun hs field => hs.put field.1 field.2) gs = gs ++ fs from
    general [] nodup
  clear nodup
  induction fs with
  | nil => exact fun gs _ => (List.append_nil gs).symm
  | cons field fs ih =>
    obtain ⟨key, v⟩ := field
    intro gs nodup
    have new : key ∉ gs.names := by
      rw [names, List.map_append, List.map_cons] at nodup
      exact fun mem => (List.nodup_append.1 nodup).2.2 key mem key List.mem_cons_self rfl
    have appended : gs ++ (key, v) :: fs = (gs ++ [(key, v)]) ++ fs := by simp
    rw [List.foldl_cons, put_of_notMem new, appended]
    exact ih _ (appended ▸ nodup)

/-! ## Well-formed fields -/

lemma mem_put {field : String × Value} (mem : field ∈ fs.put key v) :
    field = (key, v) ∨ field ∈ fs := by
  induction fs with
  | nil => exact .inl (List.mem_singleton.1 mem)
  | cons other fs ih =>
    obtain ⟨k, w⟩ := other
    rw [put] at mem
    split at mem
    · rename_i same
      obtain rfl : k = key := by simpa using same
      exact (List.mem_cons.1 mem).imp_right (List.mem_cons_of_mem _)
    · rcases List.mem_cons.1 mem with rfl | mem
      · exact .inr List.mem_cons_self
      · exact (ih mem).imp_right (List.mem_cons_of_mem _)

lemma WellFormed.put (wellFormed : fs.WellFormed) (value : v.WellFormed) :
    (fs.put key v).WellFormed := by
  refine ⟨nodup_put wellFormed.1, wellFormedValues_iff.2 fun field mem => ?_⟩
  rcases mem_put mem with rfl | mem
  · exact value
  · exact wellFormedValues_iff.1 wellFormed.2 field mem

lemma WellFormed.remove (wellFormed : fs.WellFormed) : (fs.remove key).WellFormed :=
  ⟨nodup_remove wellFormed.1, wellFormedValues_iff.2 fun field mem =>
    wellFormedValues_iff.1 wellFormed.2 field (List.mem_of_mem_filter mem)⟩

/-- Fields that are set one after the other are well-formed when their values are. -/
lemma wellFormed_ofList {pairs : List (String × Value)} (values : WellFormedValues pairs) :
    (ofList pairs).WellFormed := by
  suffices general : ∀ gs : Fields, gs.WellFormed →
      (pairs.foldl (fun hs field => hs.put field.1 field.2) gs).WellFormed from
    general [] ⟨List.nodup_nil, trivial⟩
  induction pairs with
  | nil => exact fun gs wellFormed => wellFormed
  | cons pair pairs ih => exact fun gs wellFormed => ih values.2 _ (wellFormed.put values.1)

end Fields

namespace Datum

mutual

/-- A well-formed value is what its datum stands for. -/
theorem toValue?_ofValue : ∀ v : Value, v.WellFormed → (ofValue v).toValue? = some v
  | .null, _ => rfl
  | .bool _, _ => rfl
  | .number (.int n isWord), _ => by rw [ofValue, toValue?, dif_pos isWord]
  | .number (.float _), _ => rfl
  | .string _, _ => rfl
  | .array items, wellFormed => by
    rw [ofValue, toValue?, toValues?_ofValues items wellFormed]
    rfl
  | .object fields, wellFormed => by
    rw [ofValue, toValue?, toFields?_ofFields fields wellFormed.2, Option.map_some,
      Fields.ofList_of_nodup wellFormed.1]

theorem toValues?_ofValues : ∀ items : List Value, Value.WellFormedItems items →
    toValues? (ofValues items) = some items
  | [], _ => rfl
  | v :: items, wellFormed => by
    rw [ofValues, toValues?, toValue?_ofValue v wellFormed.1, toValues?_ofValues items wellFormed.2]
    rfl

theorem toFields?_ofFields : ∀ fields : List (String × Value), Fields.WellFormedValues fields →
    toFields? (ofFields fields) = some fields
  | [], _ => rfl
  | (_, v) :: fields, wellFormed => by
    rw [ofFields, toFields?, toValue?_ofValue v wellFormed.1,
      toFields?_ofFields fields wellFormed.2]
    rfl

end

mutual

/-- What a datum stands for is well-formed. -/
theorem wellFormed_of_toValue? : ∀ (d : Datum) {v : Value}, d.toValue? = some v → v.WellFormed
  | .null, _, h => by
    cases h
    trivial
  | .bool _, _, h => by
    cases h
    trivial
  | .integer n, v, h => by
    rw [toValue?] at h
    split at h
    · cases h
      trivial
    · cases h
  | .float (.finite x), v, h => by
    cases h
    trivial
  | .float (.infinite _), v, h => by
    cases h
    trivial
  | .float .nan, v, h => by
    cases h
    trivial
  | .string _, _, h => by
    cases h
    trivial
  | .array items, v, h => by
    rw [toValue?, Option.map_eq_some_iff] at h
    obtain ⟨values, read, rfl⟩ := h
    exact wellFormed_of_toValues? items read
  | .table entries, v, h => by
    rw [toValue?, Option.map_eq_some_iff] at h
    obtain ⟨pairs, read, rfl⟩ := h
    exact Fields.wellFormed_ofList (wellFormed_of_toFields? entries read)
  | .unreadable, _, h => by cases h

theorem wellFormed_of_toValues? : ∀ (ds : List Datum) {vs : List Value},
    toValues? ds = some vs → Value.WellFormedItems vs
  | [], vs, h => by
    cases h
    trivial
  | d :: ds, vs, h => by
    simp only [toValues?, Option.bind_eq_bind, Option.bind_eq_some_iff] at h
    obtain ⟨v, first, vs', others, made⟩ := h
    cases made
    exact ⟨wellFormed_of_toValue? d first, wellFormed_of_toValues? ds others⟩

theorem wellFormed_of_toFields? : ∀ (ds : List (String × Datum)) {fs : List (String × Value)},
    toFields? ds = some fs → Fields.WellFormedValues fs
  | [], fs, h => by
    cases h
    trivial
  | (key, d) :: ds, fs, h => by
    simp only [toFields?, Option.bind_eq_bind, Option.bind_eq_some_iff] at h
    obtain ⟨v, first, vs', others, made⟩ := h
    cases made
    exact ⟨wellFormed_of_toValue? d first, wellFormed_of_toFields? ds others⟩

end

end Datum

end Reflex
