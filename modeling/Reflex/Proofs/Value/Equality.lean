import Reflex.Proofs.Value.Fields

/-!
# Structural equality

`Value.same` compares objects field by field and floating numbers by value.  It is transitive, and
needs no well-formed values for that; to equal itself a value has to be well-formed, and so have two
values that equal each other in either order (`Value.same_symm`).  `Value.Agrees` is the relation of
values that are identical or structurally equal, so that it is reflexive as well.
-/

namespace Reflex

lemma Binary64.sameValue_trans {x y z : Binary64} (h : x.sameValue y) (h' : y.sameValue z) :
    x.sameValue z := by
  rw [sameValue, beq_iff_eq] at *
  exact h.trans h'

lemma Binary64.sameValue_symm {x y : Binary64} (h : x.sameValue y) : y.sameValue x := by
  rw [sameValue, beq_iff_eq] at *
  exact h.symm

lemma Number.same_trans {n m k : Number} (h : n.same m) (h' : m.same k) : n.same k := by
  cases n <;> cases m <;> cases k <;> simp only [same, Bool.false_eq_true] at h h' ⊢
  · rw [beq_iff_eq] at *
    exact h.trans h'
  · exact Binary64.sameValue_trans h h'

lemma Number.same_symm {n m : Number} (h : n.same m) : m.same n := by
  cases n <;> cases m <;> simp only [same, Bool.false_eq_true] at h ⊢
  · rw [beq_iff_eq] at *
    exact h.symm
  · exact Binary64.sameValue_symm h

namespace Value

/-- A field of an object has the same value in one that equals it. -/
lemma exists_of_sameFields {fs gs : Fields} (h : sameFields fs gs) {key : String} {v : Value}
    (mem : (key, v) ∈ fs) : ∃ w, gs.get? key = some w ∧ v.same w := by
  induction fs with
  | nil => cases mem
  | cons field fs ih =>
    obtain ⟨k, u⟩ := field
    rw [sameFields, Bool.and_eq_true] at h
    rcases List.mem_cons.1 mem with same | mem
    · cases same
      cases found : gs.get? key with
      | none =>
        simp only [found] at h
        cases h.1
      | some w =>
        simp only [found] at h
        exact ⟨w, rfl, h.1⟩
    · exact ih h.2 mem

lemma sameFields_of_forall {fs gs : Fields}
    (h : ∀ field ∈ fs, ∃ w, gs.get? field.1 = some w ∧ field.2.same w) : sameFields fs gs := by
  induction fs with
  | nil => rfl
  | cons field fs ih =>
    obtain ⟨here, there⟩ := List.forall_mem_cons.1 h
    obtain ⟨w, found, same⟩ := here
    simp only [sameFields, found, same, Bool.true_and]
    exact ih there

/-- Objects of the same size have the same names if each field of one has its like in the other. -/
lemma names_perm_of_sameFields {fs gs : Fields} (nodup : fs.names.Nodup)
    (length : fs.length = gs.length) (h : sameFields fs gs) : fs.names.Perm gs.names := by
  have sub : fs.names ⊆ gs.names := by
    intro key mem
    obtain ⟨⟨_, v⟩, field, rfl⟩ := List.mem_map.1 mem
    obtain ⟨w, found, -⟩ := exists_of_sameFields h field
    exact List.mem_map.2 ⟨_, Fields.mem_of_get? found, rfl⟩
  refine (List.subperm_of_subset nodup sub).perm_of_length_le ?_
  simp [Fields.names, length]

mutual

/-- Structural equality of well-formed values is symmetric. -/
theorem same_symm : ∀ (v : Value) {w : Value}, v.WellFormed → w.WellFormed → v.same w → w.same v
  | .null, w, _, _, h => by
    cases w <;> simp only [same, Bool.false_eq_true] at h ⊢
  | .bool a, w, _, _, h => by
    cases w <;> simp only [same, Bool.false_eq_true, beq_iff_eq] at h ⊢
    exact h.symm
  | .number n, w, _, _, h => by
    cases w <;> simp only [same, Bool.false_eq_true] at h ⊢
    exact Number.same_symm h
  | .string a, w, _, _, h => by
    cases w <;> simp only [same, Bool.false_eq_true, beq_iff_eq] at h ⊢
    exact h.symm
  | .array xs, w, left, right, h => by
    cases w <;> simp only [same, Bool.false_eq_true] at h ⊢
    exact sameItems_symm xs left right h
  | .object fs, w, left, right, h => by
    cases w <;> simp only [same, Bool.false_eq_true, Bool.and_eq_true, beq_iff_eq] at h ⊢
    rename_i gs
    obtain ⟨length, same⟩ := h
    have names : (Fields.names fs).Perm (Fields.names gs) :=
      names_perm_of_sameFields left.1 length same
    refine ⟨length.symm, sameFields_of_forall fun field mem => ?_⟩
    obtain ⟨key, w⟩ := field
    -- A field of the second object has its like in the first, since the names are the same.
    obtain ⟨⟨_, v⟩, here, rfl⟩ := List.mem_map.1 (names.mem_iff.2 (List.mem_map.2 ⟨_, mem, rfl⟩))
    obtain ⟨w', found, like⟩ := exists_of_sameFields same here
    obtain rfl : w = w' :=
      Option.some.inj (((Fields.get?_eq_some_iff right.1).2 mem).symm.trans found)
    refine ⟨v, (Fields.get?_eq_some_iff left.1).2 here, ?_⟩
    exact same_symm_of_mem fs left.2 here (Fields.wellFormedValues_iff.1 right.2 _ mem) like

theorem sameItems_symm : ∀ (xs : List Value) {ys : List Value}, WellFormedItems xs →
    WellFormedItems ys → sameItems xs ys → sameItems ys xs
  | [], ys, _, _, h => by
    cases ys with
    | nil => exact h
    | cons y ys => cases h
  | x :: xs, ys, left, right, h => by
    cases ys with
    | nil => cases h
    | cons y ys =>
      simp only [sameItems, Bool.and_eq_true] at h ⊢
      exact ⟨same_symm x left.1 right.1 h.1, sameItems_symm xs left.2 right.2 h.2⟩

theorem same_symm_of_mem : ∀ (fs : List (String × Value)), Fields.WellFormedValues fs →
    ∀ {key : String} {v w : Value}, (key, v) ∈ fs → w.WellFormed → v.same w → w.same v
  | [], _, _, _, _, mem, _, _ => absurd mem List.not_mem_nil
  | (_, u) :: fs, wellFormed, key, v, w, mem, right, h => by
    rcases List.mem_cons.1 mem with same | mem
    · cases same
      exact same_symm u wellFormed.1 right h
    · exact same_symm_of_mem fs wellFormed.2 mem right h

end

mutual

/-- Structural equality is transitive. -/
theorem same_trans : ∀ (u : Value) {v w : Value}, u.same v → v.same w → u.same w
  | .null, v, w, h, h' => by
    cases v <;> simp only [same, Bool.false_eq_true] at h
    exact h'
  | .bool a, v, w, h, h' => by
    cases v <;> simp only [same, Bool.false_eq_true, beq_iff_eq] at h
    exact h ▸ h'
  | .number n, v, w, h, h' => by
    cases v <;> simp only [same, Bool.false_eq_true] at h
    cases w <;> simp only [same, Bool.false_eq_true] at h' ⊢
    exact Number.same_trans h h'
  | .string a, v, w, h, h' => by
    cases v <;> simp only [same, Bool.false_eq_true, beq_iff_eq] at h
    exact h ▸ h'
  | .array xs, v, w, h, h' => by
    cases v <;> simp only [same, Bool.false_eq_true] at h
    cases w <;> simp only [same, Bool.false_eq_true] at h' ⊢
    exact sameItems_trans xs h h'
  | .object fs, v, w, h, h' => by
    cases v <;> simp only [same, Bool.false_eq_true, Bool.and_eq_true, beq_iff_eq] at h
    cases w <;> simp only [same, Bool.false_eq_true, Bool.and_eq_true, beq_iff_eq] at h' ⊢
    exact ⟨h.1.trans h'.1, sameFields_trans fs h.2 h'.2⟩

theorem sameItems_trans : ∀ (xs : List Value) {ys zs : List Value},
    sameItems xs ys → sameItems ys zs → sameItems xs zs
  | [], ys, zs, h, h' => by
    cases ys with
    | nil => exact h'
    | cons y ys => cases h
  | x :: xs, ys, zs, h, h' => by
    cases ys with
    | nil => cases h
    | cons y ys =>
      cases zs with
      | nil => cases h'
      | cons z zs =>
        simp only [sameItems, Bool.and_eq_true] at h h' ⊢
        exact ⟨same_trans x h.1 h'.1, sameItems_trans xs h.2 h'.2⟩

theorem sameFields_trans : ∀ (fs : List (String × Value)) {gs ks : Fields},
    sameFields fs gs → sameFields gs ks → sameFields fs ks
  | [], _, _, _, _ => rfl
  | (key, u) :: fs, gs, ks, h, h' => by
    obtain ⟨v, found, same⟩ := exists_of_sameFields h List.mem_cons_self
    obtain ⟨w, found', same'⟩ := exists_of_sameFields h' (Fields.mem_of_get? found)
    rw [sameFields, Bool.and_eq_true] at h ⊢
    exact ⟨by rw [found']; exact same_trans u same same', sameFields_trans fs h.2 h'⟩

end

/-- Values that are identical or structurally equal. -/
def Agrees (v w : Value) : Prop :=
  v = w ∨ v.same w

namespace Agrees

variable {u v w : Value}

lemma refl (v : Value) : v.Agrees v :=
  .inl rfl

lemma trans (h : u.Agrees v) (h' : v.Agrees w) : u.Agrees w := by
  rcases h with rfl | h
  · exact h'
  · rcases h' with rfl | h'
    · exact .inr h
    · exact .inr (same_trans u h h')

/-- Without repeated names, values that agree are structurally equal. -/
lemma same (h : v.Agrees w) (wellFormed : w.WellFormed) : v.same w := by
  rcases h with rfl | h
  · exact same_self v wellFormed
  · exact h

end Agrees

end Value

end Reflex
