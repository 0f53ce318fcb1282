import Reflex.Proofs.State.Patch

/-!
# Merging an object into a document

The patch of an object goes through the object and the document side by side, as far as both hold
objects.  `Value.follow?` follows a path of keys through a value, and `Patch.merge_writes_object`
says what is found along every path after the merge, and in which order the keys stand at every
level.

* `Patch.get?_apply_ofFields` and `Patch.names_apply_of_sets` are about one level.
* `Patch.follow?_merge` leads from one level to the next.
-/

namespace Reflex

/-! ## Following keys -/

namespace Value

variable {v : Value} {key : String} {path path' : List String} {fs : Fields}

/-- The value of a field, if the value is an object that has it. -/
def field? (v : Value) (key : String) : Option Value :=
  v.fields?.bind (Fields.get? · key)

/-- What a path of keys leads to inside of a value, through objects alone. -/
def follow? (v : Value) (path : List String) : Option Value :=
  path.foldlM field? v

/-- The fields of the object that a path leads to, and none if it leads to no object. -/
def fieldsAt (v : Value) (path : List String) : Fields :=
  ((v.follow? path).bind fields?).getD []

@[simp] lemma follow?_nil : v.follow? [] = some v := rfl

lemma follow?_cons : v.follow? (key :: path) = (v.field? key).bind (·.follow? path) := rfl

lemma follow?_append : v.follow? (path ++ path') = (v.follow? path).bind (·.follow? path') := by
  rw [follow?, List.foldlM_append]
  rfl

lemma follow?_object_cons :
    (Value.object fs).follow? (key :: path) = (fs.get? key).bind (·.follow? path) := rfl

/-- No path leads through a value that is no object. -/
lemma follow?_cons_of_fields?_eq_none (plain : v.fields? = none) :
    v.follow? (key :: path) = none := by
  rw [follow?_cons, field?, plain]
  rfl

lemma eq_object_of_fields? (h : v.fields? = some fs) : v = .object fs := by
  cases v <;> cases h
  rfl

/-- A path that leads to an object or beyond one begins at an object. -/
lemma exists_fields_of_follow? {q : Fields} (h : v.follow? path = some (.object q)) :
    ∃ fs, v = .object fs := by
  cases path with
  | nil => exact ⟨q, Option.some.inj h⟩
  | cons key path =>
    cases found : v.fields? with
    | none =>
      rw [follow?_cons_of_fields?_eq_none found] at h
      cases h
    | some fs => exact ⟨fs, eq_object_of_fields? found⟩

/-- Where no object is found nothing is found inside of it. -/
lemma fieldsAt_cons : (Value.object fs).fieldsAt (key :: path) =
    (Value.object (((fs.get? key).bind fields?).getD [])).fieldsAt path := by
  rw [fieldsAt, follow?_object_cons]
  cases found : fs.get? key with
  | none => cases path <;> rfl
  | some v => cases v <;> cases path <;> rfl

/-- What lies beyond the end of a path is found in the fields there. -/
lemma follow?_append_cons : v.follow? (path ++ key :: path') =
    ((v.fieldsAt path).get? key).bind (·.follow? path') := by
  rw [follow?_append, fieldsAt]
  cases found : v.follow? path with
  | none => rfl
  | some w => cases w <;> rfl

end Value

/-- An object inside of a well-formed object is well-formed. -/
lemma Fields.WellFormed.follow? {fs : Fields} (h : fs.WellFormed) {path : List String} {v : Value}
    (found : (Value.object fs).follow? path = some v) : v.WellFormed := by
  induction path generalizing fs with
  | nil =>
    cases found
    exact h
  | cons key path ih =>
    rw [Value.follow?_object_cons, Option.bind_eq_some_iff] at found
    obtain ⟨w, here, there⟩ := found
    cases path with
    | nil =>
      cases there
      exact h.get? here
    | cons key' path =>
      cases w with
      | object gs => exact ih (h.get? here) there
      | _ => cases there

/-! ## Assignments -/

namespace PatchOp

variable {v : Value} {current? : Option Value} {fields : Fields} {acc : List (String × PatchOp)}
  {key : String}

/-- A value that is no object takes the place of what was there. -/
lemma next?_assign_of_fields?_eq_none (plain : v.fields? = none) :
    (assign v).next? current? = some v := by
  cases v with
  | object fields => cases plain
  | _ => rfl

/-- An object is merged into the object that was there, or into an empty one. -/
lemma next?_assign_object : (assign (.object fields)).next? current? = some (.object
    (Patch.apply ((current?.bind Value.fields?).getD []) (Patch.ofFields fields))) := by
  rw [assign, next?, Patch.ofFields]

/-- An assignment never takes a key away. -/
lemma exists_next?_assign (v : Value) (current? : Option Value) :
    ∃ w, (assign v).next? current? = some w := by
  cases plain : v.fields? with
  | none => exact ⟨v, next?_assign_of_fields?_eq_none plain⟩
  | some fields =>
    obtain rfl := Value.eq_object_of_fields? plain
    exact ⟨_, next?_assign_object⟩

/-- Whatever a patch of assignments holds is an assignment. -/
lemma exists_eq_assign {entry : String × PatchOp} (mem : entry ∈ Patch.ofFields fields) :
    ∃ v, entry.2 = assign v := by
  suffices general : ∀ acc : List (String × PatchOp), (∀ entry ∈ acc, ∃ v, entry.2 = assign v) →
      ∀ entry ∈ assignFields acc fields, ∃ v, entry.2 = assign v from
    general [] (by simp) entry mem
  clear mem
  induction fields with
  | nil =>
    intro acc assigned
    rwa [assignFields]
  | cons field fields ih =>
    intro acc assigned
    rw [assignFields]
    refine ih _ fun entry mem => ?_
    rcases Ordered.mem_put mem with rfl | mem
    · exact ⟨field.2, rfl⟩
    · exact assigned entry mem

lemma sorted_assignFields (sorted : (acc.map (·.1)).Pairwise (· < ·)) :
    ((assignFields acc fields).map (·.1)).Pairwise (· < ·) := by
  induction fields generalizing acc with
  | nil => rwa [assignFields]
  | cons field fields ih =>
    rw [assignFields]
    exact ih (Ordered.sorted_put sorted)

lemma mem_keys_assignFields : key ∈ (assignFields acc fields).map (·.1) ↔
    key ∈ fields.names ∨ key ∈ acc.map (·.1) := by
  induction fields generalizing acc with
  | nil => simp [assignFields, Fields.names]
  | cons field fields ih =>
    rw [assignFields, ih, Ordered.mem_keys_put, Fields.names, Fields.names, List.map_cons,
      List.mem_cons, or_left_comm, or_assoc]

/-- Among assignments that are all to different keys each is found under its key. -/
lemma lookup_assignFields (nodup : fields.names.Nodup) :
    (assignFields acc fields).lookup key =
      ((fields.get? key).map assign).or (acc.lookup key) := by
  induction fields generalizing acc with
  | nil => simp [assignFields]
  | cons field fields ih =>
    obtain ⟨k, v⟩ := field
    rw [Fields.names, List.map_cons, List.nodup_cons] at nodup
    rw [assignFields, ih nodup.2, Fields.get?_cons]
    by_cases same : key = k
    · subst same
      have last : Fields.get? fields key = none := Fields.get?_eq_none_iff.2 nodup.1
      rw [last, if_pos rfl, Ordered.lookup_put_self]
      rfl
    · rw [if_neg same, Ordered.lookup_put_of_ne same]

end PatchOp

namespace Patch

variable {fs d p q : Fields} {patch : Patch} {key : String} {path : List String}

/-! ## One level -/

/-- Where each key has one operation, that operation decides. -/
lemma nextAt?_of_nodup (nodup : patch.keys.Nodup) (current? : Option Value) :
    nextAt? key patch current? =
      match patch.lookup key with
      | some op => op.next? current?
      | none => current? := by
  induction patch with
  | nil => rfl
  | cons entry patch ih =>
    obtain ⟨k, op⟩ := entry
    rw [keys, List.map_cons, List.nodup_cons] at nodup
    by_cases same : k = key
    · subst same
      rw [nextAt?, if_pos rfl, nextAt?_of_notMem nodup.1, List.lookup_cons_self]
    · rw [nextAt?, if_neg same, ih nodup.2, List.lookup_cons, beq_false_of_ne (Ne.symm same)]

lemma sorted_ofFields (p : Fields) : (ofFields p).keys.Pairwise (· < ·) :=
  PatchOp.sorted_assignFields .nil

lemma mem_keys_ofFields : key ∈ (ofFields p).keys ↔ key ∈ p.names := by
  rw [keys, ofFields, PatchOp.mem_keys_assignFields]
  simp

/-- What the patch of an object makes of one key. -/
lemma get?_apply_ofFields (nodup : p.names.Nodup) (d : Fields) (key : String) :
    (apply d (ofFields p)).get? key =
      match p.get? key with
      | some v => (PatchOp.assign v).next? (d.get? key)
      | none => d.get? key := by
  have distinct : (ofFields p).keys.Nodup := (sorted_ofFields p).imp ne_of_lt
  rw [get?_apply, nextAt?_of_nodup distinct, ofFields, PatchOp.lookup_assignFields nodup]
  cases p.get? key <;> rfl

/-- A patch that takes no key away puts the new keys behind the others, in its own order. -/
lemma names_apply_of_sets (nodup : patch.keys.Nodup)
    (sets : ∀ entry ∈ patch, ∀ current?, ∃ v, entry.2.next? current? = some v) :
    (apply fs patch).names = fs.names ++ patch.keys.filter (· ∉ fs.names) := by
  induction patch generalizing fs with
  | nil => simp [apply_nil, keys]
  | cons entry patch ih =>
    obtain ⟨k, op⟩ := entry
    obtain ⟨here, there⟩ := List.forall_mem_cons.1 sets
    obtain ⟨v, next⟩ := here (fs.get? k)
    rw [keys, List.map_cons, List.nodup_cons] at nodup
    have put : applyOp fs k op = fs.put k v := by
      rw [applyOp, next]
    rw [apply_cons, put, ih nodup.2 there, Fields.names_put]
    by_cases present : k ∈ fs.names
    · simp [keys, present]
    · -- The key stands behind the others now, and no other key of the patch is the same.
      have behind : keys ((k, op) :: patch) = k :: keys patch := rfl
      rw [if_neg present, behind, List.filter_cons_of_pos (by simpa using present),
        List.append_assoc]
      refine congrArg (fs.names ++ k :: ·) (List.filter_congr fun key mem => ?_)
      have other : key ≠ k := fun same => nodup.1 (same ▸ mem)
      simp [other]

lemma names_apply_ofFields (d p : Fields) : (apply d (ofFields p)).names =
    d.names ++ (ofFields p).keys.filter (· ∉ d.names) := by
  refine names_apply_of_sets ((sorted_ofFields p).imp ne_of_lt) fun entry mem current? => ?_
  obtain ⟨v, assigned⟩ := PatchOp.exists_eq_assign mem
  rw [assigned]
  exact PatchOp.exists_next?_assign v current?

/-! ## From one level to the next -/

/-- Where an object meets an object at the end of a path, the one is merged into the other. -/
lemma follow?_merge (wellFormed : p.WellFormed)
    (object : (Value.object p).follow? path = some (.object q)) :
    (Value.object (apply d (ofFields p))).follow? path =
      some (.object (apply ((Value.object d).fieldsAt path) (ofFields q))) := by
  induction path generalizing d p with
  | nil =>
    cases object
    rfl
  | cons key path ih =>
    rw [Value.follow?_object_cons, Option.bind_eq_some_iff] at object
    obtain ⟨v, found, inside⟩ := object
    obtain ⟨p', rfl⟩ := Value.exists_fields_of_follow? inside
    rw [Value.follow?_object_cons, get?_apply_ofFields wellFormed.1, found, Value.fieldsAt_cons]
    simp only [PatchOp.next?_assign_object, Option.bind_some]
    exact ih (wellFormed.get? found) inside

/-- **Merging an object writes what it says and nothing else.**  Let an object be merged into a
document, and follow a path of keys through the result.  Where the path leads to a value of the
object that is no object itself, exactly that value is found.  Where the path leaves the object by a
key that is not there, what the document holds is found; that is nothing if some part of the path
before that key leads to a value of the document that is no object, which had to give way.  And
where the path leads to an object, be it empty, an object is found: it has the keys that were there
in the document, in their places, and behind them the new ones in the order of their code points. -/
theorem merge_writes_object (d : Fields) {p : Fields} (wellFormed : p.WellFormed) :
    let document := Value.object d
    let given := Value.object p
    let result := Value.object (apply d (ofFields p))
    (∀ path v, given.follow? path = some v → v.fields? = none → result.follow? path = some v) ∧
    (∀ path (q : Fields) key rest, given.follow? path = some (.object q) → q.get? key = none →
      result.follow? (path ++ key :: rest) = document.follow? (path ++ key :: rest) ∧
      ∀ front v, front <+: path → document.follow? front = some v → v.fields? = none →
        result.follow? (path ++ key :: rest) = none) ∧
    ∀ path (q : Fields), given.follow? path = some (.object q) →
      ∃ (after : Fields) (fresh : List String), result.follow? path = some (.object after) ∧
        after.names = (document.fieldsAt path).names ++ fresh ∧ fresh.Pairwise (· < ·) ∧
        ∀ key, key ∈ fresh ↔ key ∈ q.names ∧ key ∉ (document.fieldsAt path).names := by
  intro document given result
  have level (path : List String) (q : Fields) (object : given.follow? path = some (.object q)) :
      result.follow? path =
        some (.object (apply (document.fieldsAt path) (ofFields q))) :=
    follow?_merge wellFormed object
  have inner (path : List String) (q : Fields) (object : given.follow? path = some (.object q)) :
      q.WellFormed :=
    wellFormed.follow? object
  refine ⟨fun path v found plain => ?_, fun path q key rest object missing => ?_,
    fun path q object => ?_⟩
  · -- The value stands under the last key of the path, in an object of the object.
    rcases List.eq_nil_or_concat' path with rfl | ⟨front, key, rfl⟩
    · cases found
      cases plain
    · rw [Value.follow?_append, Option.bind_eq_some_iff] at found
      obtain ⟨w, object, last⟩ := found
      cases fields : w.fields? with
      | none =>
        rw [Value.follow?_cons_of_fields?_eq_none fields] at last
        cases last
      | some q =>
        obtain rfl := Value.eq_object_of_fields? fields
        have here : Fields.get? q key = some v := by
          simpa [Value.follow?_object_cons] using last
        rw [Value.follow?_append, level front q object, Option.bind_some,
          Value.follow?_object_cons, get?_apply_ofFields (inner front q object).1, here]
        simp only [PatchOp.next?_assign_of_fields?_eq_none plain, Option.bind_some,
          Value.follow?_nil]
  · have kept : result.follow? (path ++ key :: rest) = document.follow? (path ++ key :: rest) := by
      rw [Value.follow?_append, level path q object, Option.bind_some, Value.follow?_object_cons,
        get?_apply_ofFields (inner path q object).1, missing, Value.follow?_append_cons]
    refine ⟨kept, fun front v before here plain => ?_⟩
    obtain ⟨back, rfl⟩ := before
    rw [kept, List.append_assoc, Value.follow?_append, here, Option.bind_some]
    cases back with
    | nil => exact Value.follow?_cons_of_fields?_eq_none plain
    | cons key' back => exact Value.follow?_cons_of_fields?_eq_none plain
  · refine ⟨_, _, level path q object, names_apply_ofFields _ q,
      (sorted_ofFields q).sublist List.filter_sublist, fun key => ?_⟩
    simp [mem_keys_ofFields]

/-- A user is changed in part, a truth value gives way to an object, and two new keys are put in
order. -/
theorem merge_writes_user :
    let d : Fields := [("$b", .bool true),
      ("$user", .object [("name", .string "ann"), ("on", .bool false)]), ("$t", .bool true)]
    let p : Fields := [("$z", .null), ("$a", .object []),
      ("$user", .object [("age", .object [("known", .bool false)]), ("on", .bool true)]),
      ("$t", .object [("n", .null)])]
    let result := Value.object (apply d (ofFields p))
    p.WellFormed ∧
    result.follow? ["$user", "on"] = some (.bool true) ∧
    result.follow? ["$user", "name"] = some (.string "ann") ∧
    result.follow? ["$t", "m"] = none ∧
    ∃ (after : Fields) (fresh : List String), result.follow? [] = some (.object after) ∧
      after.names = ["$b", "$user", "$t"] ++ fresh ∧ fresh.Pairwise (· < ·) ∧
      ∀ key, key ∈ fresh ↔ key ∈ p.names ∧ key ∉ ["$b", "$user", "$t"] := by
  intro d p result
  have wellFormed : p.WellFormed := by simp [p, Fields.WellFormed, Fields.names,
    Fields.WellFormedValues, Value.WellFormed]
  obtain ⟨values, kept, levels⟩ := merge_writes_object d wellFormed
  obtain ⟨same, -⟩ := kept ["$user"] _ "name" [] rfl rfl
  obtain ⟨-, gone⟩ := kept ["$t"] _ "m" [] rfl rfl
  exact ⟨wellFormed, values ["$user", "on"] _ rfl rfl, same.trans rfl,
    gone ["$t"] _ (List.prefix_refl _) rfl rfl, levels [] _ rfl⟩

end Patch

end Reflex
