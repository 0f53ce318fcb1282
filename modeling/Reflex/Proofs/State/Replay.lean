import Mathlib.Data.List.Lattice
import Reflex.Proofs.Session.Atomicity
import Reflex.Proofs.State.Difference

/-!
# Patches one after the other

A patch that computes nothing says once and for all what becomes of its keys.  Where it has been
applied it changes nothing when it is applied again, down to the order of the keys
(`Patch.apply_apply`).  Patches that have no key in common do not see each other, computed or not,
and can be applied in either order or as one.  `Patch.replays_and_commutes` puts this together.

* `Patch.IsStatic` is about patches that compute nothing, at any depth.
* `Patch.IsMap` says that a patch has its keys in order, each once, at any depth.
-/

namespace Reflex

namespace Fields

variable {fs : Fields} {key : String} {v : Value}

/-- Setting a field to the value that it has changes nothing. -/
lemma put_of_get? (found : fs.get? key = some v) : fs.put key v = fs := by
  induction fs with
  | nil => cases found
  | cons field fs ih =>
    obtain ⟨k, w⟩ := field
    rw [get?_cons] at found
    by_cases same : key = k
    · rw [if_pos same] at found
      cases found
      rw [put, if_pos (beq_iff_eq.2 same.symm)]
    · rw [if_neg same] at found
      rw [put, if_neg (by simpa using Ne.symm same), ih found]

/-- Taking away a field that is not there changes nothing. -/
lemma remove_of_get?_eq_none (missing : fs.get? key = none) : fs.remove key = fs := by
  rw [get?_eq_none_iff] at missing
  refine List.filter_eq_self.2 fun field mem => bne_iff_ne.2 ?_
  rintro rfl
  exact missing (List.mem_map_of_mem mem)

end Fields

/-! ## Two properties of patches -/

mutual

/-- The operation computes no value, and neither does any operation of a patch in it. -/
def PatchOp.IsStatic : PatchOp → Prop
  | .merge ops => Patch.IsStatic ops
  | .compute _ => False
  | _ => True

/-- No operation of the patch computes a value, at whatever depth. -/
def Patch.IsStatic : List (String × PatchOp) → Prop
  | [] => True
  | (_, op) :: ops => op.IsStatic ∧ Patch.IsStatic ops

end

mutual

/-- Patches in the operation have their keys in order, each once. -/
def PatchOp.IsMap : PatchOp → Prop
  | .merge ops => Patch.IsMap ops
  | _ => True

/-- The patch has its keys in order, each once, and so have the patches in it. -/
def Patch.IsMap : List (String × PatchOp) → Prop
  | [] => True
  | (key, op) :: ops => (∀ entry ∈ ops, key < entry.1) ∧ op.IsMap ∧ Patch.IsMap ops

end

namespace Patch

variable {fs : Fields} {patch : Patch} {key : String} {op : PatchOp}

lemma isStatic_iff : IsStatic patch ↔ ∀ entry ∈ patch, entry.2.IsStatic := by
  induction patch with
  | nil => simp [IsStatic]
  | cons entry patch ih => rw [IsStatic, ih, List.forall_mem_cons]

lemma isMap_iff : IsMap patch ↔ patch.keys.Pairwise (· < ·) ∧ ∀ entry ∈ patch, entry.2.IsMap := by
  induction patch with
  | nil => simp [IsMap, keys]
  | cons entry patch ih =>
    have first : keys (entry :: patch) = entry.1 :: keys patch := rfl
    have above : (∀ key ∈ keys patch, entry.1 < key) ↔ ∀ later ∈ patch, entry.1 < later.1 :=
      List.forall_mem_map
    rw [IsMap, ih, List.forall_mem_cons, first, List.pairwise_cons, above]
    tauto

lemma IsMap.nodup (map : IsMap patch) : patch.keys.Nodup :=
  (isMap_iff.1 map).1.imp ne_of_lt

lemma isStatic_put (static : IsStatic patch) (operation : op.IsStatic) :
    IsStatic (patch.put key op) := by
  refine isStatic_iff.2 fun entry mem => ?_
  rcases Ordered.mem_put mem with rfl | mem
  · exact operation
  · exact isStatic_iff.1 static entry mem

lemma isMap_put (map : IsMap patch) (operation : op.IsMap) : IsMap (patch.put key op) := by
  obtain ⟨sorted, operations⟩ := isMap_iff.1 map
  refine isMap_iff.2 ⟨Ordered.sorted_put sorted, fun entry mem => ?_⟩
  rcases Ordered.mem_put mem with rfl | mem
  · exact operation
  · exact operations entry mem

end Patch

mutual

/-- An assignment computes nothing, and has the fields of every object in order. -/
theorem PatchOp.isStatic_and_isMap_assign : ∀ v : Value, (assign v).IsStatic ∧ (assign v).IsMap
  | .object fields => by
    rw [PatchOp.assign]
    exact PatchOp.isStatic_and_isMap_assignFields fields trivial trivial
  | .null => ⟨trivial, trivial⟩
  | .bool _ => ⟨trivial, trivial⟩
  | .number _ => ⟨trivial, trivial⟩
  | .string _ => ⟨trivial, trivial⟩
  | .array _ => ⟨trivial, trivial⟩

theorem PatchOp.isStatic_and_isMap_assignFields {acc : List (String × PatchOp)} :
    ∀ fields : List (String × Value), Patch.IsStatic acc → Patch.IsMap acc →
      Patch.IsStatic (assignFields acc fields) ∧ Patch.IsMap (assignFields acc fields)
  | [], static, map => by
    rw [PatchOp.assignFields]
    exact ⟨static, map⟩
  | (key, v) :: fields, static, map => by
    rw [PatchOp.assignFields]
    obtain ⟨static', map'⟩ := PatchOp.isStatic_and_isMap_assign v
    exact PatchOp.isStatic_and_isMap_assignFields fields (Patch.isStatic_put static static')
      (Patch.isMap_put map map')

end

namespace Patch

variable {fs : Fields} {patch : Patch} {key : String} {op : PatchOp}

/-! ## The same patch again -/

/-- An operation that makes of the present value what it is changes nothing. -/
lemma applyOp_of_next?_eq (settled : op.next? (fs.get? key) = fs.get? key) :
    applyOp fs key op = fs := by
  rw [applyOp, settled]
  cases found : fs.get? key with
  | none => exact Fields.remove_of_get?_eq_none found
  | some v => exact Fields.put_of_get? found

end Patch

mutual

/-- What an operation has made of a value it makes of it again. -/
theorem PatchOp.next?_next? (current? : Option Value) : ∀ op : PatchOp, op.IsStatic → op.IsMap →
    op.next? (op.next? current?) = op.next? current?
  | .set v, _, _ => by rw [PatchOp.next?, PatchOp.next?]
  | .remove, _, _ => by rw [PatchOp.next?, PatchOp.next?]
  | .default v, _, _ => by rw [PatchOp.next?, PatchOp.next?, Option.getD_some]
  | .merge ops, static, map => by
    rw [PatchOp.next?, PatchOp.next?]
    simp only [Option.bind_some, Value.fields?, Option.getD_some]
    rw [Patch.apply_apply ops static map]

/-- A patch that is applied again changes nothing. -/
theorem Patch.apply_apply {fs : Fields} : ∀ ops : List (String × PatchOp), Patch.IsStatic ops →
    Patch.IsMap ops → Patch.apply (Patch.apply fs ops) ops = Patch.apply fs ops
  | [], _, _ => by rw [Patch.apply_nil]
  | (key, op) :: ops, static, map => by
    have unnamed : key ∉ Patch.keys ops := (List.nodup_cons.1 (Patch.IsMap.nodup map)).1
    -- The operations after the first one leave its key alone.
    have first : (Patch.apply (Patch.applyOp fs key op) ops).get? key = op.next? (fs.get? key) := by
      rw [Patch.get?_apply, Patch.nextAt?_of_notMem unnamed, Patch.get?_applyOp_self]
    have settled : Patch.applyOp (Patch.apply (Patch.applyOp fs key op) ops) key op =
        Patch.apply (Patch.applyOp fs key op) ops := by
      refine Patch.applyOp_of_next?_eq ?_
      rw [first, PatchOp.next?_next? _ op static.1 map.2.1]
    rw [Patch.apply_cons, Patch.apply_cons, settled, Patch.apply_apply ops static.2 map.2.2]

end

namespace Patch

variable {d : Fields} {p q patch whole : Patch} {key : String} {op : PatchOp}

/-! ## Patches that have no key in common -/

/-- Where each key has one operation, that operation decides. -/
lemma get?_apply_of_mem (nodup : patch.keys.Nodup) (mem : (key, op) ∈ patch) :
    (apply d patch).get? key = op.next? (d.get? key) := by
  rw [get?_apply]
  induction patch with
  | nil => cases mem
  | cons entry patch ih =>
    obtain ⟨k, op'⟩ := entry
    obtain ⟨fresh, nodup'⟩ := List.nodup_cons.1 nodup
    rcases List.mem_cons.1 mem with same | later
    · cases same
      rw [nextAt?, if_pos rfl, nextAt?_of_notMem fresh]
    · have other : k ≠ key := by
        rintro rfl
        exact fresh (List.mem_map.2 ⟨_, later, rfl⟩)
      rw [nextAt?, if_neg other, ih nodup' later]

lemma get?_apply_of_notMem (unnamed : key ∉ patch.keys) :
    (apply d patch).get? key = d.get? key := by
  rw [get?_apply, nextAt?_of_notMem unnamed]

/-- A patch that holds the operations of two does what they do one after the other. -/
lemma get?_apply_of_perm (nodup : p.keys.Nodup) (nodup' : q.keys.Nodup)
    (disjoint : p.keys.Disjoint q.keys) (both : whole.Perm (p ++ q)) (key : String) :
    (apply d whole).get? key = (apply (apply d p) q).get? key := by
  have keys_perm : whole.keys.Perm (p.keys ++ q.keys) := by
    simpa [keys] using both.map Prod.fst
  have distinct : whole.keys.Nodup := by
    rw [keys_perm.nodup_iff, List.nodup_append']
    exact ⟨nodup, nodup', disjoint⟩
  by_cases first : key ∈ p.keys
  · obtain ⟨⟨_, op⟩, mem, rfl⟩ := List.mem_map.1 first
    rw [get?_apply_of_mem distinct (both.mem_iff.2 (List.mem_append_left q mem)),
      get?_apply_of_notMem (disjoint first), get?_apply_of_mem nodup mem]
  by_cases second : key ∈ q.keys
  · obtain ⟨⟨_, op⟩, mem, rfl⟩ := List.mem_map.1 second
    rw [get?_apply_of_mem distinct (both.mem_iff.2 (List.mem_append_right p mem)),
      get?_apply_of_mem nodup' mem, get?_apply_of_notMem first]
  · have neither : key ∉ whole.keys := by simp [keys_perm.mem_iff, first, second]
    rw [get?_apply_of_notMem neither, get?_apply_of_notMem second, get?_apply_of_notMem first]

end Patch

/-- Documents that hold the same are equal as objects, whatever the order of their keys. -/
lemma Fields.same_of_get?_eq {before after : Fields} (wellFormed : before.WellFormed)
    (nodup : after.names.Nodup) (same : ∀ key, before.get? key = after.get? key) :
    (Value.object before).same (.object after) :=
  same_of_differ wellFormed.1 nodup fun key => by
    rw [← same]
    exact differ_self wellFormed key

namespace NameSet

variable {ns ms : NameSet} {n : String}

@[simp] lemma mem_union : n ∈ ns.union ms ↔ n ∈ ns ∨ n ∈ ms := by
  rw [union, mem_foldl_insert, or_comm]

lemma sorted_union (sorted : ns.Pairwise (· < ·)) : (ns.union ms).Pairwise (· < ·) :=
  sorted_foldl_insert sorted

end NameSet

namespace Patch

variable {d : Fields} {p q whole : Patch}

/-- A patch that holds the operations of two changes what either of them does. -/
lemma changes_of_perm (wellFormed : d.WellFormed) (nodup : p.keys.Nodup) (nodup' : q.keys.Nodup)
    (disjoint : p.keys.Disjoint q.keys) (both : whole.Perm (p ++ q)) :
    d.changes (apply d whole) = (d.changes (apply d p)).union (d.changes (apply d q)) := by
  refine NameSet.eq_of_mem_iff (Fields.sorted_changes _ _)
    (NameSet.sorted_union (Fields.sorted_changes _ _)) fun key => ?_
  rw [NameSet.mem_union, Fields.mem_changes (nodup_apply wellFormed.1),
    Fields.mem_changes (nodup_apply wellFormed.1), Fields.mem_changes (nodup_apply wellFormed.1),
    get?_apply_of_perm nodup nodup' disjoint both]
  -- Of the two patches at most one names the key.
  by_cases second : key ∈ q.keys
  · have first : key ∉ p.keys := fun mem => disjoint mem second
    rw [get?_apply_of_notMem first (d := d), Fields.differ_self wellFormed, get?_apply,
      get?_apply_of_notMem first, get?_apply d q]
    simp
  · rw [get?_apply_of_notMem second, get?_apply_of_notMem second, Fields.differ_self wellFormed]
    simp

end Patch

/-! ## Updates -/

namespace Session

variable {s : Session} {react : Reaction} {patch : Patch}

/-- Where nothing is changed nobody is told. -/
lemma notify_nil : s.notify react [] = s := by
  have nobody : (s.store.registrations.filter fun r => NameSet.meets [] r.names) = [] := by
    refine List.filter_eq_nil_iff.2 fun r _ => ?_
    simp [NameSet.meets]
  rw [notify, nobody]
  rfl

/-- An update that leaves the document as it is changes nothing and tells nobody. -/
lemma update_of_settled (wellFormed : s.store.document.WellFormed)
    (settled : Patch.apply s.store.document patch = s.store.document)
    (admitted : s.store.depth < s.store.maxDepth) :
    s.update react patch = (.ok [], (s.commit patch).close) := by
  have nothing : s.store.changesOf patch = [] := by
    rw [Store.changesOf, settled, Fields.changes_eq_nil_iff wellFormed wellFormed]
    exact Value.same_self _ wellFormed
  rw [update_of_admitted admitted, nothing, notify_nil]

end Session

namespace Patch

/-- **Patches replay silently, and commute when they have no key in common.**  When a patch that
computes nothing is applied to a document a second time, the document stays the same, with the order
of its keys at every level and hence with its text.  An update of a store that holds such a document
changes nothing and tells nobody.  Of two patches that have no key in common, computed values or
not, it does not matter which one is applied first, nor whether they are applied as one patch that
holds the operations of both: the documents are equal as objects, and that one patch changes what
either of the two does.  A document is a map, and so is a patch. -/
theorem replays_and_commutes {d : Fields} (wellFormed : d.WellFormed) :
    (∀ p : Patch, WellFormed p → IsMap p → IsStatic p →
      let merged := apply d p
      apply merged p = merged ∧
      ∀ (react : Reaction) (s : Session), s.store.document = merged →
        s.store.depth < s.store.maxDepth →
        let updated := s.update react p
        updated.1 = .ok [] ∧ updated.2.store.document = merged ∧ updated.2.log = s.log) ∧
    ∀ p q whole : Patch, WellFormed p → WellFormed q → IsMap p → IsMap q →
      p.keys.Disjoint q.keys → whole.Perm (p ++ q) →
      let first := apply (apply d p) q
      let second := apply (apply d q) p
      let once := apply d whole
      (Value.object first).same (.object second) ∧ (Value.object first).same (.object once) ∧
      (Value.object second).same (.object once) ∧
      d.changes once = (d.changes (apply d p)).union (d.changes (apply d q)) := by
  refine ⟨fun p operations map static => ?_,
    fun p q whole operations operations' map map' disjoint both => ?_⟩
  · have settled : apply (apply d p) p = apply d p := apply_apply p static map
    refine ⟨settled, fun react s document admitted => ?_⟩
    have wellFormed' : s.store.document.WellFormed :=
      document ▸ wellFormed_apply p operations wellFormed
    have settled' : apply s.store.document p = s.store.document := document ▸ settled
    have updated : s.update react p = (.ok [], (s.commit p).close) :=
      Session.update_of_settled wellFormed' settled' admitted
    rw [updated]
    exact ⟨rfl, settled'.trans document, rfl⟩
  · have wellFormed₁ : (apply (apply d p) q).WellFormed :=
      wellFormed_apply q operations' (wellFormed_apply p operations wellFormed)
    have wellFormed₂ : (apply (apply d q) p).WellFormed :=
      wellFormed_apply p operations (wellFormed_apply q operations' wellFormed)
    have nodup : (apply d whole).names.Nodup := nodup_apply wellFormed.1
    have once₁ (key : String) : (apply d whole).get? key = (apply (apply d p) q).get? key :=
      get?_apply_of_perm map.nodup map'.nodup disjoint both key
    have once₂ (key : String) : (apply d whole).get? key = (apply (apply d q) p).get? key :=
      get?_apply_of_perm map'.nodup map.nodup disjoint.symm (both.trans List.perm_append_comm) key
    exact ⟨Fields.same_of_get?_eq wellFormed₁ wellFormed₂.1 fun key =>
        (once₁ key).symm.trans (once₂ key),
      Fields.same_of_get?_eq wellFormed₁ nodup fun key => (once₁ key).symm,
      Fields.same_of_get?_eq wellFormed₂ nodup fun key => (once₂ key).symm,
      changes_of_perm wellFormed map.nodup map'.nodup disjoint both⟩

/-- A patch of all kinds of operations that compute nothing is applied a second time, and in either
order with one that toggles another key. -/
theorem replays_and_commutes_with_toggle :
    let d : Fields := [("$gone", .bool true), ("$user", .object [("on", .bool false)]),
      ("$kept", .null)]
    let name : Value := .object [("last", .string "lee"), ("first", .string "ann")]
    let p : Patch := [("$gone", .remove), ("$kept", .default (.bool true)), ("$new", .set .null),
      ("$user", .merge [("name", .assign name), ("on", .remove)])]
    let q : Patch := [("$count", .compute fun
      | none => some (.bool true)
      | some _ => none)]
    let whole : Patch := q ++ p
    let merged : Fields := [("$user", .object [("name", .object [("first", .string "ann"),
      ("last", .string "lee")])]), ("$kept", .null), ("$new", .null)]
    let s : Session := (Session.ofParts ⟨merged, [], [], 0, 64, "7.state", .holding none⟩
      (.ofProgram ⟨[], [], rfl⟩ .standard 1000 32)).observe "view" ["$user"] .callback [] 0
    apply d p = merged ∧ apply merged p = merged ∧
      (s.update (fun _ t => t) p).1 = .ok [] ∧ (s.update (fun _ t => t) p).2.log = s.log ∧
      (Value.object (apply (apply d p) q)).same (.object (apply (apply d q) p)) ∧
      d.changes (apply d whole) = ["$count", "$gone", "$new", "$user"] := by
  intro d name p q whole merged s
  have wellFormed : d.WellFormed := by
    simp [d, Fields.WellFormed, Fields.names, Fields.WellFormedValues, Value.WellFormed]
  have assigned := PatchOp.isStatic_and_isMap_assign name
  have operations : WellFormed p := by
    have value : (PatchOp.assign name).WellFormed := PatchOp.wellFormed_assign name
      (by simp [name, Value.WellFormed, Fields.WellFormedValues])
    simp [p, WellFormed, PatchOp.WellFormed, Value.WellFormed, value]
  have operations' : WellFormed q := by
    refine ⟨fun current? _ v next => ?_, trivial⟩
    cases current? <;> cases next
    trivial
  have map : IsMap p := by
    simp only [p, IsMap, PatchOp.IsMap, List.forall_mem_cons, and_iff_right assigned.2]
    decide +kernel
  have map' : IsMap q := by simp [q, IsMap, PatchOp.IsMap]
  have static : IsStatic p := by simp [p, IsStatic, PatchOp.IsStatic, assigned.1]
  obtain ⟨replays, commutes⟩ := replays_and_commutes wellFormed
  have applied : apply d p = merged := rfl
  have replayed := replays p operations map static
  obtain ⟨settled, silent⟩ := replayed
  rw [applied] at settled silent
  obtain ⟨nothing, -, nobody⟩ := silent (fun _ t => t) s rfl (by decide)
  have disjoint : p.keys.Disjoint q.keys := by simp [p, q, keys]
  obtain ⟨either, -, -, union⟩ :=
    commutes p q whole operations operations' map map' disjoint List.perm_append_comm
  refine ⟨applied, settled, nothing, nobody, either, union.trans ?_⟩
  decide

end Patch

end Reflex
