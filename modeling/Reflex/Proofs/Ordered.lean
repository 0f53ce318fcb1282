import Mathlib.Algebra.GroupWithZero.Nat
import Mathlib.Data.List.Induction
import Mathlib.Data.List.Sort
import Mathlib.Data.String.Basic
import Reflex.Ordered

/-!
# Sets of names and maps with text keys

A set of names is the ascending list of its members, so two sets are equal as soon as they have the
same members (`NameSet.eq_of_mem_iff`).  Changing or setting the value of a key in an ordered map
changes what is found under that key and nothing else, and keeps the keys ascending
(`Ordered.sorted_adjust`), so that the last of several values for one key is the one that stays
(`Ordered.lookup_foldl_put`).  Such maps too are equal as soon as the same is found in them
(`Ordered.eq_of_lookup_eq`).
-/

namespace Reflex

namespace NameSet

variable {n m : String} {ns ms names : NameSet}

@[simp] lemma mem_insert : m ∈ insert n ns ↔ m = n ∨ m ∈ ns := by
  induction ns with
  | nil => simp [insert]
  | cons k ns ih =>
    by_cases below : n < k
    · simp [insert, below]
    by_cases same : n = k
    · simp [insert, same]
    · simp only [insert, below, same, if_false, List.mem_cons, ih]
      exact or_left_comm

lemma sorted_insert (sorted : ns.Pairwise (· < ·)) : (insert n ns).Pairwise (· < ·) := by
  induction ns with
  | nil => simp [insert]
  | cons k ns ih =>
    obtain ⟨above, sorted_ns⟩ := List.pairwise_cons.1 sorted
    by_cases below : n < k
    · rw [insert, if_pos below, List.pairwise_cons]
      refine ⟨fun m mem => ?_, sorted⟩
      rcases List.mem_cons.1 mem with rfl | mem
      · exact below
      · exact lt_trans below (above m mem)
    by_cases same : n = k
    · rw [insert, if_neg below, if_pos same]
      exact sorted
    · rw [insert, if_neg below, if_neg same, List.pairwise_cons]
      refine ⟨fun m mem => ?_, ih sorted_ns⟩
      rcases mem_insert.1 mem with rfl | mem
      · exact lt_of_le_of_ne (not_lt.1 below) (Ne.symm same)
      · exact above m mem

lemma mem_foldl_insert :
    m ∈ names.foldl (fun ns n => insert n ns) ns ↔ m ∈ names ∨ m ∈ ns := by
  induction names generalizing ns with
  | nil => simp
  | cons k names ih =>
    rw [List.foldl_cons, ih, mem_insert, List.mem_cons]
    exact or_left_comm.trans or_assoc.symm

lemma sorted_foldl_insert (sorted : ns.Pairwise (· < ·)) :
    (names.foldl (fun ns n => insert n ns) ns).Pairwise (· < ·) := by
  induction names generalizing ns with
  | nil => exact sorted
  | cons k names ih => exact ih (sorted_insert sorted)

@[simp] lemma mem_ofList : m ∈ ofList names ↔ m ∈ names := by
  rw [ofList, mem_foldl_insert]
  simp

lemma sorted_ofList (names : List String) : (ofList names).Pairwise (· < ·) :=
  sorted_foldl_insert .nil

/-- Two sets with the same members are the same list. -/
lemma eq_of_mem_iff (sorted : ns.Pairwise (· < ·)) (sorted' : ms.Pairwise (· < ·))
    (same : ∀ n, n ∈ ns ↔ n ∈ ms) : ns = ms := by
  have perm : ns.Perm ms :=
    (List.perm_ext_iff_of_nodup (sorted.imp ne_of_lt) (sorted'.imp ne_of_lt)).2 same
  exact perm.eq_of_pairwise (fun a b _ _ h h' => absurd h' (lt_asymm h)) sorted sorted'

end NameSet

namespace Ordered

variable {β : Type} {entries entries' : List (String × β)} {key key' : String} {value : β}

section Adjusting

variable {f : Option β → β}

lemma mem_keys_adjust : key' ∈ (adjust key f entries).map (·.1) ↔
    key' = key ∨ key' ∈ entries.map (·.1) := by
  induction entries with
  | nil => simp [adjust]
  | cons entry entries ih =>
    obtain ⟨k, v⟩ := entry
    by_cases below : key < k
    · simp [adjust, below]
    by_cases same : key = k
    · simp [adjust, same]
    · simp only [adjust, below, same, if_false, List.map_cons, List.mem_cons, ih]
      exact or_left_comm

/-- A key whose value is changed takes its place among the others. -/
lemma sorted_adjust (sorted : (entries.map (·.1)).Pairwise (· < ·)) :
    ((adjust key f entries).map (·.1)).Pairwise (· < ·) := by
  induction entries with
  | nil => simp [adjust]
  | cons entry entries ih =>
    obtain ⟨k, v⟩ := entry
    rw [List.map_cons, List.pairwise_cons] at sorted
    obtain ⟨above, sorted_entries⟩ := sorted
    by_cases below : key < k
    · simp only [adjust, below, if_true, List.map_cons, List.pairwise_cons, List.mem_cons]
      refine ⟨fun m mem => ?_, above, sorted_entries⟩
      rcases mem with rfl | mem
      · exact below
      · exact lt_trans below (above m mem)
    by_cases same : key = k
    · simpa [adjust, same] using And.intro above sorted_entries
    · rw [adjust, if_neg below, if_neg same, List.map_cons, List.pairwise_cons]
      refine ⟨fun m mem => ?_, ih sorted_entries⟩
      rcases mem_keys_adjust.1 mem with rfl | mem
      · exact lt_of_le_of_ne (not_lt.1 below) (Ne.symm same)
      · exact above m mem

lemma lookup_adjust_of_ne (other : key' ≠ key) :
    (adjust key f entries).lookup key' = entries.lookup key' := by
  have passes : (key' == key) = false := beq_false_of_ne other
  induction entries with
  | nil => simp [adjust, List.lookup_cons, passes]
  | cons entry entries ih =>
    obtain ⟨k, v⟩ := entry
    by_cases below : key < k
    · simp [adjust, below, List.lookup_cons, passes]
    by_cases same : key = k
    · simp [adjust, ← same, List.lookup_cons, passes]
    · simp [adjust, below, same, List.lookup_cons, ih]

/-- Where the keys ascend, the present value of a key is the one that is found. -/
lemma lookup_adjust_self (sorted : (entries.map (·.1)).Pairwise (· < ·)) :
    (adjust key f entries).lookup key = some (f (entries.lookup key)) := by
  induction entries with
  | nil => simp [adjust]
  | cons entry entries ih =>
    obtain ⟨k, v⟩ := entry
    rw [List.map_cons, List.pairwise_cons] at sorted
    obtain ⟨above, sorted_entries⟩ := sorted
    by_cases below : key < k
    · have absent : ((k, v) :: entries).lookup key = none := by
        refine List.lookup_eq_none_iff.2 fun entry mem => ?_
        rcases List.mem_cons.1 mem with rfl | mem
        · simpa using below.ne
        · simpa using (below.trans (above entry.1 (List.mem_map_of_mem mem))).ne
      simp [adjust, below, absent]
    by_cases same : key = k
    · simp [adjust, same]
    · have passes : (key == k) = false := beq_false_of_ne same
      simp [adjust, below, same, List.lookup_cons, passes, ih sorted_entries]

/-- A measure of the values grows as a whole by as much as the changed value does. -/
lemma sum_adjust {g : β → ℕ} {n : ℕ} (grows : ∀ v?, g (f v?) = (v?.map g).getD 0 + n) :
    ((adjust key f entries).map fun entry => g entry.2).sum =
      (entries.map fun entry => g entry.2).sum + n := by
  induction entries with
  | nil => simp [adjust, grows]
  | cons entry entries ih =>
    obtain ⟨k, v⟩ := entry
    by_cases below : key < k
    · simp only [adjust, below, if_true, List.map_cons, List.sum_cons, grows, Option.map_none,
        Option.getD_none]
      omega
    by_cases same : key = k
    · simp only [adjust, same, lt_irrefl, if_true, if_false, List.map_cons, List.sum_cons, grows,
        Option.map_some, Option.getD_some]
      omega
    · simp only [adjust, below, same, if_false, List.map_cons, List.sum_cons, ih]
      omega

end Adjusting

/-- An entry is the one that was set or was there before. -/
lemma mem_put {entry : String × β} (mem : entry ∈ put key value entries) :
    entry = (key, value) ∨ entry ∈ entries := by
  induction entries with
  | nil => exact .inl (List.mem_singleton.1 mem)
  | cons other entries ih =>
    obtain ⟨k, v⟩ := other
    rw [put, adjust] at mem
    split at mem
    · exact List.mem_cons.1 mem
    · split at mem
      · rename_i same
        subst same
        exact (List.mem_cons.1 mem).imp_right (List.mem_cons_of_mem _)
      · rcases List.mem_cons.1 mem with rfl | mem
        · exact .inr List.mem_cons_self
        · exact (ih mem).imp_right (List.mem_cons_of_mem _)

lemma mem_keys_put : key' ∈ (put key value entries).map (·.1) ↔
    key' = key ∨ key' ∈ entries.map (·.1) :=
  mem_keys_adjust

@[simp] lemma lookup_put_self : (put key value entries).lookup key = some value := by
  rw [put]
  induction entries with
  | nil => simp [adjust]
  | cons entry entries ih =>
    obtain ⟨k, v⟩ := entry
    by_cases below : key < k
    · simp [adjust, below]
    by_cases same : key = k
    · simp [adjust, same]
    · simpa [adjust, below, same, List.lookup_cons, beq_false_of_ne same] using ih

lemma lookup_put_of_ne (other : key' ≠ key) :
    (put key value entries).lookup key' = entries.lookup key' :=
  lookup_adjust_of_ne other

/-- A key that is set takes its place among the others. -/
lemma sorted_put (sorted : (entries.map (·.1)).Pairwise (· < ·)) :
    ((put key value entries).map (·.1)).Pairwise (· < ·) :=
  sorted_adjust sorted

section Folding

variable {α : Type} (f : α → String) (g : α → β)

lemma sorted_foldl_put (as : List α) :
    ((as.foldl (fun entries a => put (f a) (g a) entries) []).map (·.1)).Pairwise (· < ·) :=
  List.foldlRecOn (motive := fun entries : List (String × β) =>
    (entries.map (·.1)).Pairwise (· < ·)) as _ .nil
    fun _ before _ _ => sorted_put before

lemma mem_keys_foldl_put (as : List α) :
    key ∈ (as.foldl (fun entries a => put (f a) (g a) entries) []).map (·.1) ↔
      ∃ a ∈ as, f a = key := by
  induction as using List.reverseRecOn with
  | nil => simp
  | append_singleton as a ih =>
    rw [List.foldl_concat, mem_keys_put, ih]
    simp only [List.mem_append, List.mem_singleton, or_and_right, exists_or, exists_eq_left]
    rw [or_comm, eq_comm]

/-- Of the values that are set for a key one after the other the last one stays. -/
lemma lookup_foldl_put (as : List α) (key : String) :
    (as.foldl (fun entries a => put (f a) (g a) entries) []).lookup key =
      (as.filter (f · == key)).getLast?.map g := by
  induction as using List.reverseRecOn with
  | nil => rfl
  | append_singleton as a ih =>
    rw [List.foldl_concat, List.filter_append]
    by_cases same : key = f a
    · subst same
      rw [lookup_put_self]
      simp
    · rw [lookup_put_of_ne same, ih]
      simp [Ne.symm same]

end Folding

lemma mem_of_lookup (found : entries.lookup key = some value) : (key, value) ∈ entries := by
  obtain ⟨front, back, rfl, -⟩ := List.lookup_eq_some_iff.1 found
  simp

/-- Where each key has one entry a look-up finds every entry. -/
lemma lookup_eq_some_iff (nodup : (entries.map (·.1)).Nodup) :
    entries.lookup key = some value ↔ (key, value) ∈ entries := by
  refine ⟨mem_of_lookup, fun mem => List.lookup_eq_some_iff.2 ?_⟩
  obtain ⟨front, back, rfl⟩ := List.append_of_mem mem
  refine ⟨front, back, rfl, fun entry before => bne_iff_ne.2 ?_⟩
  rintro rfl
  rw [List.map_append, List.nodup_append'] at nodup
  exact nodup.2.2 (List.mem_map_of_mem before) (by simp)

/-- Two maps in which the same is found are the same list. -/
lemma eq_of_lookup_eq (sorted : (entries.map (·.1)).Pairwise (· < ·))
    (sorted' : (entries'.map (·.1)).Pairwise (· < ·))
    (same : ∀ key, entries.lookup key = entries'.lookup key) : entries = entries' := by
  have nodup : entries.Nodup := List.Nodup.of_map _ (sorted.imp ne_of_lt)
  have nodup' : entries'.Nodup := List.Nodup.of_map _ (sorted'.imp ne_of_lt)
  have perm : entries.Perm entries' := (List.perm_ext_iff_of_nodup nodup nodup').2 fun entry => by
    rw [← lookup_eq_some_iff (sorted.imp ne_of_lt), same, lookup_eq_some_iff (sorted'.imp ne_of_lt)]
  rw [List.pairwise_map] at sorted sorted'
  exact perm.eq_of_pairwise (fun _ _ _ _ h h' => absurd h' (lt_asymm h)) sorted sorted'

end Ordered

end Reflex
