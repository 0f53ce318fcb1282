import Mathlib.Algebra.Order.Ring.Nat
import Mathlib.Algebra.Ring.Int.Defs
import Reflex.Proofs.Binary64
import Reflex.Proofs.Value.Equality

/-!
# Equality up to numbers

Structural equality looks the fields of one object up in the other.  On values that repeat no name
this is equality of maps: arrays have the same items at the same positions, and objects have the
same names and under each of them the same value.  `Value.EqualBy` says so for any way of comparing
numbers, which is all in which the ways of comparing values differ.

* `Value.same_iff` says that structural equality is equality by `Number.same`.
* `Value.Facing` pairs the parts of two values that stand in the same place, and
  `Value.EqualBy.facing` says that parts of equal values are equal, at every depth.
* `Number.same_iff` and `Number.sameValue_iff` compare numbers by their exact values.
-/

namespace Reflex

/-! ## Numbers -/

namespace Number

variable {n m : Number}

/-- The exact value, in units of binary64. -/
def scaled : Number → Int
  | .int n _ => n * Binary64.one
  | .float x => x.scaled

lemma scaled_int {n : Int} {isWord : IsWord n} : (int n isWord).scaled = n * Binary64.one := rfl

lemma scaled_float {x : Binary64} : (float x).scaled = x.scaled := rfl

/-- Whether two numbers have the same exact value. -/
def Equals (n m : Number) : Prop :=
  n.scaled = m.scaled

/-- Whether two numbers are both integers, or both floating. -/
def SameKind (n m : Number) : Prop :=
  n.int?.isSome = m.int?.isSome

/-- Whether the value of a number is that of a binary64 number. -/
def IsExact (n : Number) : Prop :=
  ∃ x, n.toExtended = .finite x ∧ x.scaled = n.scaled

lemma isExact_float (x : Binary64) : (float x).IsExact :=
  ⟨x, rfl, rfl⟩

/-- Integers of up to 53 bits are binary64 numbers. -/
lemma isExact_int {n : Int} {isWord : IsWord n} (le : n.natAbs ≤ 2 ^ 53) :
    (int n isWord).IsExact := by
  have operand : (int n isWord).toExtended =
      .finite ⟨n < 0, n.natAbs * Binary64.one, Binary64.representable_of_le le⟩ :=
    Extended.ofRatio_of_representable (n < 0) (Binary64.representable_of_le le)
  refine ⟨_, operand, ?_⟩
  rw [scaled_int, Binary64.scaled, Nat.cast_mul]
  split
  · rename_i negative
    have magnitude : (n.natAbs : Int) = -n :=
      Int.ofNat_natAbs_of_nonpos (le_of_lt (of_decide_eq_true negative))
    rw [magnitude, Int.neg_mul, Int.neg_neg]
  · rename_i negative
    have magnitude : (n.natAbs : Int) = n := Int.natAbs_of_nonneg (by simpa using negative)
    rw [magnitude]

/-- Numbers are structurally equal when they have the same kind and the same value. -/
lemma same_iff : n.same m ↔ n.SameKind m ∧ n.Equals m := by
  have pos : (Binary64.one : Int) ≠ 0 := Int.natCast_ne_zero.2 Binary64.one_pos.ne'
  cases n with
  | int n _ =>
    cases m with
    | int m _ =>
      rw [Equals, scaled_int, scaled_int, mul_left_inj' pos]
      simp [same, SameKind, int?]
    | float y => simp [same, SameKind, int?]
  | float x =>
    cases m with
    | int m _ => simp [same, SameKind, int?]
    | float y =>
      rw [Equals, scaled_float, scaled_float]
      simp [same, SameKind, int?, Binary64.sameValue]

/-- Exact numbers are equal as operands when they have the same value. -/
lemma sameValue_iff (left : n.IsExact) (right : m.IsExact) : n.sameValue m ↔ n.Equals m := by
  obtain ⟨x, operand, value⟩ := left
  obtain ⟨y, operand', value'⟩ := right
  rw [sameValue, operand, operand', Equals, ← value, ← value', Extended.sameValue,
    Extended.compare?, beq_iff_eq, Option.some.injEq, compare_eq_iff_eq]

lemma sameValue_of_same (h : n.same m) : n.sameValue m := by
  cases n with
  | float x =>
    cases m with
    | int m _ => cases h
    | float y => exact (sameValue_iff (isExact_float x) (isExact_float y)).2 (same_iff.1 h).2
  | int n _ =>
    cases m with
    | float y => cases h
    | int m _ =>
      obtain rfl : n = m := by simpa [same] using h
      change (Extended.ofInt n).sameValue (Extended.ofInt n) = true
      rw [Extended.ofInt, Extended.ofRatio]
      split <;> simp only [Extended.sameValue, Extended.compare?] <;> simp

end Number

/-! ## Values -/

lemma Fields.has_iff {fs : Fields} {key : String} : fs.has key ↔ key ∈ fs.names := by
  rw [has, Option.isSome_iff_ne_none, ne_eq, get?_eq_none_iff, not_not]

namespace Value

/-- Values that are equal when numbers are compared by `r`. -/
inductive EqualBy (r : Number → Number → Prop) : Value → Value → Prop where
  | null : EqualBy r .null .null
  | bool (b : Bool) : EqualBy r (.bool b) (.bool b)
  | number {n m : Number} (related : r n m) : EqualBy r (.number n) (.number m)
  | string (s : String) : EqualBy r (.string s) (.string s)
  | array {xs ys : List Value} (length : xs.length = ys.length)
      (items : ∀ (i : Nat) (x y : Value), xs[i]? = some x → ys[i]? = some y → EqualBy r x y) :
      EqualBy r (.array xs) (.array ys)
  | object {fs gs : Fields} (names : ∀ key, fs.has key = gs.has key)
      (values : ∀ key v w, fs.get? key = some v → gs.get? key = some w → EqualBy r v w) :
      EqualBy r (.object fs) (.object gs)

/-- The parts of `v` and `w` that stand in the same place. -/
inductive Facing (v w : Value) : Value → Value → Prop where
  | here : Facing v w v w
  | item {xs ys : List Value} {i : Nat} {x y : Value} (arrays : Facing v w (.array xs) (.array ys))
      (left : xs[i]? = some x) (right : ys[i]? = some y) : Facing v w x y
  | field {fs gs : Fields} {key : String} {x y : Value}
      (objects : Facing v w (.object fs) (.object gs))
      (left : fs.get? key = some x) (right : gs.get? key = some y) : Facing v w x y

variable {r r' : Number → Number → Prop} {u v w x y a b : Value}

lemma Facing.trans (h : Facing v w x y) (h' : Facing x y a b) : Facing v w a b := by
  induction h' with
  | here => exact h
  | item _ left right ih => exact ih.item left right
  | field _ left right ih => exact ih.field left right

/-- A number has no parts but itself. -/
lemma Facing.of_number {n : Number} (h : Facing (.number n) w x y) : x = .number n ∧ y = w := by
  induction h with
  | here => exact ⟨rfl, rfl⟩
  | item _ _ _ ih => cases ih.1
  | field _ _ _ ih => cases ih.1

/-- Equal values have equal parts in the same places. -/
theorem EqualBy.facing (h : v.EqualBy r w) (parts : Facing v w x y) : x.EqualBy r y := by
  induction parts with
  | here => exact h
  | item _ left right ih =>
    cases ih with
    | array _ items => exact items _ _ _ left right
  | field _ left right ih =>
    cases ih with
    | object _ values => exact values _ _ _ left right

/-- It is the numbers in the same places that are compared. -/
theorem EqualBy.imp (h : v.EqualBy r w)
    (imp : ∀ n m, Facing v w (.number n) (.number m) → r n m → r' n m) : v.EqualBy r' w := by
  induction h with
  | null => exact .null
  | bool b => exact .bool b
  | number related => exact .number (imp _ _ .here related)
  | string s => exact .string s
  | array length _ ih =>
    exact .array length fun i x y left right =>
      ih i x y left right fun n m parts => imp n m ((Facing.here.item left right).trans parts)
  | object names _ ih =>
    exact .object names fun key v w left right =>
      ih key v w left right fun n m parts => imp n m ((Facing.here.field left right).trans parts)

/-! ### Structural equality -/

lemma sameItems_iff {xs ys : List Value} : sameItems xs ys ↔ xs.length = ys.length ∧
    ∀ (i : Nat) (x y : Value), xs[i]? = some x → ys[i]? = some y → x.same y := by
  induction xs generalizing ys with
  | nil => cases ys <;> simp [sameItems]
  | cons x xs ih =>
    cases ys with
    | nil => simp [sameItems]
    | cons y ys =>
      rw [sameItems, Bool.and_eq_true, ih, List.length_cons, List.length_cons,
        Nat.add_right_cancel_iff]
      constructor
      · rintro ⟨here, length, there⟩
        refine ⟨length, fun i x' y' left right => ?_⟩
        cases i with
        | zero =>
          cases left
          cases right
          exact here
        | succ i => exact there i x' y' left right
      · rintro ⟨length, items⟩
        exact ⟨items 0 x y rfl rfl, length, fun i x' y' => items (i + 1) x' y'⟩

/-- Objects that repeat no name are the same when they agree as maps. -/
lemma same_object_iff {fs gs : Fields} (left : fs.names.Nodup) (right : gs.names.Nodup) :
    (Value.object fs).same (.object gs) ↔ (∀ key, fs.has key = gs.has key) ∧
      ∀ key x y, fs.get? key = some x → gs.get? key = some y → x.same y := by
  rw [same, Bool.and_eq_true, beq_iff_eq]
  constructor
  · rintro ⟨length, same⟩
    have names := names_perm_of_sameFields left length same
    refine ⟨fun key => ?_, fun key x y found found' => ?_⟩
    · rw [Bool.eq_iff_iff, Fields.has_iff, Fields.has_iff, names.mem_iff]
    · obtain ⟨y', found'', like⟩ := exists_of_sameFields same (Fields.mem_of_get? found)
      obtain rfl : y = y' := Option.some.inj (found'.symm.trans found'')
      exact like
  · rintro ⟨names, values⟩
    have perm : fs.names.Perm gs.names := (List.perm_ext_iff_of_nodup left right).2 fun key => by
      rw [← Fields.has_iff, ← Fields.has_iff, names key]
    refine ⟨by simpa [Fields.names] using perm.length_eq,
      sameFields_of_forall fun (key, x) mem => ?_⟩
    have found : fs.get? key = some x := (Fields.get?_eq_some_iff left).2 mem
    obtain ⟨y, found'⟩ : ∃ y, gs.get? key = some y := by
      rw [← Option.isSome_iff_exists]
      exact (names key).symm.trans (Option.isSome_iff_exists.2 ⟨x, found⟩)
    exact ⟨y, found', values key x y found found'⟩

/-- Structural equality of well-formed values is equality by kind and value of their numbers. -/
theorem same_iff : ∀ (v : Value) {w : Value}, v.WellFormed → w.WellFormed →
    (v.same w ↔ v.EqualBy (fun n m => n.same m) w)
  | .null, w, _, _ => by
    constructor
    · intro h
      cases w <;> simp only [same, Bool.false_eq_true] at h
      exact .null
    · rintro ⟨⟩
      rfl
  | .bool a, w, _, _ => by
    constructor
    · intro h
      cases w <;> simp only [same, Bool.false_eq_true, beq_iff_eq] at h
      exact h ▸ .bool a
    · rintro ⟨⟩
      simp [same]
  | .number n, w, _, _ => by
    constructor
    · intro h
      cases w <;> simp only [same, Bool.false_eq_true] at h
      exact .number h
    · rintro ⟨⟩
      assumption
  | .string a, w, _, _ => by
    constructor
    · intro h
      cases w <;> simp only [same, Bool.false_eq_true, beq_iff_eq] at h
      exact h ▸ .string a
    · rintro ⟨⟩
      simp [same]
  | .array xs, w, left, right => by
    have item : ∀ (ys : List Value), WellFormedItems ys → ∀ (i : Nat) (x y : Value),
        xs[i]? = some x → ys[i]? = some y →
        (x.same y ↔ x.EqualBy (fun n m => n.same m) y) := by
      intro ys right i x y here there
      have mem : x ∈ xs := List.mem_of_getElem? here
      exact same_iff x (wellFormedItems_iff.1 left x mem)
        (wellFormedItems_iff.1 right y (List.mem_of_getElem? there))
    constructor
    · intro h
      cases w <;> simp only [same, Bool.false_eq_true] at h
      obtain ⟨length, items⟩ := sameItems_iff.1 h
      exact .array length fun i x y here there =>
        (item _ right i x y here there).1 (items i x y here there)
    · rintro ⟨⟩
      rename_i ys length items
      exact sameItems_iff.2 ⟨length, fun i x y here there =>
        (item ys right i x y here there).2 (items i x y here there)⟩
  | .object fs, w, left, right => by
    have value : ∀ gs : Fields, gs.WellFormed → ∀ key x y, Fields.get? fs key = some x →
        gs.get? key = some y → (x.same y ↔ x.EqualBy (fun n m => n.same m) y) := by
      intro gs right key x y here there
      have mem : (key, x) ∈ fs := Fields.mem_of_get? here
      exact same_iff x (Fields.WellFormed.get? left here) (right.get? there)
    constructor
    · intro h
      cases w with
      | object gs =>
        obtain ⟨names, values⟩ := (same_object_iff left.1 right.1).1 h
        exact .object names fun key x y here there =>
          (value gs right key x y here there).1 (values key x y here there)
      | _ => simp only [same, Bool.false_eq_true] at h
    · rintro ⟨⟩
      rename_i gs names values
      exact (same_object_iff left.1 right.1).2 ⟨names, fun key x y here there =>
        (value gs right key x y here there).2 (values key x y here there)⟩
termination_by v => sizeOf v
decreasing_by
  · have := List.sizeOf_lt_of_mem mem
    simp
    omega
  · have := List.sizeOf_lt_of_mem mem
    simp at this ⊢
    omega

end Value

end Reflex
