import Mathlib.Tactic.Ring
import Reflex.Proofs.Binary64

/-!
# Rounding to the nearest number

A ratio is rounded to a magnitude that is no more than half the spacing away from it, where a tie
goes to the magnitude that is an even multiple of the spacing.  Equal ratios are rounded alike, and
what comes out is the magnitude of a number unless it is out of range.

* `Binary64.roundUnits_of_near` says where rounding leads.
* `Binary64.roundUnits_congr` is about equal ratios, and `Binary64.roundUnits_mono` about ordered
  ones.
* `Binary64.representable_roundUnits` is about the range.
-/

namespace Reflex

namespace Binary64

variable {n num den num' den' c s m q : Nat}

/-- A ratio is rounded to an integer that is no more than one half away, and that is even if it is
just one half away. -/
lemma roundDiv_of_near (pos : 0 < den) (lower : 2 * (s * den) ≤ 2 * num + den)
    (upper : 2 * num ≤ 2 * (s * den) + den)
    (tie : s % 2 = 0 ∨ 2 * (s * den) < 2 * num + den ∧ 2 * num < 2 * (s * den) + den) :
    roundDiv num den = s := by
  have split : num = num / den * den + num % den := (Nat.div_add_mod' num den).symm
  have small : num % den < den := Nat.mod_lt _ pos
  have cases : num / den = s ∨ num / den + 1 = s := by
    rcases Nat.lt_trichotomy (num / den) s with below | same | above
    · rcases Nat.lt_or_ge (num / den + 1) s with far | near
      · have := Nat.mul_le_mul_right den (Nat.succ_le_of_lt far)
        simp only [Nat.succ_eq_add_one, Nat.add_mul, Nat.one_mul] at this
        omega
      · omega
    · exact .inl same
    · have := Nat.mul_le_mul_right den (Nat.succ_le_of_lt above)
      simp only [Nat.succ_eq_add_one, Nat.add_mul, Nat.one_mul] at this
      omega
  unfold roundDiv
  rcases cases with rfl | rfl
  · rw [if_pos]
    simp only [Bool.or_eq_true, Bool.and_eq_true, decide_eq_true_eq, beq_iff_eq]
    omega
  · rw [if_neg]
    simp only [Bool.or_eq_true, Bool.and_eq_true, decide_eq_true_eq, beq_iff_eq, Nat.add_mul,
      Nat.one_mul] at *
    omega

lemma roundDiv_mul_right (pos : 0 < c) : roundDiv (num * c) (den * c) = roundDiv num den := by
  have less : 2 * (num % den * c) < den * c ↔ 2 * (num % den) < den := by
    rw [← Nat.mul_assoc, Nat.mul_lt_mul_right pos]
  have tie : 2 * (num % den * c) = den * c ↔ 2 * (num % den) = den := by
    rw [← Nat.mul_assoc, Nat.mul_left_inj pos.ne']
  unfold roundDiv
  rw [Nat.mul_div_mul_right _ _ pos, Nat.mul_mod_mul_right]
  simp only [less, beq_eq_decide, tie]

lemma roundUnits_mul_right (pos : 0 < c) : roundUnits (num * c) (den * c) = roundUnits num den := by
  unfold roundUnits
  dsimp only
  rw [Nat.mul_div_mul_right _ _ pos, Nat.mul_right_comm den c, roundDiv_mul_right pos]

/-- Equal ratios are rounded alike. -/
lemma roundUnits_congr (pos : 0 < den) (pos' : 0 < den') (same : num * den' = num' * den) :
    roundUnits num den = roundUnits num' den' := by
  rw [← roundUnits_mul_right pos', same, Nat.mul_comm den, roundUnits_mul_right pos]

lemma roundUnits_zero (pos : 0 < den) : roundUnits 0 den = 0 := by
  unfold roundUnits
  dsimp only
  rw [roundDiv_of_dvd (Nat.mul_pos pos (spacing_pos _)) (Nat.dvd_zero _), Nat.zero_div,
    Nat.zero_mul]

lemma spacing_of_between {k : Nat} (lower : 2 ^ k ≤ m) (upper : m < 2 ^ (k + 1)) :
    spacing m = 2 ^ (k - 52) := by
  have pos : m ≠ 0 := (Nat.lt_of_lt_of_le (Nat.two_pow_pos k) lower).ne'
  rw [spacing, (Nat.log2_eq_iff pos).2 ⟨lower, upper⟩, Nat.pow_eq]

/-- Up to 53 binary digits every magnitude is representable. -/
lemma spacing_of_lt (lt : m < 2 ^ 53) : spacing m = 1 := by
  rcases Nat.eq_zero_or_pos m with rfl | pos
  · decide
  · have digits : m.log2 < 53 := (Nat.log2_lt pos.ne').2 lt
    rw [spacing, Nat.sub_eq_zero_of_le (by omega), Nat.pow_eq, Nat.pow_zero]

/-- A ratio is rounded to a magnitude that is no more than half the spacing away. -/
lemma roundUnits_of_near {g : Nat} (pos : 0 < q) (near : spacing (num / q) = g)
    (lower : 2 * (s * g * q) ≤ 2 * num + g * q) (upper : 2 * num ≤ 2 * (s * g * q) + g * q)
    (tie : s % 2 = 0 ∨ 2 * (s * g * q) < 2 * num + g * q ∧ 2 * num < 2 * (s * g * q) + g * q) :
    roundUnits num q = s * g := by
  have gap : 0 < g := near ▸ spacing_pos _
  rw [Nat.mul_assoc, Nat.mul_comm g q] at lower upper tie
  unfold roundUnits
  simp only [near]
  rw [roundDiv_of_near (Nat.mul_pos pos gap) lower upper tie]

/-! ## Rounding is monotone -/

lemma roundDiv_le (pos : 0 < den) (le : num ≤ c * den) : roundDiv num den ≤ c := by
  have floor : num / den ≤ c := Nat.div_le_of_le_mul (Nat.mul_comm c den ▸ le)
  unfold roundDiv
  dsimp only
  split
  · exact floor
  · rename_i far
    refine Nat.lt_of_le_of_ne floor fun same => far ?_
    have split : num = num / den * den + num % den := (Nat.div_add_mod' num den).symm
    rw [same] at split
    simp only [Bool.or_eq_true, decide_eq_true_eq]
    omega

lemma div_le_roundDiv : num / den ≤ roundDiv num den := by
  unfold roundDiv
  dsimp only
  split
  · exact Nat.le_refl _
  · exact Nat.le_succ _

lemma roundDiv_mono (pos : 0 < den) (le : num ≤ num') : roundDiv num den ≤ roundDiv num' den := by
  rcases Nat.lt_or_eq_of_le (Nat.div_le_div_right (c := den) le) with less | same
  · have next : num ≤ (num / den + 1) * den := (Nat.lt_div_mul_add pos).le.trans_eq (by ring)
    exact (roundDiv_le pos next).trans (Nat.le_trans less div_le_roundDiv)
  · have split : num = num / den * den + num % den := (Nat.div_add_mod' num den).symm
    have split' : num' = num' / den * den + num' % den := (Nat.div_add_mod' num' den).symm
    unfold roundDiv
    simp only [Bool.or_eq_true, Bool.and_eq_true, decide_eq_true_eq, beq_iff_eq, same] at *
    split <;> split <;> omega

/-- A ratio up to a power of two is rounded to a magnitude up to that power. -/
lemma roundUnits_le_two_pow {k : Nat} (pos : 0 < den) (le : num ≤ 2 ^ k * den) :
    roundUnits num den ≤ 2 ^ k := by
  have floor : num / den ≤ 2 ^ k := Nat.div_le_of_le_mul (Nat.mul_comm _ den ▸ le)
  have digits : (num / den).log2 ≤ k := by
    rcases Nat.eq_zero_or_pos (num / den) with none | some
    · rw [none]
      exact Nat.zero_le k
    · exact (Nat.pow_le_pow_iff_right (by decide)).1 ((Nat.log2_self_le some.ne').trans floor)
  obtain ⟨c, whole⟩ : spacing (num / den) ∣ 2 ^ k := Nat.pow_dvd_pow 2 (by omega)
  unfold roundUnits
  dsimp only
  rw [whole, Nat.mul_comm _ c] at le ⊢
  refine Nat.mul_le_mul_right _ (roundDiv_le (Nat.mul_pos pos (spacing_pos _)) ?_)
  rwa [Nat.mul_comm den, ← Nat.mul_assoc]

/-- A ratio is rounded to no magnitude with fewer binary digits. -/
lemma two_pow_log2_le_roundUnits (pos : 0 < den) (above : 0 < num / den) :
    2 ^ (num / den).log2 ≤ roundUnits num den := by
  obtain ⟨c, whole⟩ : spacing (num / den) ∣ 2 ^ (num / den).log2 :=
    Nat.pow_dvd_pow 2 (Nat.sub_le _ 52)
  have reached : 2 ^ (num / den).log2 * den ≤ num :=
    (Nat.le_div_iff_mul_le pos).1 (Nat.log2_self_le above.ne')
  unfold roundUnits
  dsimp only
  rw [whole, Nat.mul_comm _ c] at reached ⊢
  refine Nat.mul_le_mul_right _ (Nat.le_trans ?_ div_le_roundDiv)
  rw [Nat.le_div_iff_mul_le (Nat.mul_pos pos (spacing_pos _)), Nat.mul_comm den, ← Nat.mul_assoc]
  exact reached

/-- Of two ratios the larger one is not rounded to a smaller magnitude. -/
theorem roundUnits_mono (pos : 0 < den) (pos' : 0 < den') (le : num * den' ≤ num' * den) :
    roundUnits num den ≤ roundUnits num' den' := by
  have same : roundUnits (num' * den) (den' * den) = roundUnits num' den' :=
    roundUnits_mul_right pos
  rw [← roundUnits_mul_right pos', ← same, Nat.mul_comm den' den]
  clear same
  have pos : 0 < den * den' := Nat.mul_pos pos pos'
  generalize num * den' = a at *
  generalize num' * den = b at *
  generalize den * den' = d at *
  have floors : a / d ≤ b / d := Nat.div_le_div_right le
  by_cases same : spacing (a / d) = spacing (b / d)
  · unfold roundUnits
    dsimp only
    rw [same]
    exact Nat.mul_le_mul_right _ (roundDiv_mono (Nat.mul_pos pos (spacing_pos _)) le)
  · -- A power of two lies between the ratios.
    have above : 0 < b / d := by
      refine Nat.pos_of_ne_zero fun none => same ?_
      have none' : a / d = 0 := Nat.eq_zero_of_le_zero (floors.trans_eq none)
      rw [none, none']
    have less : a / d < 2 ^ (b / d).log2 := by
      by_contra reached
      have power : 2 ^ (b / d).log2 ≤ a / d := Nat.not_lt.1 reached
      have digits : (a / d).log2 = (b / d).log2 :=
        (Nat.log2_eq_iff ((Nat.two_pow_pos _).trans_le power).ne').2
          ⟨power, floors.trans_lt ((Nat.log2_lt above.ne').1 (Nat.lt_succ_self _))⟩
      exact same (by rw [spacing, spacing, digits])
    exact (roundUnits_le_two_pow pos ((Nat.div_lt_iff_lt_mul pos).1 less).le).trans
      (two_pow_log2_le_roundUnits pos above)

/-- A magnitude is less than `2 ^ 53` times its spacing. -/
lemma lt_mul_spacing (pos : 0 < n) : n < 2 ^ 53 * spacing n := by
  have below : n < 2 ^ (n.log2 + 1) := (Nat.log2_lt pos.ne').1 (Nat.lt_succ_self _)
  rw [spacing, Nat.pow_eq, ← Nat.pow_add]
  exact Nat.lt_of_lt_of_le below (Nat.pow_le_pow_right Nat.two_pos (by omega))

/-- What a magnitude is rounded to is representable, unless it is out of range. -/
lemma representable_roundUnits (inRange : n.log2 < 2097) : Representable (roundUnits n 1) := by
  rcases Nat.eq_zero_or_pos n with rfl | pos
  · rw [roundUnits_zero Nat.one_pos]
    exact representable_zero
  have small : n / spacing n < 2 ^ 53 :=
    (Nat.div_lt_iff_lt_mul (spacing_pos n)).2 (lt_mul_spacing pos)
  have whole : roundDiv n (spacing n) ≤ 2 ^ 53 := by
    unfold roundDiv
    dsimp only
    split <;> omega
  unfold roundUnits
  dsimp only
  rw [Nat.div_one, Nat.one_mul]
  exact representable_mul_two_pow whole (by omega)

end Binary64

end Reflex
