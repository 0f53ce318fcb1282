import Mathlib.Algebra.GroupWithZero.Nat
import Mathlib.Data.Nat.Basic
import Mathlib.Order.Basic
import Reflex.Binary64.Decimal

/-!
# Numbers that are not rounded

Rounding leaves a magnitude alone that is representable.  The integers up to `2 ^ 53` are, so that
their numerals are read exactly.

* `Extended.ofRatio_of_representable` is the first of these facts.
* `Extended.ofDecimal_of_le` is the second.
-/

namespace Reflex

namespace Binary64

variable {n num den : Nat}

lemma one_pos : 0 < one := by
  apply Nat.two_pow_pos

lemma spacing_pos (n : Nat) : 0 < spacing n := Nat.two_pow_pos _

/-- A division without a remainder is not rounded. -/
lemma roundDiv_of_dvd (pos : 0 < den) (divides : den ∣ num) : roundDiv num den = num / den := by
  unfold roundDiv
  rw [Nat.mod_eq_zero_of_dvd divides]
  simp [pos]

/-- A magnitude that is a multiple of the spacing there is not rounded. -/
lemma roundUnits_of_representable (h : Representable n) : roundUnits n 1 = n := by
  have divides : spacing n ∣ n := h.2
  unfold roundUnits
  dsimp only
  rw [Nat.div_one, Nat.one_mul, roundDiv_of_dvd (spacing_pos n) divides,
    Nat.div_mul_cancel divides]

/-- Zeros behind binary digits are digits. -/
lemma log2_mul_two_pow_lt {j k : Nat} (pos : 0 < n) (lt : n < 2 ^ j) :
    (n * 2 ^ k).log2 < j + k := by
  rw [Nat.log2_lt (Nat.mul_pos pos (Nat.two_pow_pos k)).ne', Nat.pow_add]
  exact Nat.mul_lt_mul_of_pos_right lt (Nat.two_pow_pos k)

/-- The exponent of the limit is a variable, so that no power with a numeral in it is evaluated. -/
lemma mul_two_pow_lt {digits k limit : Nat} (le : n ≤ 2 ^ digits) (inRange : digits + k < limit) :
    n * 2 ^ k < Nat.pow 2 limit := by
  apply Nat.lt_of_le_of_lt (Nat.mul_le_mul_right (2 ^ k) le)
  rw [← Nat.pow_add]
  exact Nat.pow_lt_pow_right Nat.one_lt_two inRange

/-- A number of up to 53 binary digits, with zeros behind them, is representable. -/
lemma representable_mul_two_pow {k : Nat} (le : n ≤ 2 ^ 53) (inRange : 53 + k < 2098) :
    Representable (n * 2 ^ k) := by
  rcases Nat.eq_zero_or_pos n with rfl | pos
  · rw [Nat.zero_mul]
    exact representable_zero
  constructor
  · apply mul_two_pow_lt
    · exact le
    · exact inRange
  · rcases Nat.lt_or_eq_of_le le with lt | rfl
    · have digits : (n * 2 ^ k).log2 < 53 + k := log2_mul_two_pow_lt pos lt
      exact Nat.dvd_mul_left_of_dvd (Nat.pow_dvd_pow 2 (by omega)) n
    · rw [← Nat.pow_add, Nat.log2_two_pow]
      exact Nat.pow_dvd_pow 2 (by omega)

lemma log2_mul_one_lt {j : Nat} (pos : 0 < n) (lt : n < 2 ^ j) : (n * one).log2 < j + 1074 := by
  apply log2_mul_two_pow_lt pos lt

/-- The integers up to `2 ^ 53` are representable. -/
lemma representable_of_le (le : n ≤ 2 ^ 53) : Representable (n * one) := by
  apply representable_mul_two_pow le
  decide

/-- An integer that is not rounded. -/
def ofNat (n : Nat) (le : n ≤ 2 ^ 53) : Binary64 :=
  ⟨false, n * one, representable_of_le le⟩

variable (le : n ≤ 2 ^ 53)

lemma isInteger_ofNat : (ofNat n le).isInteger :=
  beq_iff_eq.2 (Nat.mul_mod_left n one)

lemma scaled_ofNat : (ofNat n le).scaled = (n * one : Nat) :=
  if_neg Bool.false_ne_true

lemma truncate_ofNat : (ofNat n le).truncate = n := by
  rw [truncate, scaled_ofNat, ← Int.ofNat_tdiv, Nat.mul_div_cancel n one_pos]

end Binary64

namespace Extended

open Binary64

variable {n : Nat}

/-- A magnitude that is representable is not rounded. -/
lemma ofRatio_of_representable (negative : Bool) (h : Representable n) :
    ofRatio negative n 1 = .finite ⟨negative, n, h⟩ := by
  unfold ofRatio
  simp only [roundUnits_of_representable h]
  rw [dif_pos h]

/-- The numeral of an integer up to `2 ^ 53` is read exactly. -/
theorem ofDecimal_of_le (le : n ≤ 2 ^ 53) : ofDecimal false n 0 = .finite (.ofNat n le) := by
  unfold ofDecimal
  by_cases none : n = 0
  · subst none
    simp [Binary64.ofNat, zero]
  · rw [if_neg none, if_pos (Int.le_refl 0), if_neg (by decide : ¬ (0 : Int) > 400)]
    have whole : n * Nat.pow 10 (Int.toNat 0) * one = n * one := by
      rw [Int.toNat_zero, Nat.pow_eq, Nat.pow_zero, Nat.mul_one]
    rw [whole, ofRatio_of_representable false (representable_of_le le)]
    rfl

end Extended

end Reflex
