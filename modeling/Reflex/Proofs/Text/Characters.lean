import Mathlib.Tactic.Lemma
import Reflex.Text.Blank
import Reflex.Text.Word

/-!
# Classes of characters

The classes that the lexer tells apart are given by ranges of code points.  A name begins with a
letter or an underscore and goes on with these and with digits; all of these are ASCII, and all are
word characters, of which there are many more.  White space is none of them.

* `isName_iff` says what the characters of a name are.
* `isWord_of_isName` and `toNat_ge_of_isWord` say where the two classes of characters of names
  differ.
* `not_isWord_of_isBlank` is about white space.
-/

namespace Reflex

variable {c : Char}

/-! ## Names -/

lemma isDigit_iff : c.isDigit ↔ 48 ≤ c.toNat ∧ c.toNat ≤ 57 := by
  simp only [Char.isDigit, Bool.and_eq_true, decide_eq_true_eq, ge_iff_le, UInt32.le_iff_toNat_le]
  exact Iff.rfl

lemma isUpper_iff : c.isUpper ↔ 65 ≤ c.toNat ∧ c.toNat ≤ 90 := by
  change decide (c.val ≥ 'A'.val ∧ c.val ≤ 'Z'.val) = true ↔ _
  rw [decide_eq_true_eq, ge_iff_le, UInt32.le_iff_toNat_le, UInt32.le_iff_toNat_le]
  exact Iff.rfl

lemma isLower_iff : c.isLower ↔ 97 ≤ c.toNat ∧ c.toNat ≤ 122 := by
  change (decide (c.val ≥ 'a'.val) && decide (c.val ≤ 'z'.val)) = true ↔ _
  rw [Bool.and_eq_true, decide_eq_true_eq, decide_eq_true_eq, ge_iff_le, UInt32.le_iff_toNat_le,
    UInt32.le_iff_toNat_le]
  exact Iff.rfl

lemma isNameStart_iff : Text.isNameStart c ↔
    (65 ≤ c.toNat ∧ c.toNat ≤ 90) ∨ (97 ≤ c.toNat ∧ c.toNat ≤ 122) ∨ c = '_' := by
  rw [Text.isNameStart, Bool.or_eq_true, beq_iff_eq]
  change (c.isUpper || c.isLower) = true ∨ _ ↔ _
  rw [Bool.or_eq_true, isUpper_iff, isLower_iff, or_assoc]

lemma isName_iff : Text.isName c ↔ Text.isNameStart c ∨ c.isDigit := by
  rw [Text.isName, Text.isNameStart, Char.isAlphanum, Bool.or_eq_true, Bool.or_eq_true,
    Bool.or_eq_true, or_right_comm]

lemma isName_of_isDigit (digit : c.isDigit) : Text.isName c :=
  isName_iff.2 (.inr digit)

lemma isName_of_isNameStart (start : Text.isNameStart c) : Text.isName c :=
  isName_iff.2 (.inl start)

lemma isDigit_of_isNameStart (start : Text.isNameStart c) : c.isDigit = false := by
  rw [← Bool.not_eq_true, isDigit_iff]
  rcases isNameStart_iff.1 start with upper | lower | rfl
  · omega
  · omega
  · decide

/-! ## Word characters -/

/-- The characters of names are ASCII. -/
lemma toNat_lt_of_isName (h : Text.isName c) : c.toNat < 0x80 := by
  rcases isName_iff.1 h with start | digit
  · rcases isNameStart_iff.1 start with upper | lower | rfl
    · omega
    · omega
    · decide
  · have range := isDigit_iff.1 digit
    omega

lemma isWord_of_isName (h : Text.isName c) : Text.isWord c := by
  rw [Text.isWord, if_pos (toNat_lt_of_isName h)]
  exact h

lemma toNat_ge_of_isWord (word : Text.isWord c) (foreign : Text.isName c = false) :
    0x80 ≤ c.toNat := by
  rw [Text.isWord] at word
  split at word
  · rw [foreign] at word
    cases word
  · omega

/-! ## White space -/

/-- The code points of white space. -/
def blankCodes : List Nat :=
  [0x9, 0xA, 0xB, 0xC, 0xD, 0x20, 0x85, 0xA0, 0x1680, 0x2000, 0x2001, 0x2002, 0x2003, 0x2004,
    0x2005, 0x2006, 0x2007, 0x2008, 0x2009, 0x200A, 0x2028, 0x2029, 0x202F, 0x205F, 0x3000]

lemma not_isWord_blankCodes : ∀ n ∈ blankCodes, Text.isWord (Char.ofNat n) = false := by
  decide +kernel

lemma toNat_mem_blankCodes (blank : Text.isBlank c) : c.toNat ∈ blankCodes := by
  simp only [Text.isBlank, Bool.or_eq_true, Bool.and_eq_true, decide_eq_true_eq, beq_iff_eq]
    at blank
  simp only [blankCodes, List.mem_cons, List.not_mem_nil, or_false]
  omega

/-- A character of white space is no word character. -/
lemma not_isWord_of_isBlank (blank : Text.isBlank c) : Text.isWord c = false := by
  have := not_isWord_blankCodes c.toNat (toNat_mem_blankCodes blank)
  rwa [Char.ofNat_toNat] at this

lemma isName_of_isBlank (blank : Text.isBlank c) : Text.isName c = false := by
  rw [← Bool.not_eq_true]
  intro name
  have word := isWord_of_isName name
  rw [not_isWord_of_isBlank blank] at word
  cases word

lemma not_isBlank_of_isName (name : Text.isName c) : ¬ Text.isBlank c := by
  intro blank
  rw [isName_of_isBlank blank] at name
  cases name

lemma not_isBlank_of_isDigit (digit : c.isDigit) : ¬ Text.isBlank c :=
  not_isBlank_of_isName (isName_of_isDigit digit)

lemma not_isBlank_of_isNameStart (start : Text.isNameStart c) : ¬ Text.isBlank c :=
  not_isBlank_of_isName (isName_of_isNameStart start)

lemma isDigit_of_isBlank (blank : Text.isBlank c) : c.isDigit = false := by
  rw [← Bool.not_eq_true]
  exact fun digit => not_isBlank_of_isDigit digit blank

end Reflex
