import Mathlib.Tactic.Positivity
import Reflex.Json.Printer
import Reflex.Json.Reader
import Reflex.Proofs.Expr.Numerals
import Reflex.Proofs.Result

/-!
# Numerals in JSON texts

A reader that takes a numeral off a text stops at its end, whatever stands behind it, unless that
goes on with the numeral.

* `Json.Stops` says of a text that it goes on with no numeral.
* `Json.scalar_append` adds such a text behind one that begins with a numeral, and
  `Json.scalar_suffix` says that what a reader leaves stands at the end of its text.
* `Json.scalar_ofInt` reads an integer from its text.
* `Number.isNumeral_text` says which characters the text of a number consists of.
-/

namespace Reflex

lemma Text.toList_ofInt (n : Int) : (ofInt n).toList =
    if n < 0 then '-' :: Nat.toDigits 10 n.natAbs else Nat.toDigits 10 n.natAbs := by
  rw [ofInt]
  split <;> simp [ofNat]

namespace Json

/-- The text goes on with no numeral. -/
def Stops (rest : List Char) : Prop :=
  ∀ c ∈ rest.head?, c.isDigit = false ∧ c ≠ '.' ∧ c ≠ 'e' ∧ c ≠ 'E'

variable {cs tail rest ds : List Char} {ds? : Option (List Char)} {c : Char} {negative : Bool}
  {e? : Option (Bool × List Char)} {d : Datum} {n s : Nat}

lemma Stops.notDigit (stops : Stops rest) : ∀ c ∈ rest.head?, c.isDigit = false :=
  fun c mem => (stops c mem).1

lemma stops_nil : Stops [] := nofun

lemma stops_cons (other : c.isDigit = false ∧ c ≠ '.' ∧ c ≠ 'e' ∧ c ≠ 'E') : Stops (c :: rest) := by
  rintro _ ⟨⟩
  exact other

/-! ## What follows a numeral -/

lemma splitFraction_of_ne (other : ∀ c ∈ cs.head?, c ≠ '.') :
    splitFraction cs = .ok (none, cs) := by
  refine splitFraction.eq_2 cs fun ds point => ?_
  exact other '.' (by rw [point]; rfl) rfl

lemma splitFraction_append (stops : Stops rest) (split : splitFraction cs = .ok (ds?, tail)) :
    splitFraction (cs ++ rest) = .ok (ds?, tail ++ rest) := by
  cases cs with
  | nil =>
    cases split
    exact splitFraction_of_ne fun c mem => (stops c mem).2.1
  | cons c cs =>
    by_cases point : c = '.'
    · subst point
      rw [splitFraction] at split
      rw [List.cons_append, splitFraction, takeWhile_append_of_stop stops.notDigit,
        dropWhile_append_of_stop stops.notDigit]
      split at split
      · cases split
      · rename_i digits
        cases split
        exact if_neg digits
    · rw [splitFraction_of_ne (by rintro _ ⟨⟩; exact point)] at split
      cases split
      exact splitFraction_of_ne (by rintro _ ⟨⟩; exact point)

lemma splitFraction_suffix (split : splitFraction cs = .ok (ds?, tail)) : tail <:+ cs := by
  unfold splitFraction at split
  split at split
  · dsimp only at split
    split at split <;> cases split
    exact (List.dropWhile_suffix _).trans (List.suffix_cons _ _)
  · cases split
    exact List.suffix_rfl

lemma splitSign_append (nonempty : cs ≠ []) : Extended.splitSign (cs ++ rest) =
    ((Extended.splitSign cs).1, (Extended.splitSign cs).2 ++ rest) := by
  obtain ⟨c, cs, rfl⟩ := List.exists_cons_of_ne_nil nonempty
  by_cases minus : c = '-'
  · subst minus
    rfl
  by_cases plus : c = '+'
  · subst plus
    rfl
  have unsigned (cs : List Char) : Extended.splitSign (c :: cs) = (false, c :: cs) :=
    Extended.splitSign.eq_3 _ (fun _ same => minus (List.cons.inj same).1)
      fun _ same => plus (List.cons.inj same).1
  rw [List.cons_append, unsigned, unsigned, List.cons_append]

lemma splitSign_suffix (cs : List Char) : (Extended.splitSign cs).2 <:+ cs := by
  unfold Extended.splitSign
  split
  · exact List.suffix_cons _ _
  · exact List.suffix_cons _ _
  · exact List.suffix_rfl

lemma splitExponent_append (stops : Stops rest) (split : splitExponent cs = .ok (e?, tail)) :
    splitExponent (cs ++ rest) = .ok (e?, tail ++ rest) := by
  cases cs with
  | nil =>
    cases split
    cases rest with
    | nil => rfl
    | cons c rest =>
      obtain ⟨-, -, small, capital⟩ := stops c rfl
      exact if_neg (by simp [small, capital])
  | cons c cs =>
    rw [splitExponent] at split
    rw [List.cons_append, splitExponent]
    split at split
    · rename_i letter
      rw [if_pos letter]
      dsimp only at split ⊢
      split at split
      · cases split
      · rename_i digits
        cases split
        -- An exponent has digits, so that its sign is not looked for behind the text.
        have nonempty : cs ≠ [] := by
          rintro rfl
          exact digits rfl
        rw [splitSign_append nonempty, takeWhile_append_of_stop stops.notDigit,
          dropWhile_append_of_stop stops.notDigit]
        exact if_neg digits
    · rename_i other
      cases split
      exact if_neg other

lemma splitExponent_suffix (split : splitExponent cs = .ok (e?, tail)) : tail <:+ cs := by
  unfold splitExponent at split
  split at split
  · split at split
    · dsimp only at split
      split at split <;> cases split
      exact ((List.dropWhile_suffix _).trans (splitSign_suffix _)).trans (List.suffix_cons _ _)
    · cases split
      exact List.suffix_rfl
  · cases split
    exact List.suffix_rfl

/-- An unsigned numeral: its digits, its fraction and its exponent. -/
lemma unsignedNumber_eq_ok_iff : unsignedNumber negative cs = .ok (d, rest) ↔
    ¬ ((cs.takeWhile Char.isDigit).isEmpty || ((cs.takeWhile Char.isDigit).head? == some '0' &&
        decide ((cs.takeWhile Char.isDigit).length > 1))) = true ∧
      ∃ fraction more exponent, splitFraction (cs.dropWhile Char.isDigit) = .ok (fraction, more) ∧
        splitExponent more = .ok (exponent, rest) ∧
        d = Numeral.datum ⟨negative, cs.takeWhile Char.isDigit, fraction, exponent⟩ := by
  unfold unsignedNumber
  dsimp only
  split
  · rename_i refused
    simp [refused]
  · rename_i permitted
    simp [permitted, bind_eq_ok_iff, pure, Except.pure, @eq_comm _ d]

lemma unsignedNumber_append (stops : Stops rest)
    (read : unsignedNumber negative cs = .ok (d, tail)) :
    unsignedNumber negative (cs ++ rest) = .ok (d, tail ++ rest) := by
  obtain ⟨permitted, fraction, more, exponent, point, letter, rfl⟩ :=
    unsignedNumber_eq_ok_iff.1 read
  rw [unsignedNumber_eq_ok_iff, takeWhile_append_of_stop stops.notDigit,
    dropWhile_append_of_stop stops.notDigit]
  exact ⟨permitted, fraction, more ++ rest, exponent, splitFraction_append stops point,
    splitExponent_append stops letter, rfl⟩

lemma unsignedNumber_suffix (read : unsignedNumber negative cs = .ok (d, tail)) : tail <:+ cs := by
  obtain ⟨-, fraction, more, exponent, point, letter, -⟩ := unsignedNumber_eq_ok_iff.1 read
  exact ((splitExponent_suffix letter).trans (splitFraction_suffix point)).trans
    (List.dropWhile_suffix _)

/-- What begins with a minus sign or a digit is read as a number. -/
lemma scalar_numeral (start : c = '-' ∨ c.isDigit) : scalar (c :: cs) =
    if c = '-' then unsignedNumber true cs else unsignedNumber false (c :: cs) := by
  rcases start with rfl | digit
  · rfl
  · have other (letter : Char) (notDigit : letter.isDigit = false) : c ≠ letter := by
      rintro rfl
      rw [notDigit] at digit
      cases digit
    rw [if_neg (other '-' rfl), scalar.eq_5]
    · exact fun _ same => other 'n' rfl (List.cons.inj same).1
    · exact fun _ same => other 't' rfl (List.cons.inj same).1
    · exact fun _ same => other 'f' rfl (List.cons.inj same).1
    · exact fun _ same => other '-' rfl (List.cons.inj same).1

/-- Behind a number may stand whatever goes on with no numeral. -/
lemma scalar_append (start : c = '-' ∨ c.isDigit) (stops : Stops rest)
    (read : scalar (c :: cs) = .ok (d, tail)) :
    scalar (c :: (cs ++ rest)) = .ok (d, tail ++ rest) := by
  rw [scalar_numeral start] at read ⊢
  split_ifs at read ⊢ with minus
  · exact unsignedNumber_append stops read
  · exact unsignedNumber_append stops read

/-- What is left behind a number stands at the end of the text. -/
lemma scalar_suffix (start : c = '-' ∨ c.isDigit) (read : scalar (c :: cs) = .ok (d, tail)) :
    tail <:+ c :: cs := by
  rw [scalar_numeral start] at read
  split_ifs at read with minus
  · exact (unsignedNumber_suffix read).trans (List.suffix_cons _ _)
  · exact unsignedNumber_suffix read

/-! ## Integers -/

/-- Digits of a number below `2 ^ 64` are all taken into the significand. -/
lemma absorb_digits (digits : ∀ c ∈ ds, c.isDigit) (fits : Nat.ofDigitChars 10 ds s < 2 ^ 64) :
    absorb s ds = (Nat.ofDigitChars 10 ds s, ds.length, 0) := by
  induction ds generalizing s with
  | nil => rfl
  | cons c ds ih =>
    obtain ⟨-, others⟩ := List.forall_mem_cons.1 digits
    rw [Nat.ofDigitChars_cons] at fits
    have grows : 10 * s + (c.toNat - '0'.toNat) ≤
        Nat.ofDigitChars 10 ds (10 * s + (c.toNat - '0'.toNat)) := by
      rw [Nat.ofDigitChars_eq_ofDigitChars_zero]
      exact Nat.le_add_right_of_le (Nat.le_mul_of_pos_left _ (by positivity))
    rw [absorb, Nat.ofDigitChars_cons]
    dsimp only
    rw [if_pos (by simpa using grows.trans_lt fits)]
    have rest : absorb (10 * s + (c.toNat - 48)) ds = _ := ih others fits
    rw [rest]
    rfl

/-- The digits of a number begin with a zero only if there are no others. -/
lemma head?_toDigits (pos : 0 < n) : (Nat.toDigits 10 n).head? ≠ some '0' := by
  induction n using Nat.strongRecOn with
  | ind n ih =>
    by_cases small : n < 10
    · rw [Nat.toDigits_of_lt_base small]
      have all : ∀ n < 10, 0 < n → [Nat.digitChar n].head? ≠ some '0' := by decide
      exact all n small pos
    · rw [Nat.toDigits_of_base_le (by decide) (Nat.not_lt.1 small),
        List.head?_append_of_ne_nil _ Nat.toDigits_ne_nil]
      exact ih (n / 10) (Nat.div_lt_self pos (by decide)) (by omega)

/-- The digits of a number below `2 ^ 64` are read as that number, with the sign that stands in
front of them, unless that makes it too small or a negative zero. -/
lemma unsignedNumber_toDigits (fits : n < 2 ^ 64)
    (signed : negative = true → 0 < n ∧ n ≤ 2 ^ 63) :
    unsignedNumber negative (Nat.toDigits 10 n) =
      .ok (.integer (if negative then -(n : Int) else n), []) := by
  have digits := isDigits_toDigits n
  have value : Nat.ofDigitChars 10 (Nat.toDigits 10 n) 0 = n :=
    Nat.ofDigitChars_toDigits (by decide) (by decide)
  have taken : (Nat.toDigits 10 n).takeWhile Char.isDigit = Nat.toDigits 10 n :=
    List.takeWhile_eq_self_iff.2 digits.digits
  have left : (Nat.toDigits 10 n).dropWhile Char.isDigit = [] :=
    List.dropWhile_eq_nil_iff.2 digits.digits
  rw [unsignedNumber_eq_ok_iff, taken, left]
  refine ⟨?_, none, [], none, rfl, rfl, ?_⟩
  · rcases Nat.eq_zero_or_pos n with rfl | pos
    · decide
    · simp [Nat.toDigits_ne_nil, head?_toDigits pos]
  · have absorbed := absorb_digits digits.digits (s := 0) (by rwa [value])
    rw [value] at absorbed
    have inRange : (negative && (decide (n = 0) || decide (0x8000000000000000 < n))) = false := by
      cases negative with
      | false => rfl
      | true =>
        obtain ⟨pos, small⟩ := signed rfl
        simp only [Bool.true_and, Bool.or_eq_false_iff, decide_eq_false_iff_not]
        omega
    simp [Numeral.datum, absorbed, inRange]

/-- An integer of 64 bits is read from its text. -/
theorem scalar_ofInt {n : Int} (isWord : IsWord n) :
    scalar (Text.ofInt n).toList = .ok (.integer n, []) := by
  obtain ⟨lower, upper⟩ := isWord
  rw [Text.toList_ofInt]
  split
  · rename_i negative
    rw [scalar_numeral (.inl rfl), if_pos rfl,
      unsignedNumber_toDigits (by omega) (fun _ => by omega), if_pos rfl]
    congr
    omega
  · rename_i nonnegative
    have read : unsignedNumber false (Nat.toDigits 10 n.natAbs) =
        .ok (.integer (n.natAbs : Int), []) :=
      unsignedNumber_toDigits (by omega) nofun
    have digits := isDigits_toDigits n.natAbs
    obtain ⟨c, cs, split⟩ := List.exists_cons_of_ne_nil digits.nonempty
    have digit : c.isDigit := digits.digits c (by rw [split]; exact List.mem_cons_self)
    have unsigned : c ≠ '-' := by
      rintro rfl
      cases digit
    rw [split] at read ⊢
    rw [scalar_numeral (.inr digit), if_neg unsigned, read]
    congr
    omega

end Json

/-! ## The characters of numerals -/

/-- The text of a numeral: it begins with a minus sign or a digit, and no white space is in it. -/
def IsNumeral (cs : List Char) : Prop :=
  (∃ c ∈ cs.head?, c = '-' ∨ c.isDigit) ∧ ∀ c ∈ cs, Json.isSpace c = false

section Characters

variable {cs ds : List Char} {c : Char}

lemma isSpace_of_isDigit (digit : c.isDigit) : Json.isSpace c = false := by
  have range := isDigit_iff.1 digit
  simp only [Json.isSpace, Bool.or_eq_false_iff, beq_eq_false_iff_ne]
  refine ⟨⟨⟨?_, ?_⟩, ?_⟩, ?_⟩ <;> rintro rfl <;> exact absurd digit (by decide)

namespace IsDigits

lemma isNumeral (digits : IsDigits ds) : IsNumeral ds := by
  obtain ⟨c, cs, rfl⟩ := List.exists_cons_of_ne_nil digits.nonempty
  exact ⟨⟨c, rfl, .inr (digits.digits c List.mem_cons_self)⟩,
    fun c mem => isSpace_of_isDigit (digits.digits c mem)⟩

end IsDigits

namespace IsNumeral

lemma append (numeral : IsNumeral cs) (solid : ∀ c ∈ ds, Json.isSpace c = false) :
    IsNumeral (cs ++ ds) := by
  obtain ⟨⟨c, first, start⟩, all⟩ := numeral
  exact ⟨⟨c, by simp [Option.mem_def.1 first], start⟩, List.forall_mem_append.2 ⟨all, solid⟩⟩

lemma minus (numeral : IsNumeral cs) : IsNumeral ('-' :: cs) :=
  ⟨⟨'-', rfl, .inl rfl⟩, List.forall_mem_cons.2 ⟨rfl, numeral.2⟩⟩

end IsNumeral

/-- A point and digits, as they stand behind other digits. -/
lemma IsDigits.isNumeral_fraction {whole part : List Char} (digits : IsDigits whole)
    (digits' : IsDigits part) : IsNumeral (whole ++ '.' :: part) :=
  digits.isNumeral.append (List.forall_mem_cons.2 ⟨rfl, digits'.isNumeral.2⟩)

lemma isNumeral_scientific (digits : IsDigits ds) (k : Int) :
    IsNumeral (Binary64.scientific ds k) := by
  have exponent : ∀ c ∈ 'e' :: (if k < 0 then '-' else '+') :: Nat.toDigits 10 k.natAbs,
      Json.isSpace c = false := by
    refine List.forall_mem_cons.2 ⟨rfl, List.forall_mem_cons.2 ⟨?_, ?_⟩⟩
    · split <;> rfl
    · exact (isDigits_toDigits k.natAbs).isNumeral.2
  match ds, digits with
  | [d], digits => exact digits.isNumeral.append exponent
  | d :: d' :: rest, digits =>
    obtain ⟨first, others⟩ := List.forall_mem_cons.1 digits.digits
    have whole : IsDigits [d] := ⟨List.cons_ne_nil _ _, List.forall_mem_singleton.2 first⟩
    have part : IsDigits (d' :: rest) := ⟨List.cons_ne_nil _ _, others⟩
    exact (whole.isNumeral_fraction part).append exponent

lemma isNumeral_magnitudeText (n : Nat) : IsNumeral (Binary64.magnitudeText n) := by
  rw [Binary64.magnitudeText]
  split
  · exact isDigits_zero.isNumeral_fraction isDigits_zero
  obtain ⟨s, e⟩ := Binary64.shortest n
  dsimp only
  split
  · obtain ⟨whole, part, -, split, digits, digits', -⟩ := Binary64.exists_positional s e
    rw [sub_add_cancel, split]
    exact digits.isNumeral_fraction digits'
  · exact isNumeral_scientific (isDigits_toDigits s) _

/-- The text of a number is that of a numeral. -/
theorem Number.isNumeral_text (n : Number) : IsNumeral n.text.toList := by
  cases n with
  | int n isWord =>
    rw [text, Text.toList_ofInt]
    split
    · exact (isDigits_toDigits n.natAbs).isNumeral.minus
    · exact (isDigits_toDigits n.natAbs).isNumeral
  | float x =>
    rw [text, Binary64.text, String.toList_ofList]
    split
    · exact (isNumeral_magnitudeText x.units).minus
    · exact isNumeral_magnitudeText x.units

end Characters

end Reflex
