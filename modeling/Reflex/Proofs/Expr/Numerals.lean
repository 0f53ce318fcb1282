import Reflex.Proofs.Binary64.Shortest
import Reflex.Proofs.Expr.Paths
import Reflex.Expr.Coercion

/-!
# The texts of numbers as expressions

The text of a number is an expression whose value is that number, unless the text has an exponent:
the language has no exponents, so that the `e` is taken for a name that nothing leads to.

* `Number.IsPlain` are the numbers without an exponent: all integers, and of the others zero and
  those from `10 ^ -5` up to `10 ^ 16`.
* `Binary64.exists_positional` says what digits stand for that are written positionally, and
  `tokenText_magnitudeText` which number is cut from the text of a magnitude.
* `Number.exists_numeral` is about the text of a plain number, and `Expr.eval_numeral` about the
  value of such a text.
* `Number.exists_parse_text_iff` says which texts of numbers are expressions.
-/

namespace Reflex

open Grammar

/-! ## Digits -/

section Digits

variable {c : Char} {cs ds part whole : List Char} {n : Nat}

/-- Whether a text consists of digits, of which there is at least one. -/
structure IsDigits (cs : List Char) : Prop where
  nonempty : cs ≠ []
  digits : ∀ c ∈ cs, c.isDigit

lemma isDigits_toDigits (n : Nat) : IsDigits (Nat.toDigits 10 n) :=
  ⟨Nat.toDigits_ne_nil, fun _ mem => Nat.isDigit_of_mem_toDigits (by decide) (by decide) mem⟩

lemma isDigits_zero : IsDigits ['0'] :=
  ⟨by simp, List.forall_mem_singleton.2 rfl⟩

namespace IsDigits

lemma append (h : IsDigits cs) (more : ∀ c ∈ ds, c.isDigit) : IsDigits (cs ++ ds) :=
  ⟨by simp [h.nonempty], List.forall_mem_append.2 ⟨h.digits, more⟩⟩

lemma zeros_append (h : IsDigits cs) (n : Nat) : IsDigits (List.replicate n '0' ++ cs) :=
  ⟨by simp [h.nonempty], List.forall_mem_append.2
    ⟨fun c mem => by rw [List.eq_of_mem_replicate mem]; rfl, h.digits⟩⟩

/-- Digits are the numeral of an integer. -/
lemma tokenText (h : IsDigits cs) :
    TokenText (.number (.ofDecimal false (Nat.ofDigitChars 10 cs 0) 0)) cs := by
  obtain ⟨c, cs, rfl⟩ := List.exists_cons_of_ne_nil h.nonempty
  obtain ⟨digit, more⟩ := List.forall_mem_cons.1 h.digits
  have taken : cs.takeWhile Char.isDigit = cs := List.takeWhile_eq_self_iff.2 more
  have left : cs.dropWhile Char.isDigit = [] := List.dropWhile_eq_nil_iff.2 more
  refine .number digit ((ofSource_eq_number_iff digit).2 ⟨?_, ?_⟩)
  · rw [kind_lexNumber, taken, left, splitFraction]
    · simp
    · simp
  · rw [rest_lexNumber, left]
    rfl

/-- Digits with a point among them are the numeral of a fraction. -/
lemma tokenText_fraction (h : IsDigits whole) (h' : IsDigits part) :
    TokenText (.number (.ofDecimal false (Nat.ofDigitChars 10 (whole ++ part) 0) (-part.length)))
      (whole ++ '.' :: part) := by
  obtain ⟨c, cs, rfl⟩ := List.exists_cons_of_ne_nil h.nonempty
  obtain ⟨digit, more⟩ := List.forall_mem_cons.1 h.digits
  obtain ⟨taken, left⟩ : (cs ++ '.' :: part).takeWhile Char.isDigit = cs ∧
      (cs ++ '.' :: part).dropWhile Char.isDigit = '.' :: part :=
    takeWhile_run more (by rintro c ⟨⟩; rfl)
  have taken' : part.takeWhile Char.isDigit = part := List.takeWhile_eq_self_iff.2 h'.digits
  have left' : part.dropWhile Char.isDigit = [] := List.dropWhile_eq_nil_iff.2 h'.digits
  have fraction : (splitFraction ('.' :: part)).1 = (part, '.' :: part, []) := by
    rw [splitFraction_point, taken', left', if_neg (by simpa using h'.nonempty)]
  refine @TokenText.number _ c (cs ++ '.' :: part) digit ((ofSource_eq_number_iff digit).2 ⟨?_, ?_⟩)
  · rw [kind_lexNumber, taken, left, fraction]
    rfl
  · rw [rest_lexNumber, left, fraction]

end IsDigits

end Digits

/-! ## Magnitudes -/

namespace Binary64

variable {n : Nat}

/-- Digits that are written positionally are those of the same number, with zeros behind them at
most, and some of them stand behind the point. -/
lemma exists_positional (s : Nat) (e : Int) :
    ∃ (whole part : List Char) (j : Nat),
      positional (Nat.toDigits 10 s) (e + (Nat.toDigits 10 s).length) = whole ++ '.' :: part ∧
      IsDigits whole ∧ IsDigits part ∧
      Nat.ofDigitChars 10 (whole ++ part) 0 = s * 10 ^ j ∧ -(part.length : Int) = e - j ∧
      (j = 0 ∨ part.length = 1) := by
  have digits := isDigits_toDigits s
  have value : Nat.ofDigitChars 10 (Nat.toDigits 10 s) 0 = s :=
    Nat.ofDigitChars_toDigits (by decide) (by decide)
  generalize Nat.toDigits 10 s = ds at *
  by_cases before : e + ds.length ≤ 0
  · refine ⟨['0'], List.replicate (e + ds.length).natAbs '0' ++ ds, 0, if_pos before, isDigits_zero,
      digits.zeros_append _, ?_, ?_, ?_⟩
    · simpa [Nat.ofDigitChars_cons, Nat.ofDigitChars_append, Nat.ofDigitChars_replicate_zero]
        using value
    · rw [List.length_append, List.length_replicate]
      omega
    · exact .inl rfl
  obtain ⟨n, point⟩ : ∃ n : Nat, e + ds.length = n := Int.eq_ofNat_of_zero_le (by omega)
  rw [positional, if_neg before, point, Int.toNat_natCast]
  dsimp only
  rcases Nat.lt_or_ge n ds.length with inside | behind
  · refine ⟨ds.take n, ds.drop n, 0, ?_, ⟨?_, ?_⟩, ⟨?_, ?_⟩, ?_, ?_, ?_⟩
    · simp [Nat.sub_eq_zero_of_le inside.le, inside]
    · rw [ne_eq, List.take_eq_nil_iff, not_or]
      exact ⟨by omega, digits.nonempty⟩
    · exact fun c mem => digits.digits c (List.mem_of_mem_take mem)
    · simpa using inside
    · exact fun c mem => digits.digits c (List.mem_of_mem_drop mem)
    · rw [List.take_append_drop, value, Nat.pow_zero, Nat.mul_one]
    · rw [List.length_drop]
      omega
    · exact .inl rfl
  · refine ⟨ds ++ List.replicate (n - ds.length) '0', ['0'], n - ds.length + 1, ?_,
      digits.append fun c mem => ?_, isDigits_zero, ?_, ?_, ?_⟩
    · simp [List.take_of_length_le behind, behind]
    · rw [List.eq_of_mem_replicate mem]
      rfl
    · rw [List.append_assoc, ← List.replicate_succ', Nat.ofDigitChars_append, value,
        Nat.ofDigitChars_replicate_zero, Nat.mul_comm]
    · rw [List.length_singleton]
      omega
    · exact .inr rfl

/-- Whether a magnitude of `n` units is written without an exponent: it is zero, or between the
magnitudes that are nearest to `10 ^ -5` and to `10 ^ 16`. -/
def IsPositional (n : Nat) : Prop :=
  n = 0 ∨ (Decimal.mk 1 (-5)).rounded ≤ n ∧ n < (Decimal.mk 1 16).rounded

instance (n : Nat) : Decidable (IsPositional n) :=
  inferInstanceAs (Decidable (_ ∨ _ ∧ _))

/-- The magnitudes whose decimals begin behind the fifth digit after the point. -/
lemma length_shortest_le_neg_five_iff (h : Representable n) (pos : 0 < n) {s : Nat} {e : Int}
    (found : shortest n = ⟨s, e⟩) :
    e + (Nat.toDigits 10 s).length ≤ -5 ↔ n < (Decimal.mk 1 (-5)).rounded :=
  length_shortest_le_iff h pos found (by decide +kernel) (by decide +kernel)

lemma magnitudeText_eq (h : Representable n) (pos : 0 < n) {s : Nat} {e : Int}
    (found : shortest n = ⟨s, e⟩) : magnitudeText n =
      if IsPositional n then positional (Nat.toDigits 10 s) (e + (Nat.toDigits 10 s).length)
      else scientific (Nat.toDigits 10 s) (e + (Nat.toDigits 10 s).length - 1) := by
  have lower := length_shortest_le_neg_five_iff h pos found
  have upper := length_shortest_le_iff (j := 16) h pos found (by decide +kernel) (by decide +kernel)
  have range : (-5 ≤ e + (Nat.toDigits 10 s).length - 1 && e + (Nat.toDigits 10 s).length - 1 ≤ 15)
      = true ↔ IsPositional n := by
    simp only [Bool.and_eq_true, decide_eq_true_eq, IsPositional, ← Nat.not_lt (a := n), ← lower,
      ← upper]
    omega
  rw [magnitudeText, if_neg pos.ne', found]
  dsimp only
  rw [sub_add_cancel]
  exact if_congr range rfl rfl

/-- An exponent is cut into a name, a sign and a number. -/
lemma exists_laid_exponent (k : Int) : ∃ y,
    Laid [.ident "e", if k < 0 then .minus else .plus, .number y]
      ('e' :: (if k < 0 then '-' else '+') :: Nat.toDigits 10 k.natAbs) := by
  have letter : TokenText (.ident "e") ['e'] := .ident rfl nofun
  obtain ⟨y, digits⟩ : ∃ y, Laid [.number y] ([] ++ (Nat.toDigits 10 k.natAbs ++ [])) :=
    ⟨_, .cons nofun (isDigits_toDigits k.natAbs).tokenText nofun (.nil nofun)⟩
  rw [List.nil_append, List.append_nil] at digits
  have laid {sign : TokenKind} {c : Char} (written : TokenText sign [c]) (other : ¬ sign.isWord)
      (apart : Text.isName c = false) :
      Laid [.ident "e", sign, .number y] ('e' :: c :: Nat.toDigits 10 k.natAbs) := by
    have signed : Laid [sign, .number y] ([] ++ ([c] ++ Nat.toDigits 10 k.natAbs)) :=
      .cons nofun written (fun isWord => absurd isWord other) digits
    have whole : Laid [.ident "e", sign, .number y]
        ([] ++ (['e'] ++ c :: Nat.toDigits 10 k.natAbs)) :=
      .cons nofun letter (by rintro - c ⟨⟩; exact apart) signed
    exact whole
  refine ⟨y, ?_⟩
  split
  · exact laid (.sign (by simp [signs])) nofun rfl
  · exact laid (.sign (by simp [signs])) nofun rfl

/-- In front of an exponent stands a numeral. -/
lemma exists_scientific_split {ds : List Char} (digits : IsDigits ds) (k : Int) :
    ∃ (x : Extended) (mantissa : List Char), TokenText (.number x) mantissa ∧
      scientific ds k =
        mantissa ++ 'e' :: (if k < 0 then '-' else '+') :: Nat.toDigits 10 k.natAbs := by
  match ds, digits with
  | [d], digits => exact ⟨_, [d], digits.tokenText, rfl⟩
  | d :: d' :: rest, digits =>
    obtain ⟨first, others⟩ := List.forall_mem_cons.1 digits.digits
    have whole : IsDigits [d] := ⟨List.cons_ne_nil _ _, List.forall_mem_singleton.2 first⟩
    have part : IsDigits (d' :: rest) := ⟨List.cons_ne_nil _ _, others⟩
    exact ⟨_, d :: '.' :: d' :: rest, whole.tokenText_fraction part, rfl⟩

/-- A magnitude that is written with an exponent has digits in front of it. -/
lemma exists_scientific (h : Representable n) (exponent : ¬ IsPositional n) :
    ∃ s k, magnitudeText n = scientific (Nat.toDigits 10 s) k := by
  have pos : 0 < n := Nat.pos_of_ne_zero fun none => exponent (.inl none)
  obtain ⟨⟨s, e⟩, found⟩ : ∃ d, shortest n = d := ⟨_, rfl⟩
  exact ⟨s, _, by rw [magnitudeText_eq h pos found, if_neg exponent]⟩

/-- From the text of a magnitude without an exponent that magnitude is cut. -/
lemma tokenText_magnitudeText (h : Representable n) (plain : IsPositional n) :
    TokenText (.number (.finite ⟨false, n, h⟩)) (magnitudeText n) := by
  rcases Nat.eq_zero_or_pos n with rfl | pos
  · exact isDigits_zero.tokenText_fraction isDigits_zero
  obtain ⟨⟨s, e⟩, found⟩ : ∃ d, shortest n = d := ⟨_, rfl⟩
  have rounded : (Decimal.mk s e).rounded = n := found ▸ rounded_shortest h pos
  have large : ¬ e + (Nat.toDigits 10 s).length ≤ -5 := by
    rw [length_shortest_le_neg_five_iff h pos found]
    rcases plain with none | ⟨lower, -⟩
    · exact absurd none pos.ne'
    · exact Nat.not_lt.2 lower
  obtain ⟨whole, part, j, split, digits, digits', value, exponent, short⟩ := exists_positional s e
  have behind : 0 < part.length := List.length_pos_iff.2 digits'.nonempty
  have shifted := Decimal.rounded_shift s j e
  rw [rounded, ← exponent, ← value] at shifted
  have read := digits.tokenText_fraction digits'
  rw [Extended.ofDecimal_of_rounded h pos shifted (by omega) ?_, ← split] at read
  · rw [magnitudeText_eq h pos found, if_pos plain]
    exact read
  · rcases short with rfl | single
    · rw [value, Nat.pow_zero, Nat.mul_one]
      omega
    · omega

end Binary64

/-! ## Numbers -/

namespace Extended

open Binary64

variable {m : Nat}

lemma ofDecimal_integer (m : Nat) : ofDecimal false m 0 = ofMagnitude false m := by
  rw [ofMagnitude, ofDecimal]
  by_cases none : m = 0
  · subst none
    rw [if_pos rfl, Nat.zero_mul, ofRatio_of_representable false representable_zero]
    rfl
  · rw [if_neg none, if_pos (Int.le_refl 0), if_neg (by decide : ¬ (0 : Int) > 400), Int.toNat_zero,
      Nat.pow_eq, Nat.pow_zero, Nat.mul_one]

/-- The integers of 64 bits are in range. -/
lemma exists_ofMagnitude (le : m ≤ 2 ^ 64) : ∃ units, ∃ h : Representable units,
    ∀ negative, ofMagnitude negative m = .finite ⟨negative, units, h⟩ := by
  have inRange : (m * one).log2 < 2097 := by
    rcases Nat.eq_zero_or_pos m with rfl | pos
    · rw [Nat.zero_mul]
      decide
    · have digits := log2_mul_one_lt pos (Nat.lt_of_le_of_lt le (by decide : 2 ^ 64 < 2 ^ 65))
      omega
  have h := representable_roundUnits inRange
  refine ⟨_, h, fun negative => ?_⟩
  rw [ofMagnitude, ofRatio, dif_pos h]

end Extended

namespace Number

variable {num : Number}

/-- Whether the text of a number has no exponent. -/
def IsPlain : Number → Prop
  | int _ _ => True
  | float x => Binary64.IsPositional x.units

/-- The text of a number without an exponent is the numeral of a number that is not negative, with a
minus sign in front of it if need be. -/
lemma exists_numeral (plain : num.IsPlain) : ∃ (negative : Bool) (digits : List Char)
    (x y : Binary64), num.text.toList = (if negative then ['-'] else []) ++ digits ∧
      TokenText (.number (.finite x)) digits ∧ num.toExtended = .finite y ∧
      y.scaled = if negative then -x.scaled else x.scaled := by
  cases num with
  | int n isWord =>
    obtain ⟨units, h, read⟩ : ∃ units, ∃ h : Representable units,
        ∀ negative, Extended.ofMagnitude negative n.natAbs = .finite ⟨negative, units, h⟩ :=
      Extended.exists_ofMagnitude (by
        obtain ⟨lower, upper⟩ := isWord
        omega)
    have numeral := (isDigits_toDigits n.natAbs).tokenText
    rw [Nat.ofDigitChars_toDigits (by decide) (by decide), Extended.ofDecimal_integer, read]
      at numeral
    refine ⟨n < 0, _, _, _, ?_, numeral, read _, ?_⟩
    · rw [text, Text.ofInt, Text.ofNat]
      by_cases negative : n < 0
      · simp [negative]
      · simp [negative]
    · by_cases negative : n < 0
      · simp [negative, Binary64.scaled]
      · simp [negative, Binary64.scaled]
  | float x =>
    obtain ⟨negative, units, h⟩ := x
    rw [text, Binary64.text, String.toList_ofList]
    refine ⟨negative, _, _, _, rfl, Binary64.tokenText_magnitudeText h plain, rfl, ?_⟩
    cases negative <;> rfl

/-- The text of any other number has an exponent. -/
lemma exists_scientific (exponent : ¬ num.IsPlain) : ∃ (negative : Bool) (n : Nat) (k : Int),
    num.text.toList =
      (if negative then ['-'] else []) ++ Binary64.scientific (Nat.toDigits 10 n) k := by
  cases num with
  | int n isWord => exact absurd trivial exponent
  | float x =>
    obtain ⟨n, k, layout⟩ := Binary64.exists_scientific x.representable exponent
    exact ⟨x.negative, n, k, by rw [text, Binary64.text, String.toList_ofList, layout]⟩

end Number

/-! ## The values of numerals -/

namespace Binary64

variable {n : Nat}

lemma scaled_mk {negative : Bool} (h : Representable n) :
    scaled ⟨negative, n, h⟩ = if negative then -(n : Int) else n :=
  rfl

/-- The integer that a whole number of units stands for. -/
lemma truncate_of_units {x : Binary64} (units : x.units = n * one) :
    x.truncate = if x.negative then -(n : Int) else n := by
  rw [truncate, scaled, units]
  split
  · rw [Int.neg_tdiv, ← Int.ofNat_tdiv, Nat.mul_div_cancel n one_pos]
  · rw [← Int.ofNat_tdiv, Nat.mul_div_cancel n one_pos]

end Binary64

namespace Value

/-- A number that was computed is kept as a number of the same value. -/
lemma exists_number_ofExtended (x : Binary64) : ∃ (m : Number) (y : Binary64),
    ofExtended (.finite x) = .number m ∧ m.toExtended = .finite y ∧ y.scaled = x.scaled := by
  rw [ofExtended]
  split
  · rename_i small
    simp only [Binary64.isInteger, Bool.and_eq_true, beq_iff_eq, decide_eq_true_eq] at small
    obtain ⟨integral, lt⟩ := small
    obtain ⟨u, units⟩ := Nat.dvd_of_mod_eq_zero integral
    rw [Nat.mul_comm] at units
    have le : u ≤ 2 ^ 53 := by
      rw [units] at lt
      have := Nat.lt_of_mul_lt_mul_right lt
      omega
    have truncate : x.truncate = if x.negative then -(u : Int) else u :=
      Binary64.truncate_of_units units
    split
    · refine ⟨_, ⟨x.truncate < 0, u * Binary64.one, Binary64.representable_of_le le⟩, rfl, ?_, ?_⟩
      · have magnitude : x.truncate.natAbs = u := by
          rw [truncate]
          split <;> simp
        rw [Number.toExtended, Extended.ofInt, magnitude,
          Extended.ofRatio_of_representable _ (Binary64.representable_of_le le)]
      · rw [Binary64.scaled_mk, Binary64.scaled, truncate, units]
        generalize Binary64.one = unit
        cases x.negative with
        | false => simp
        | true =>
          rcases Nat.eq_zero_or_pos u with rfl | pos
          · simp
          · simp [pos]
    · exact ⟨_, x, rfl, rfl, rfl⟩
  · exact ⟨_, x, rfl, rfl, rfl⟩

end Value

namespace Expr

variable {negative : Bool} {x : Extended} {digits : List Char} {source : String}

/-- The tree of a numeral, with a minus sign in front of it or not. -/
def numeral (negative : Bool) (x : Extended) : Expr :=
  if negative then .unary .neg (.literal (.ofExtended x)) else .literal (.ofExtended x)

/-- The tokens of a numeral, with a minus sign in front of it or not. -/
def numeralTokens (negative : Bool) (x : Extended) : List TokenKind :=
  (if negative then [.minus] else []) ++ [.number x]

lemma written_numeral (negative : Bool) (x : Extended) :
    Written (.atLeast 0) (numeral negative x) (numeralTokens negative x) := by
  cases negative with
  | false => exact .tight (Nat.zero_le _) (.number x)
  | true =>
    exact .tight (Nat.zero_le _) (.unary .minus (.tight (Nat.le_of_ble_eq_true rfl) (.number x)))

lemma levels_numeral (negative : Bool) (x : Extended) :
    (numeral negative x).levels 0 ≤ maxNesting := by
  cases negative with
  | false => exact Nat.le_of_ble_eq_true rfl
  | true => exact Nat.le_of_ble_eq_true rfl

/-- A numeral is laid out in front of other tokens. -/
lemma laid_numeral (written : TokenText (.number x) digits) {ks : List TokenKind} {rest : List Char}
    (more : Laid ks rest) : Laid (numeralTokens negative x ++ ks)
      ((if negative then ['-'] else []) ++ (digits ++ rest)) := by
  have numeral : Laid (.number x :: ks) ([] ++ (digits ++ rest)) := .cons nofun written nofun more
  cases negative with
  | false => exact numeral
  | true =>
    have sign : TokenText .minus ['-'] := .sign (by simp [signs])
    have signed : Laid (.minus :: .number x :: ks) ([] ++ (['-'] ++ (digits ++ rest))) :=
      .cons nofun sign nofun numeral
    exact signed

/-- A numeral is parsed, with the sign in front of it. -/
lemma parse_numeral (written : TokenText (.number x) digits)
    (text : source.toList = (if negative then ['-'] else []) ++ digits) :
    Expr.parse source = .ok (numeral negative x) := by
  have ended : Laid [] [] := .nil nofun
  have laid : Laid (numeralTokens negative x ++ []) _ := laid_numeral written ended
  rw [List.append_nil, List.append_nil, ← text] at laid
  exact (parse_prints.1 _ _ ⟨_, written_numeral negative x, laid⟩).2 (levels_numeral negative x)

/-- A numeral with a name behind it is not parsed. -/
lemma not_parse_of_laid {ks : List TokenKind} {e : Expr}
    (laid : Laid (numeralTokens negative x ++ .ident "e" :: ks) source.toList)
    (order : (.ident "e" :: ks).IsChain fun k k' => k.mayPrecede k') :
    Expr.parse source ≠ .ok e := by
  intro parsed
  have closes : Closes [⟨.ident "e", 0, []⟩] := by
    rintro t ⟨⟩
    refine ⟨nofun, nofun, nofun, fun op spells => ?_⟩
    generalize letter : TokenKind.ident "e" = k at spells
    cases spells <;> simp at letter
  have whole : (numeralTokens negative x ++ .ident "e" :: ks).IsChain
      fun k k' => k.mayPrecede k' := by
    cases negative with
    | false => exact .cons_cons rfl order
    | true => exact .cons_cons rfl (.cons_cons rfl order)
  have unpointed : false → ∀ k ∈ (numeralTokens negative x ++ .ident "e" :: ks).head?,
      ∀ x, k ≠ .number x := nofun
  obtain ⟨tokens, tokenizes, kinds⟩ := laid.cut whole 0 unpointed
  have derives := ((parse_eq_ok_iff_derives tokenizes).1 e).1 parsed
  rw [kinds] at derives
  exact ((written_numeral negative x).derives_iff.2 (levels_numeral negative x)).not_derives_append
    closes derives

/-- The value of a numeral is its number, whatever can be seen. -/
lemma eval_numeral (negative : Bool) (x : Binary64) : ∃ (m : Number) (y : Binary64),
    (∀ scope, ((numeral negative (.finite x)).eval scope).collected = (.ok (.number m), [])) ∧
      m.toExtended = .finite y ∧ y.scaled = if negative then -x.scaled else x.scaled := by
  obtain ⟨m, y, literal, read, value⟩ := Value.exists_number_ofExtended x
  cases negative with
  | false =>
    refine ⟨m, y, fun scope => ?_, read, value⟩
    rw [← literal]
    rfl
  | true =>
    obtain ⟨m', y', literal', read', value'⟩ :=
      Value.exists_number_ofExtended { y with negative := !y.negative }
    have negated : Value.unary .neg (.number m) = .ok (.number m') := by
      rw [Value.unary, Value.toNumber, read, ← literal']
      rfl
    refine ⟨m', y', fun scope => ?_, read', ?_⟩
    · have evaluated : ((numeral true (.finite x)).eval scope).collected =
          (Value.unary .neg (.ofExtended (.finite x)), []) := rfl
      rw [evaluated, literal, negated]
    · rw [value', if_pos rfl, ← value, Binary64.scaled, Binary64.scaled]
      cases y.negative <;> simp

end Expr

/-- The text of a number is an expression exactly when it has no exponent. -/
theorem Number.exists_parse_text_iff (num : Number) :
    (∃ e, Expr.parse num.text = .ok e) ↔ num.IsPlain := by
  constructor
  · rintro ⟨e, parsed⟩
    by_contra exponent
    obtain ⟨negative, n, k, text⟩ := exists_scientific exponent
    obtain ⟨x, mantissa, numeral, split⟩ :=
      Binary64.exists_scientific_split (isDigits_toDigits n) k
    obtain ⟨y, laid⟩ := Binary64.exists_laid_exponent k
    have whole : Laid (Expr.numeralTokens negative x ++ _) _ := Expr.laid_numeral numeral laid
    rw [← split, ← text] at whole
    refine Expr.not_parse_of_laid whole ?_ parsed
    split <;> exact .cons_cons rfl (.cons_cons rfl (.singleton _))
  · intro plain
    obtain ⟨negative, digits, x, -, text, numeral, -⟩ := exists_numeral plain
    exact ⟨_, Expr.parse_numeral numeral text⟩

end Reflex
