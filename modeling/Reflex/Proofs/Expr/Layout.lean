import Mathlib.Data.Bool.Basic
import Mathlib.Data.List.Chain
import Mathlib.Data.List.TakeWhile
import Reflex.Proofs.Expr.Writing
import Reflex.Proofs.Result
import Reflex.Proofs.Text.Characters

/-!
# Texts of tokens

The tokens that a tree is written with may be set down in many ways: an operator may have several
signs, a string may stand in either quotes and have any of its characters escaped, and there may be
white space before and after every token.  White space is asked for only where a word would go on
with what follows it.  From every such text the lexer cuts the tokens again, provided that they
stand in an order in which they do in trees.

* `TokenText` relates a token to the texts that it may be written as.
* `Laid` relates tokens to the texts in which they are set down one after the other.
* `TokenKind.mayPrecede` says which tokens may stand one after the other.
* `Laid.cut` says that the lexer cuts the tokens from the text again.
-/

namespace Reflex

/-! ## Texts -/

/-- The texts between quotes that stand for the characters of a string.  A character may stand for
itself, unless it is the quote or a backslash, or be escaped. -/
inductive Escaped (quote : Char) : (value text : List Char) → Prop
  | nil : Escaped quote [] []
  | plain {c : Char} {value text : List Char} (other : c ≠ quote) (unmarked : c ≠ '\x5c')
      (more : Escaped quote value text) : Escaped quote (c :: value) (c :: text)
  | escape (c : Char) {value text : List Char} (more : Escaped quote value text) :
      Escaped quote (unescape c :: value) ('\x5c' :: c :: text)

/-- The tokens that are no literals or words, with the signs that they may be written as. -/
def signs : List (TokenKind × List Char) := [
  (.leftParen, ['(']), (.rightParen, [')']), (.comma, [',']), (.dot, ['.']), (.question, ['?']),
  (.colon, [':']), (.plus, ['+']), (.minus, ['-']), (.star, ['*']), (.slash, ['/']),
  (.percent, ['%']), (.equal, ['=', '=']), (.equal, ['=', '=', '=']), (.notEqual, ['!', '=']),
  (.notEqual, ['!', '=', '=']), (.less, ['<']), (.lessEqual, ['<', '=']), (.greater, ['>']),
  (.greaterEqual, ['>', '=']), (.and, ['&', '&']), (.or, ['|', '|']), (.not, ['!'])]

/-- The texts that a token may be written as.  A numeral stands for the number that its text is cut
into alone. -/
inductive TokenText : TokenKind → List Char → Prop
  | number {x : Extended} {c : Char} {cs : List Char} (digit : c.isDigit)
      (alone : ∃ stop, Tokens.ofSource (String.ofList (c :: cs)) =
        .ok ⟨[⟨.number x, 0, c :: cs⟩], stop⟩) : TokenText (.number x) (c :: cs)
  | string {s : String} {quote : Char} {text : List Char}
      (isQuote : quote = '\x22' ∨ quote = '\x27') (escaped : Escaped quote s.toList text) :
      TokenText (.string s) (quote :: (text ++ [quote]))
  | state {cs : List Char} (nonempty : cs ≠ []) (name : ∀ c ∈ cs, Text.isName c) :
      TokenText (.state ("$" ++ String.ofList cs)) ('$' :: cs)
  | field {cs : List Char} (nonempty : cs ≠ []) (name : ∀ c ∈ cs, Text.isName c) :
      TokenText (.field (String.ofList cs)) ('#' :: cs)
  | ident {c : Char} {cs : List Char} (start : Text.isNameStart c)
      (name : ∀ c ∈ cs, Text.isName c) : TokenText (.ident (String.ofList (c :: cs))) (c :: cs)
  | sign {k : TokenKind} {text : List Char} (mem : (k, text) ∈ signs) : TokenText k text

/-- Whether a token ends in a name. -/
def TokenKind.isWord : TokenKind → Bool
  | .state _ | .field _ | .ident _ => true
  | _ => false

/-- The texts in which tokens are set down.  There may be white space before every token and in the
end, and there has to be some between a word and what would go on with it. -/
inductive Laid : List TokenKind → List Char → Prop
  | nil {blanks : List Char} (blank : ∀ c ∈ blanks, Text.isBlank c) : Laid [] blanks
  | cons {k : TokenKind} {ks : List TokenKind} {blanks text rest : List Char}
      (blank : ∀ c ∈ blanks, Text.isBlank c) (written : TokenText k text)
      (apart : k.isWord → ∀ c ∈ rest.head?, Text.isName c = false) (more : Laid ks rest) :
      Laid (k :: ks) (blanks ++ (text ++ rest))

/-! ## The token at the front of a text -/

/-- Whether nothing that follows a token would be taken for part of it. -/
def TokenKind.EndsBefore (rest : List Char) : TokenKind → Prop
  | .number _ => (∀ c ∈ rest.head?, c.isDigit = false) ∧
      ∀ c cs, rest = '.' :: c :: cs → c.isDigit = false
  | .state _ | .field _ | .ident _ => ∀ c ∈ rest.head?, Text.isName c = false
  | .not | .less | .greater | .equal | .notEqual => rest.head? ≠ some '='
  | _ => True

variable {k : TokenKind} {ks : List TokenKind} {c : Char} {cs rest text value : List Char}

lemma takeWhile_append_of_stop {p : Char → Bool} (stop : ∀ c ∈ rest.head?, p c = false) :
    (cs ++ rest).takeWhile p = cs.takeWhile p := by
  induction cs with
  | nil =>
    cases rest with
    | nil => rfl
    | cons c rest => exact List.takeWhile_cons_of_neg (by simpa using stop c rfl)
  | cons c cs ih => rw [List.cons_append, List.takeWhile_cons, List.takeWhile_cons, ih]

lemma dropWhile_append_of_stop {p : Char → Bool} (stop : ∀ c ∈ rest.head?, p c = false) :
    (cs ++ rest).dropWhile p = cs.dropWhile p ++ rest := by
  induction cs with
  | nil =>
    cases rest with
    | nil => rfl
    | cons c rest => exact List.dropWhile_cons_of_neg (by simpa using stop c rfl)
  | cons c cs ih =>
    rw [List.cons_append, List.dropWhile_cons, List.dropWhile_cons, ih]
    split <;> rfl

/-- A run of characters of a class is cut off up to its end. -/
lemma takeWhile_run {p : Char → Bool} (run : ∀ c ∈ cs, p c) (stop : ∀ c ∈ rest.head?, p c = false) :
    (cs ++ rest).takeWhile p = cs ∧ (cs ++ rest).dropWhile p = rest := by
  rw [takeWhile_append_of_stop stop, dropWhile_append_of_stop stop,
    List.takeWhile_eq_self_iff.2 run, List.dropWhile_eq_nil_iff.2 run]
  exact ⟨rfl, rfl⟩

lemma splitFraction_point (cs : List Char) : (splitFraction ('.' :: cs)).1 =
    if (cs.takeWhile Char.isDigit).isEmpty then ([], [], '.' :: cs)
    else (cs.takeWhile Char.isDigit, '.' :: cs.takeWhile Char.isDigit,
      cs.dropWhile Char.isDigit) := by
  rw [splitFraction]
  split <;> rfl

lemma splitFraction_of_ne (other : c ≠ '.') : (splitFraction (c :: cs)).1 = ([], [], c :: cs) := by
  rw [splitFraction]
  intro cs' same
  exact other (List.cons.inj same).1

/-- Where no digit follows a point there is no fraction. -/
lemma splitFraction_of_pointless (pointless : ∀ c cs, rest = '.' :: c :: cs → c.isDigit = false) :
    (splitFraction rest).1 = ([], [], rest) := by
  cases rest with
  | nil => rfl
  | cons c rest =>
    by_cases point : c = '.'
    · subst point
      rw [splitFraction_point, if_pos]
      cases rest with
      | nil => rfl
      | cons c rest => simp [pointless c rest rfl]
    · exact splitFraction_of_ne point

/-- The fraction of a number goes as far as it does alone. -/
lemma splitFraction_append {x : Extended} (ends : TokenKind.EndsBefore rest (.number x))
    (whole : (splitFraction cs).1.2.2 = []) :
    (splitFraction (cs ++ rest)).1.1 = (splitFraction cs).1.1 ∧
      (splitFraction (cs ++ rest)).1.2.2 = rest := by
  obtain ⟨stop, pointless⟩ := ends
  cases cs with
  | nil =>
    rw [List.nil_append, splitFraction_of_pointless pointless]
    exact ⟨rfl, rfl⟩
  | cons c cs =>
    by_cases point : c = '.'
    · subst point
      rw [splitFraction_point] at whole
      rw [List.cons_append, splitFraction_point, splitFraction_point,
        takeWhile_append_of_stop stop, dropWhile_append_of_stop stop]
      split at whole
      · cases whole
      · rename_i digits
        rw [if_neg digits, if_neg digits]
        exact ⟨rfl, congrArg (· ++ rest) whole⟩
    · rw [splitFraction_of_ne point] at whole
      cases whole

lemma kind_lexNumber (c : Char) (cs : List Char) : (lexNumber false c cs).kind =
    .number (Extended.ofDecimal false (Nat.ofDigitChars 10 (c :: (cs.takeWhile Char.isDigit ++
      (splitFraction (cs.dropWhile Char.isDigit)).1.1)) 0)
      (-((splitFraction (cs.dropWhile Char.isDigit)).1.1.length : Int))) := rfl

lemma rest_lexNumber (c : Char) (cs : List Char) : (lexNumber false c cs).rest =
    (splitFraction (cs.dropWhile Char.isDigit)).1.2.2 := rfl

/-- A numeral is cut off up to its end. -/
lemma lexNumber_append {x : Extended} (ends : TokenKind.EndsBefore rest (.number x))
    (kind : (lexNumber false c cs).kind = .number x) (whole : (lexNumber false c cs).rest = []) :
    (lexNumber false c (cs ++ rest)).kind = .number x ∧
      (lexNumber false c (cs ++ rest)).rest = rest := by
  have stop : ∀ c ∈ rest.head?, c.isDigit = false := ends.1
  rw [rest_lexNumber] at whole
  obtain ⟨fraction, after⟩ := splitFraction_append ends whole
  refine ⟨?_, ?_⟩
  · rw [kind_lexNumber, takeWhile_append_of_stop stop, dropWhile_append_of_stop stop, fraction,
      ← kind_lexNumber, kind]
  · rw [rest_lexNumber, dropWhile_append_of_stop stop, after]

/-- A numeral is a text that goes on with nothing but the digits of a number. -/
lemma ofSource_eq_number_iff {x : Extended} (digit : c.isDigit) :
    (∃ stop, Tokens.ofSource (String.ofList (c :: cs)) = .ok ⟨[⟨.number x, 0, c :: cs⟩], stop⟩) ↔
      (lexNumber false c cs).kind = .number x ∧ (lexNumber false c cs).rest = [] := by
  have whole := (lexNumber false c cs).text_append_rest
  simp only [Tokens.ofSource, String.toList_ofList, Tokens.cut,
    if_neg (not_isBlank_of_isDigit digit), lexeme, if_pos digit]
  constructor
  · rintro ⟨stop, alone⟩
    split at alone
    · cases alone
    · have token := (List.cons.inj (congrArg Tokens.list (Except.ok.inj alone))).1
      have text : (lexNumber false c cs).text = c :: cs := congrArg Token.text token
      rw [text, List.append_right_eq_self] at whole
      exact ⟨congrArg Token.kind token, whole⟩
  · rintro ⟨kind, rest⟩
    rw [rest, List.append_nil] at whole
    simp only [kind, rest, whole, Tokens.cut]
    exact ⟨_, rfl⟩

/-- A string is closed by its closing quote. -/
lemma closeString_escaped {quote : Char} (notMark : quote ≠ '\x5c')
    (escaped : Escaped quote value text) :
    (closeString quote (text ++ quote :: rest)).map Subtype.val =
      some (value, text ++ [quote], rest) := by
  induction escaped with
  | nil =>
    rw [List.nil_append]
    unfold closeString
    rw [if_pos (beq_self_eq_true quote)]
    rfl
  | plain other unmarked _ ih =>
    rw [List.cons_append]
    unfold closeString
    rw [if_neg (by simpa using other), if_neg (by simpa using unmarked)]
    obtain ⟨r, closed, value⟩ := Option.map_eq_some_iff.1 ih
    rw [closed, Option.map_some, Option.map_some]
    simp [value]
  | escape c _ ih =>
    rw [List.cons_append, List.cons_append]
    unfold closeString
    rw [if_neg (by simpa using notMark.symm), if_pos (beq_self_eq_true '\x5c')]
    obtain ⟨r, closed, value⟩ := Option.map_eq_some_iff.1 ih
    dsimp only
    rw [closed, Option.map_some, Option.map_some]
    simp [value]

/-- A sign is cut off, unless it would go on as another. -/
lemma lexSign_of_mem (mem : (k, c :: cs) ∈ signs) (ends : k.EndsBefore rest) :
    (lexSign c (cs ++ rest)).map (fun l => (l.kind, l.rest)) = .ok (k, rest) := by
  simp only [signs, List.mem_cons, Prod.mk.injEq, List.cons.injEq, List.not_mem_nil,
    or_false] at mem
  casesm* _ ∨ _, _ ∧ _ <;> subst_vars <;> try rfl
  -- What is left are the signs that an equals sign might follow.
  all_goals
    cases rest with
    | nil => rfl
    | cons d ds =>
      have other : d ≠ '=' := by simpa [TokenKind.EndsBefore] using ends
      unfold lexSign
      simp [other, Except.map, Lexeme.double, Lexeme.single]

/-- A name is cut off up to its end. -/
lemma word_append (kind : String → TokenKind) (name : ∀ c ∈ cs, Text.isName c)
    (stop : ∀ c ∈ rest.head?, Text.isName c = false) :
    (Lexeme.word kind c (cs ++ rest)).kind = kind (String.ofList cs) ∧
      (Lexeme.word kind c (cs ++ rest)).rest = rest := by
  obtain ⟨taken, dropped⟩ := takeWhile_run name stop
  exact ⟨congrArg (fun word => kind (String.ofList word)) taken, dropped⟩

lemma lexeme_state (nonempty : cs.takeWhile Text.isName ≠ []) (afterDot : Bool) :
    lexeme afterDot '$' cs = .ok (.word (fun name => .state ("$" ++ name)) '$' cs) :=
  if_neg nonempty

lemma lexeme_field (nonempty : cs.takeWhile Text.isName ≠ []) (afterDot : Bool) :
    lexeme afterDot '#' cs = .ok (.word .field '#' cs) :=
  if_neg nonempty

lemma lexeme_ident (start : Text.isNameStart c) (afterDot : Bool) (cs : List Char) :
    lexeme afterDot c cs = .ok (.word (fun name => .ident (c.toString ++ name)) c cs) := by
  have notQuote : ¬ (c == '\x22' || c == '\x27') := by
    simp only [Bool.or_eq_true, beq_iff_eq]
    rintro (rfl | rfl) <;> cases start
  have notSigil : ¬ (c == '$' || c == '#') := by
    simp only [Bool.or_eq_true, beq_iff_eq]
    rintro (rfl | rfl) <;> cases start
  rw [lexeme, isDigit_of_isNameStart start, if_neg Bool.false_ne_true, if_neg notQuote,
    if_neg notSigil, if_pos start]

lemma lexeme_string {quote : Char} {r : List Char × List Char × List Char} {whole}
    (isQuote : quote = '\x22' ∨ quote = '\x27') (closed : closeString quote cs = some ⟨r, whole⟩)
    (afterDot : Bool) : ∃ l, lexeme afterDot quote cs = .ok l ∧
      l.kind = .string (String.ofList r.1) ∧ l.rest = r.2.2 := by
  have notDigit : quote.isDigit = false := by rcases isQuote with rfl | rfl <;> rfl
  have quotes : quote == '\x22' || quote == '\x27' := by simpa using isQuote
  rw [lexeme, notDigit, if_neg Bool.false_ne_true, if_pos quotes, closed]
  exact ⟨_, rfl, rfl, rfl⟩

lemma lexeme_sign (mem : (k, c :: text) ∈ signs) (afterDot : Bool) (cs : List Char) :
    lexeme afterDot c cs = lexSign c cs := by
  simp only [signs, List.mem_cons, Prod.mk.injEq, List.cons.injEq, List.not_mem_nil,
    or_false] at mem
  casesm* _ ∨ _, _ ∧ _ <;> subst_vars <;> rfl

/-- A token is cut off the text that it is written as. -/
lemma lexeme_of_text (written : TokenText k (c :: cs)) (ends : k.EndsBefore rest) {afterDot : Bool}
    (unpointed : afterDot → ∀ x, k ≠ .number x) :
    ∃ l, lexeme afterDot c (cs ++ rest) = .ok l ∧ l.kind = k ∧ l.rest = rest := by
  cases written with
  | @number x _ _ digit alone =>
    obtain rfl : afterDot = false := by
      cases afterDot with
      | false => rfl
      | true => exact absurd rfl (unpointed rfl x)
    obtain ⟨kind, whole⟩ := (ofSource_eq_number_iff digit).1 alone
    rw [lexeme, if_pos digit]
    exact ⟨_, rfl, lexNumber_append ends kind whole⟩
  | @string s quote text isQuote escaped =>
    have notMark : c ≠ '\x5c' := by rcases isQuote with rfl | rfl <;> decide
    have closed : (closeString c (text ++ c :: rest)).map Subtype.val =
        some (s.toList, text ++ [c], rest) := closeString_escaped notMark escaped
    obtain ⟨⟨r, whole⟩, closed, rfl⟩ := Option.map_eq_some_iff.1 closed
    obtain ⟨l, cut, kind, after⟩ := lexeme_string isQuote closed afterDot
    rw [String.ofList_toList] at kind
    rw [List.append_assoc]
    exact ⟨l, cut, kind, after⟩
  | state nonempty name =>
    obtain ⟨taken, -⟩ := takeWhile_run name ends
    exact ⟨_, lexeme_state (taken.symm ▸ nonempty) afterDot, word_append _ name ends⟩
  | field nonempty name =>
    obtain ⟨taken, -⟩ := takeWhile_run name ends
    exact ⟨_, lexeme_field (taken.symm ▸ nonempty) afterDot, word_append _ name ends⟩
  | ident start name =>
    obtain ⟨kind, after⟩ := word_append (c := c) (fun name => .ident (c.toString ++ name)) name ends
    refine ⟨_, lexeme_ident start afterDot _, kind.trans ?_, after⟩
    rw [← List.singleton_append, String.ofList_append]
    rfl
  | sign mem =>
    rw [lexeme_sign mem]
    obtain ⟨l, cut, same⟩ := map_eq_ok_iff.1 (lexSign_of_mem mem ends)
    exact ⟨l, cut, congrArg Prod.fst same, congrArg Prod.snd same⟩

/-! ## The whole text -/

/-- Whether a token may stand before another in a tree that is written. -/
def TokenKind.mayPrecede : TokenKind → TokenKind → Bool
  | .dot, .ident _ => true
  | .dot, _ => false
  | .number _, .number _ => false
  | .not, .equal | .less, .equal | .greater, .equal | .equal, .equal | .notEqual, .equal => false
  | _, _ => true

namespace TokenText

/-- No text begins with white space. -/
lemma exists_cons (h : TokenText k text) : ∃ c cs, text = c :: cs ∧ ¬ Text.isBlank c := by
  cases h with
  | number digit => exact ⟨_, _, rfl, not_isBlank_of_isDigit digit⟩
  | string isQuote => exact ⟨_, _, rfl, by rcases isQuote with rfl | rfl <;> decide⟩
  | state => exact ⟨_, _, rfl, by decide⟩
  | field => exact ⟨_, _, rfl, by decide⟩
  | ident start => exact ⟨_, _, rfl, not_isBlank_of_isNameStart start⟩
  | sign mem =>
    have first : ∀ sign ∈ signs, ∃ c cs, sign.2 = c :: cs ∧ ¬ Text.isBlank c := by
      simp [signs, Text.isBlank]
    exact first _ mem

/-- What begins with a digit is a number. -/
lemma eq_number (h : TokenText k (c :: cs)) (digit : c.isDigit) : ∃ x, k = .number x := by
  cases h with
  | number => exact ⟨_, rfl⟩
  | string isQuote => rcases isQuote with rfl | rfl <;> cases digit
  | state => cases digit
  | field => cases digit
  | ident start =>
    rw [isDigit_of_isNameStart start] at digit
    cases digit
  | sign mem =>
    have none : ∀ sign ∈ signs, ∀ c ∈ sign.2.head?, c.isDigit = false := by
      simp [signs]
    rw [none _ mem c rfl] at digit
    cases digit

/-- What begins with an equals sign is a test for equality. -/
lemma eq_equal (h : TokenText k ('=' :: cs)) : k = .equal := by
  cases h with
  | number digit => cases digit
  | string isQuote => rcases isQuote with h | h <;> cases h
  | ident start => cases start
  | sign mem =>
    have only : ∀ sign ∈ signs, sign.2.head? = some '=' → sign.1 = .equal := by decide
    exact only _ mem rfl

/-- What begins with a point is one. -/
lemma eq_dot (h : TokenText k ('.' :: cs)) : k = .dot ∧ cs = [] := by
  cases h with
  | number digit => cases digit
  | string isQuote => rcases isQuote with h | h <;> cases h
  | ident start => cases start
  | sign mem =>
    have only : ∀ sign ∈ signs, sign.2.head? = some '.' → sign = (.dot, ['.']) := by decide
    simpa using only _ mem rfl

end TokenText

namespace Laid

/-- A text in which tokens are set down begins with white space or with the first of them. -/
lemma cons_inv (h : Laid ks (c :: cs)) : Text.isBlank c ∨ ∃ k ks' text rest, ks = k :: ks' ∧
    cs = text ++ rest ∧ TokenText k (c :: text) ∧ Laid ks' rest := by
  generalize whole : c :: cs = all at h
  cases h with
  | nil blank =>
    subst whole
    exact .inl (blank c List.mem_cons_self)
  | @cons k ks blanks text rest blank written apart more =>
    cases blanks with
    | nil =>
      obtain ⟨d, text, rfl, -⟩ := written.exists_cons
      obtain ⟨rfl, rfl⟩ : c = d ∧ cs = text ++ rest := by simpa using whole
      exact .inr ⟨k, ks, text, rest, rfl, rfl, written, more⟩
    | cons b blanks =>
      obtain ⟨rfl, -⟩ : c = b ∧ _ := List.cons.inj whole
      exact .inl (blank c List.mem_cons_self)

lemma head_of_digit (h : Laid ks (c :: cs)) (digit : c.isDigit) :
    ∃ x, ks.head? = some (.number x) := by
  rcases h.cons_inv with blank | ⟨k, ks', text, rest, rfl, -, written, -⟩
  · exact absurd blank (not_isBlank_of_isDigit digit)
  · obtain ⟨x, rfl⟩ := written.eq_number digit
    exact ⟨x, rfl⟩

lemma head_of_equal (h : Laid ks ('=' :: cs)) : ks.head? = some .equal := by
  rcases h.cons_inv with blank | ⟨k, ks', text, rest, rfl, -, written, -⟩
  · cases blank
  · exact congrArg some written.eq_equal

lemma cons_of_point (h : Laid ks ('.' :: cs)) : ∃ ks', ks = .dot :: ks' ∧ Laid ks' cs := by
  rcases h.cons_inv with blank | ⟨k, ks', text, rest, rfl, rfl, written, more⟩
  · cases blank
  · obtain ⟨rfl, rfl⟩ := written.eq_dot
    exact ⟨ks', rfl, more⟩

/-- Nothing that follows a token would be taken for part of it. -/
lemma endsBefore (h : Laid ks rest) (order : (k :: ks).IsChain fun k k' => k.mayPrecede k')
    (apart : k.isWord → ∀ c ∈ rest.head?, Text.isName c = false) : k.EndsBefore rest := by
  obtain ⟨next, -⟩ := List.isChain_cons.1 order
  -- The signs that an equals sign might follow stand before no test for equality.
  have notEqual (alone : k.mayPrecede .equal = false) : rest.head? ≠ some '=' := by
    intro head
    obtain ⟨cs, rfl⟩ := List.head?_eq_some_iff.1 head
    have := next _ h.head_of_equal
    rw [alone] at this
    cases this
  match k with
  | .number x =>
    refine ⟨fun c head => ?_, fun c cs split => ?_⟩
    · obtain ⟨cs, rfl⟩ := List.head?_eq_some_iff.1 head
      by_contra digit
      obtain ⟨y, number⟩ := h.head_of_digit (Bool.eq_true_of_not_eq_false digit)
      cases next _ number
    · subst split
      obtain ⟨ks', rfl, more⟩ := h.cons_of_point
      by_contra digit
      obtain ⟨y, number⟩ := more.head_of_digit (Bool.eq_true_of_not_eq_false digit)
      have := (List.isChain_cons.1 (List.isChain_cons.1 order).2).1 _ number
      cases this
  | .state _ | .field _ | .ident _ => exact apart rfl
  | .not | .less | .greater | .equal | .notEqual => exact notEqual rfl
  | .string _ | .leftParen | .rightParen | .comma | .dot | .question | .colon | .plus | .minus
  | .star | .slash | .percent | .lessEqual | .greaterEqual | .and | .or => trivial

lemma cut_blanks {blanks : List Char} (blank : ∀ c ∈ blanks, Text.isBlank c) (rest : List Char)
    (offset : Nat) (afterDot : Bool) : ∃ offset', Tokens.cut offset afterDot (blanks ++ rest) =
      Tokens.cut offset' afterDot rest := by
  induction blanks generalizing offset with
  | nil => exact ⟨offset, rfl⟩
  | cons b blanks ih =>
    rw [List.cons_append, Tokens.cut, if_pos (blank b List.mem_cons_self)]
    exact ih (fun c mem => blank c (List.mem_cons_of_mem b mem)) _

/-- The tokens are cut from the text again. -/
theorem cut (h : Laid ks text) (order : ks.IsChain fun k k' => k.mayPrecede k') (offset : Nat)
    {afterDot : Bool} (unpointed : afterDot → ∀ k ∈ ks.head?, ∀ x, k ≠ .number x) :
    ∃ tokens, Tokens.cut offset afterDot text = .ok tokens ∧ tokens.list.map Token.kind = ks := by
  induction h generalizing offset afterDot with
  | @nil blanks blank =>
    obtain ⟨offset', skipped⟩ := cut_blanks blank [] offset afterDot
    rw [List.append_nil] at skipped
    exact ⟨⟨[], offset'⟩, skipped.trans (by rw [Tokens.cut]), rfl⟩
  | @cons k ks blanks text rest blank written apart more ih =>
    obtain ⟨offset', skipped⟩ := cut_blanks blank (text ++ rest) offset afterDot
    obtain ⟨c, cs, rfl, notBlank⟩ := written.exists_cons
    obtain ⟨l, cutOff, rfl, after⟩ := lexeme_of_text written (more.endsBefore order apart)
      fun pointed => unpointed pointed _ rfl
    obtain ⟨next, tail⟩ := List.isChain_cons.1 order
    have unpointed' : (l.kind == .dot) = true → ∀ k ∈ ks.head?, ∀ x, k ≠ .number x := by
      intro pointed k' head x isNumber
      have may := next k' head
      rw [eq_of_beq pointed, isNumber] at may
      cases may
    obtain ⟨tokens, read, kinds⟩ := ih tail (offset' + Text.width l.text) unpointed'
    refine ⟨⟨⟨l.kind, offset', l.text⟩ :: tokens.list, tokens.stop⟩, ?_, ?_⟩
    · rw [skipped, List.cons_append, Tokens.cut, if_neg notBlank, cutOff]
      dsimp only
      rw [after, read]
    · exact congrArg (l.kind :: ·) kinds

end Laid

end Reflex
