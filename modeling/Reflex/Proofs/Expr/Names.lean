import Mathlib.Data.Char
import Reflex.Proofs.Expr.Soundness
import Reflex.Proofs.Text.Characters
import Reflex.Rule.Compiled

/-!
# The names in an expression are names in its text

The references of a set of rules are found by scanning the raw text of its expressions for `$name`,
where a name is a run of Unicode word characters.  The lexer cuts state variables off the same text,
but ends a name at the first character that is no ASCII name character.  The two agree on every
text that can be cut into tokens: a word character outside of ASCII begins no token and is no white
space, so the lexer fails on it (`lexeme_of_isWord`).

* `Expr.leaves` lists the leaves of a tree.
* `Expr.state_mem_stateNames` says that every state variable in a parsed expression is found by the
  scan.
* `Expr.ident_head` says that no bare name in a parsed expression begins with a dollar sign.
-/

namespace Reflex

/-! ## Leaves -/

namespace Expr

mutual

/-- The literals and names in a tree, from left to right. -/
def leaves : Expr → List Expr
  | .member base _ => base.leaves
  | .call _ args => leavesAll args
  | .unary _ operand => operand.leaves
  | .binary _ left right => left.leaves ++ right.leaves
  | .conditional test yes no => test.leaves ++ yes.leaves ++ no.leaves
  | e => [e]

/-- The literals and names in several trees. -/
def leavesAll : List Expr → List Expr
  | [] => []
  | e :: es => e.leaves ++ leavesAll es

end

/-- The token that a name in a tree is read from. -/
def token? : Expr → Option TokenKind
  | .state name => some (.state name)
  | .field name => some (.field name)
  | .ident name => some (.ident name)
  | _ => none

end Expr

namespace Grammar

/-- The names that a derivation puts into its tree are among its tokens. -/
lemma Derives.mem_of_mem_leaves {d : Nat} {phrase : Phrase} {ts : List TokenKind} {e leaf : Expr}
    {k : TokenKind} (h : Derives d phrase ts e) (mem : leaf ∈ e.leaves)
    (token : leaf.token? = some k) : k ∈ ts := by
  induction h with
  | untested _ ih => exact ih mem
  | tested _ _ _ ihTest ihYes ihNo =>
    simp only [Expr.leaves, List.mem_append] at mem
    simp only [List.mem_append, List.mem_cons]
    rcases mem with (mem | mem) | mem
    · exact .inl (ihTest mem)
    · exact .inr (.inr (.inl (ihYes mem)))
    · exact .inr (.inr (.inr (.inr (ihNo mem))))
  | tighter _ ih => exact ih mem
  | operation _ _ _ ihLeft ihRight =>
    simp only [Expr.leaves, List.mem_append] at mem
    simp only [List.mem_append, List.mem_cons]
    rcases mem with mem | mem
    · exact .inl (ihLeft mem)
    · exact .inr (.inr (ihRight mem))
  | operand _ ih => exact ih mem
  | sign _ _ ih =>
    simp only [Expr.leaves] at mem
    exact List.mem_cons_of_mem _ (ih mem)
  | unsigned _ ih => exact ih mem
  | start _ ih => exact ih mem
  | member _ _ ih =>
    simp only [Expr.leaves] at mem
    exact List.mem_append_left _ (ih mem)
  | call _ _ ih =>
    simp only [List.mem_cons, List.mem_append]
    exact .inr (.inr (.inl (ih mem)))
  | parens _ ih =>
    simp only [List.mem_cons, List.mem_append]
    exact .inr (.inl (ih mem))
  | lastArgument _ ih =>
    simp only [Expr.leaves, Expr.leavesAll, List.append_nil] at mem
    exact ih mem
  | moreArguments _ _ ihFirst ihMore =>
    simp only [Expr.leaves, Expr.leavesAll, List.mem_append] at mem
    simp only [List.mem_append, List.mem_cons]
    rcases mem with mem | mem
    · exact .inl (ihFirst mem)
    · exact .inr (.inr (ihMore (by simpa only [Expr.leaves] using mem)))
  | callEmpty => simp [Expr.leaves, Expr.leavesAll] at mem
  | _ =>
    simp only [Expr.leaves, List.mem_singleton] at mem
    subst mem
    cases token <;> simp

end Grammar

/-! ## The scan of the text -/

lemma stateNames_cons_of_ne {c : Char} {cs : List Char} (h : c ≠ '$') :
    stateNames (c :: cs) = stateNames cs := by
  rw [stateNames, if_neg (by simpa using h)]

/-- The scan looks at every position, so it finds in a text what it finds in an ending of it. -/
lemma mem_stateNames_append {name : String} {front rest : List Char}
    (mem : name ∈ stateNames rest) : name ∈ stateNames (front ++ rest) := by
  induction front with
  | nil => exact mem
  | cons c front ih =>
    rw [List.cons_append, stateNames]
    split
    · simp only
      split
      · exact ih
      · exact List.mem_cons_of_mem _ ih
    · exact ih

/-- No token begins with a word character that is no name character of the lexer. -/
lemma lexeme_of_isWord {c : Char} (word : Text.isWord c) (foreign : Text.isName c = false)
    (afterDot : Bool) (cs : List Char) :
    lexeme afterDot c cs = .error (.unexpectedCharacter c) := by
  have high := toNat_ge_of_isWord word foreign
  have ne {d : Char} (low : d.toNat < 0x80) : c ≠ d := by
    rintro rfl
    omega
  have noDigit : c.isDigit = false := by
    rw [← Bool.not_eq_true]
    intro digit
    simp only [Text.isName, Char.isAlphanum, Bool.or_eq_false_iff] at foreign
    rw [foreign.1.2] at digit
    cases digit
  have noName : Text.isNameStart c = false := by
    simp only [Text.isName, Char.isAlphanum, Bool.or_eq_false_iff] at foreign
    rw [Text.isNameStart, foreign.1.1, foreign.2]
    rfl
  rw [lexeme, noDigit, noName, beq_false_of_ne (ne (d := '\x22') (by decide)),
    beq_false_of_ne (ne (d := '\x27') (by decide)), beq_false_of_ne (ne (d := '$') (by decide)),
    beq_false_of_ne (ne (d := '#') (by decide))]
  simp only [Bool.false_eq_true, if_false, Bool.or_self]
  unfold lexSign
  split <;> first | rfl | exact absurd high (by decide)

/-- A text that is cut into tokens does not go on with a word character that the lexer does not
take for part of a name. -/
lemma isName_of_cut {offset : Nat} {afterDot : Bool} {c : Char} {cs : List Char} {tokens : Tokens}
    (h : Tokens.cut offset afterDot (c :: cs) = .ok tokens) (word : Text.isWord c) :
    Text.isName c := by
  by_contra foreign
  rw [Bool.not_eq_true] at foreign
  rw [Tokens.cut] at h
  split at h
  · rename_i blank
    rw [not_isWord_of_isBlank blank] at word
    cases word
  · rw [lexeme_of_isWord word foreign] at h
    cases h

/-- Where a name of the lexer ends, so does the run of word characters. -/
lemma takeWhile_isWord {cs : List Char}
    (stops : ∀ c ∈ (cs.dropWhile Text.isName).head?, Text.isWord c → Text.isName c) :
    cs.takeWhile Text.isWord = cs.takeWhile Text.isName := by
  induction cs with
  | nil => rfl
  | cons c cs ih =>
    by_cases name : Text.isName c
    · rw [List.takeWhile_cons_of_pos (isWord_of_isName name), List.takeWhile_cons_of_pos name,
        ih (by rwa [List.dropWhile_cons_of_pos name] at stops)]
    · rw [List.dropWhile_cons_of_neg name] at stops
      rw [List.takeWhile_cons_of_neg name,
        List.takeWhile_cons_of_neg fun word => name (stops c rfl word)]

/-- A dollar sign with the name after it that the lexer reads is found by the scan. -/
lemma dollar_mem_stateNames {cs : List Char} (nonempty : cs.takeWhile Text.isName ≠ [])
    (stops : ∀ c ∈ (cs.dropWhile Text.isName).head?, Text.isWord c → Text.isName c) :
    "$" ++ String.ofList (cs.takeWhile Text.isName) ∈ stateNames ('$' :: cs) := by
  rw [stateNames, if_pos (beq_self_eq_true _)]
  simp only [takeWhile_isWord stops]
  rw [if_neg (by simpa using nonempty)]
  refine List.mem_cons.2 (.inl ?_)
  rw [← List.singleton_append, String.ofList_append]

/-- Whether a token is the name of a state variable or a bare name. -/
def TokenKind.isName : TokenKind → Bool
  | .state _ | .ident _ => true
  | _ => false

lemma isName_lexNumber (afterDot : Bool) (c : Char) (cs : List Char) :
    (lexNumber afterDot c cs).kind.isName = false := by
  rw [lexNumber]
  split <;> rfl

lemma isName_lexSign {c : Char} {cs : List Char} {l : Lexeme (c :: cs)}
    (h : lexSign c cs = .ok l) : l.kind.isName = false := by
  unfold lexSign at h
  split at h <;> cases h <;> rfl

/-- Names are cut off as runs of name characters: one of a state variable after a dollar sign, a
bare name from its first character on. -/
lemma lexeme_name {afterDot : Bool} {c : Char} {cs : List Char} {l : Lexeme (c :: cs)}
    (h : lexeme afterDot c cs = .ok l) :
    l.kind.isName = false ∨
      (c = '$' ∧ cs.takeWhile Text.isName ≠ [] ∧ l.rest = cs.dropWhile Text.isName ∧
        l.kind = .state ("$" ++ String.ofList (cs.takeWhile Text.isName))) ∨
      (c ≠ '$' ∧ l.kind = .ident (c.toString ++ String.ofList (cs.takeWhile Text.isName))) := by
  rw [lexeme] at h
  split at h
  · cases h
    exact .inl (isName_lexNumber afterDot c cs)
  split at h
  · split at h
    · cases h
      exact .inl rfl
    · cases h
  split at h
  · split at h
    · cases h
    rename_i nonempty
    cases h
    by_cases dollar : c = '$'
    · subst dollar
      exact .inr (.inl ⟨rfl, nonempty, rfl, rfl⟩)
    · refine .inl ?_
      simp only [Lexeme.word, beq_false_of_ne dollar]
      rfl
  split at h
  · rename_i noSigil _
    cases h
    refine .inr (.inr ⟨?_, rfl⟩)
    rintro rfl
    exact noSigil rfl
  · exact .inl (isName_lexSign h)

/-- The names of the tokens of a text are found by the scan, or begin with no dollar sign. -/
lemma cut_names {offset : Nat} {afterDot : Bool} {cs : List Char} {tokens : Tokens}
    (h : Tokens.cut offset afterDot cs = .ok tokens) :
    ∀ t ∈ tokens.list, ∀ name, (t.kind = .state name → name ∈ stateNames cs) ∧
      (t.kind = .ident name → name.toList.head? ≠ some '$') := by
  fun_induction Tokens.cut offset afterDot cs generalizing tokens with
  | case1 offset afterDot =>
    cases h
    simp
  | case2 offset afterDot c cs blank ih =>
    have other : c ≠ '$' := by
      rintro rfl
      cases blank
    rw [stateNames_cons_of_ne other]
    exact ih h
  | case3 offset afterDot c cs _ fault failed => cases h
  | case4 offset afterDot c cs _ l cutOff flaw failed => cases h
  | case5 offset afterDot c cs _ l cutOff more read ih =>
    cases h
    intro t mem name
    rcases List.mem_cons.1 mem with rfl | mem
    · change (l.kind = .state name → _) ∧ (l.kind = .ident name → _)
      rcases lexeme_name cutOff with other | ⟨rfl, nonempty, rest_eq, kind⟩ | ⟨other, kind⟩
      · constructor <;> intro isKind <;> rw [isKind] at other <;> cases other
      · refine ⟨fun isKind => ?_, fun isKind => ?_⟩
        · obtain rfl : "$" ++ String.ofList (cs.takeWhile Text.isName) = name :=
            TokenKind.state.inj (kind.symm.trans isKind)
          refine dollar_mem_stateNames nonempty fun d head word => ?_
          rw [← rest_eq] at head
          obtain ⟨ds, rest_cons⟩ := List.head?_eq_some_iff.1 head
          rw [rest_cons] at read
          exact isName_of_cut read word
        · rw [kind] at isKind
          cases isKind
      · refine ⟨fun isKind => ?_, fun isKind => ?_⟩
        · rw [kind] at isKind
          cases isKind
        · obtain rfl : c.toString ++ String.ofList (cs.takeWhile Text.isName) = name :=
            TokenKind.ident.inj (kind.symm.trans isKind)
          simpa [Char.toString] using other
    · obtain ⟨scanned, bare⟩ := ih read t mem name
      refine ⟨fun isKind => ?_, bare⟩
      rw [← l.text_append_rest]
      exact mem_stateNames_append (scanned isKind)

/-! ## Parsed expressions -/

namespace Expr

variable {source : String} {e leaf : Expr}

/-- A parsed expression is derived from the tokens of its text. -/
lemma exists_derives_of_parse (parsed : Expr.parse source = .ok e) :
    ∃ tokens, Tokens.ofSource source = .ok tokens ∧
      Grammar.Derives maxNesting .conditional (tokens.list.map Token.kind) e := by
  rw [Expr.parse] at parsed
  split at parsed
  · rename_i e' read
    cases parsed
    obtain ⟨tokens, tokenizes, read⟩ := bind_eq_ok_iff.1 read
    exact ⟨tokens, tokenizes, Parser.derives_of_ofTokens read⟩
  · cases parsed

/-- A parsed expression has names of tokens only. -/
lemma exists_token_of_parse (parsed : Expr.parse source = .ok e) (mem : leaf ∈ e.leaves)
    {k : TokenKind} (token : leaf.token? = some k) :
    ∃ tokens, Tokens.ofSource source = .ok tokens ∧ ∃ t ∈ tokens.list, t.kind = k := by
  obtain ⟨tokens, tokenizes, derives⟩ := exists_derives_of_parse parsed
  refine ⟨tokens, tokenizes, ?_⟩
  simpa using derives.mem_of_mem_leaves mem token

/-- Every state variable in a parsed expression is found by the scan of its text. -/
theorem state_mem_stateNames (parsed : Expr.parse source = .ok e) {name : String}
    (mem : .state name ∈ e.leaves) : name ∈ stateNames source.toList := by
  obtain ⟨tokens, tokenizes, t, ht, kind⟩ := exists_token_of_parse parsed mem rfl
  exact (cut_names tokenizes t ht name).1 kind

/-- No bare name in a parsed expression begins with a dollar sign. -/
theorem ident_head (parsed : Expr.parse source = .ok e) {name : String}
    (mem : .ident name ∈ e.leaves) : name.toList.head? ≠ some '$' := by
  obtain ⟨tokens, tokenizes, t, ht, kind⟩ := exists_token_of_parse parsed mem rfl
  exact (cut_names tokenizes t ht name).2 kind

end Expr

end Reflex
