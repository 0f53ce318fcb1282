import Reflex.Proofs.Expr.Grammar
import Reflex.Proofs.Result

/-!
# The parser reads what the grammar derives

Every function of the parser is shown to take off the front of its input a piece that the grammar
derives, with the tree that the function returns and with no more levels open than it was allowed
to open.

* `Parser.Sound d phrase part` says this of one function.
* `Parser.sound_conditional` says it of the conditional, the start of the grammar.
-/

namespace Reflex.Parser

open Grammar

/-! ## Spellings -/

/-- `operator` finds just the operators of strength `level`. -/
def FindsOperators (level : Nat) (operator : TokenKind → Option BinaryOp) : Prop :=
  ∀ t op, operator t = some op ↔ Spells op t ∧ strength op = level

/-- The operators stand in the order of their strength. -/
lemma findsOperators_getElem (k : Nat) (h : k < operatorLevels.length) :
    FindsOperators k operatorLevels[k] := by
  intro t op
  simp only [operatorLevels, List.length_cons, List.length_nil] at h
  have level : k = 0 ∨ k = 1 ∨ k = 2 ∨ k = 3 ∨ k = 4 ∨ k = 5 := by omega
  constructor
  · intro found
    rcases level with rfl | rfl | rfl | rfl | rfl | rfl <;>
      simp only [operatorLevels, List.getElem_cons_zero, List.getElem_cons_succ] at found <;>
      split at found <;> cases found <;> exact ⟨by constructor, rfl⟩
  · rintro ⟨spells, rfl⟩
    cases spells <;> rfl

lemma signOf_eq_some_iff {t : TokenKind} {op : UnaryOp} :
    signOf t = some op ↔ SpellsSign op t := by
  constructor
  · intro found
    simp only [signOf] at found
    split at found <;> cases found <;> constructor
  · intro spells
    cases spells <;> rfl

lemma segmentOf_eq_some_iff {t : TokenKind} {segment : String} :
    segmentOf t = some segment ↔ SpellsSegment segment t := by
  constructor
  · intro found
    cases t with
    | ident name =>
      cases found
      exact .name _
    | number x =>
      cases x with
      | finite x =>
        simp only [segmentOf, segmentOfNumber] at found
        split at found
        · rename_i natural
          cases found
          simp only [Bool.and_eq_true, decide_eq_true_eq] at natural
          exact .number natural.1 natural.2
        · cases found
      | _ => cases found
    | _ => cases found
  · intro spells
    cases spells with
    | name name => rfl
    | number isInteger nonneg => simp [segmentOf, segmentOfNumber, isInteger, nonneg]

lemma mem_reserved_iff {name : String} : name ∈ reserved ↔ name ∈ keywords := by
  simp only [reserved, keywords, List.mem_cons, List.not_mem_nil, or_false]
  grind

/-! ## Soundness of one function -/

/-- A piece of `input` that the grammar derives as `phrase`, with `e` as its tree, stands in front
of `rest`. -/
def Took (d : Nat) (phrase : Phrase) (input : List Token) (e : Expr) (rest : List Token) : Prop :=
  ∃ used, input = used ++ rest ∧ Derives d phrase (used.map Token.kind) e

/-- What `part` takes off its input is derived by the grammar. -/
def Sound (d : Nat) (phrase : Phrase) (part : Part) : Prop :=
  ∀ ts r, part ts = .ok r → Took d phrase ts r.value r.rest

variable {d : Nat} {input : List Token} {operator : TokenKind → Option BinaryOp}
  {operand inner : Part} {ends : Ends}

lemma Took.map {p q : Phrase} {c : Nat} {e e' : Expr} {rest : List Token}
    (h : Took c p input e rest)
    (f : ∀ ts, Derives c p ts e → Derives d q ts e') : Took d q input e' rest := by
  obtain ⟨used, split, derives⟩ := h
  exact ⟨used, split, f _ derives⟩

lemma chain_sound {k : Nat} (finds : FindsOperators k operator)
    (sound : Sound d (.chain (k + 1)) operand) (acc r : Reading Expr input)
    (took : Took d (.chain k) input acc.value acc.rest) (h : chain operator operand acc = .ok r) :
    Took d (.chain k) input r.value r.rest := by
  fun_induction chain operator operand acc with
  | case1 acc t rest rest_eq op found flaw failed => cases h
  | case2 acc t rest rest_eq op found right read ih =>
    refine ih ?_ h
    obtain ⟨used, split, left⟩ := took
    obtain ⟨more, split', derives⟩ := sound _ _ read
    obtain ⟨spells, rfl⟩ := (finds _ _).1 found
    refine ⟨used ++ t :: more, by simp [split, rest_eq, split'], ?_⟩
    simpa using left.operation spells derives
  | case3 acc t rest rest_eq none_found =>
    cases h
    exact took
  | case4 acc rest_eq =>
    cases h
    exact took

lemma sound_leftGrouped {k : Nat} (finds : FindsOperators k operator)
    (sound : Sound d (.chain (k + 1)) operand) :
    Sound d (.chain k) (leftGrouped operator operand) := by
  intro ts r h
  obtain ⟨acc, first, more⟩ := bind_eq_ok_iff.1 h
  exact chain_sound finds sound acc r ((sound _ _ first).map fun _ => .tighter) more

/-- The upper rungs of a ladder of operators. -/
lemma findsOperators_tail {operators : List (TokenKind → Option BinaryOp)} {k : Nat}
    (finds : ∀ i (h : i < (operator :: operators).length),
      FindsOperators (k + i) (operator :: operators)[i])
    (i : Nat) (h : i < operators.length) : FindsOperators (k + 1 + i) operators[i] := by
  have := finds (i + 1) (by simpa using h)
  rwa [List.getElem_cons_succ, show k + (i + 1) = k + 1 + i by omega] at this

/-- A ladder of operators, whose lowest rung is at `k`, over signed operands. -/
lemma sound_foldr (sound : Sound d .signed operand)
    (operators : List (TokenKind → Option BinaryOp)) (k : Nat) (top : k + operators.length = 6)
    (finds : ∀ i (h : i < operators.length), FindsOperators (k + i) operators[i]) :
    Sound d (.chain k) (operators.foldr leftGrouped operand) := by
  induction operators generalizing k with
  | nil =>
    obtain rfl : k = 6 := top
    intro ts r h
    exact (sound _ _ h).map fun _ => .operand
  | cons operator operators ih =>
    refine sound_leftGrouped (finds 0 (by simp)) (ih (k + 1) ?_ (findsOperators_tail finds))
    simp only [List.length_cons] at top
    omega

lemma sound_operatorLevels (sound : Sound d .signed operand) :
    Sound d (.chain 0) (operatorLevels.foldr leftGrouped operand) :=
  sound_foldr sound operatorLevels 0 rfl fun i h => by
    rw [Nat.zero_add]
    exact findsOperators_getElem i h

lemma members_sound (acc r : Reading Expr input)
    (took : Took d .path input acc.value acc.rest) (h : members acc = .ok r) :
    Took d .path input r.value r.rest := by
  fun_induction members acc with
  | case1 acc dot isDot rest_eq => cases h
  | case2 acc dot isDot t rest rest_eq segment found _ ih =>
    refine ih ?_ h
    obtain ⟨used, split, base⟩ := took
    refine ⟨used ++ [dot, t], by simp [split, rest_eq], ?_⟩
    simpa [isDot] using base.member (segmentOf_eq_some_iff.1 found)
  | case3 acc dot isDot t rest rest_eq none_found => cases h
  | case4 acc dot rest rest_eq notDot =>
    cases h
    exact took
  | case5 acc rest_eq =>
    cases h
    exact took

/-! ## Calls and parentheses -/

lemma argumentsRest_sound (sound : Sound d .conditional inner) (function : String)
    (ts : List Token) (r : Reading (List Expr) ts) (h : argumentsRest ends inner ts = .ok r) :
    ∃ used close, ts = used ++ close :: r.rest ∧ close.kind = .rightParen ∧
      Derives d (.arguments function) (used.map Token.kind) (.call function r.value) := by
  fun_induction argumentsRest ends inner ts with
  | case1 ts ih =>
    obtain ⟨first, read, more⟩ := bind_eq_ok_iff.1 h
    obtain ⟨used, split, derives⟩ := sound _ _ read
    split at more
    · cases more
    · rename_i t rest rest_eq
      rw [rest_eq] at split
      split at more
      · rename_i isClose
        cases more
        exact ⟨used, t, split, isClose, .lastArgument derives⟩
      split at more
      · rename_i isComma
        obtain ⟨others, read', done⟩ := bind_eq_ok_iff.1 more
        cases done
        obtain ⟨used', close, split', isClose, derives'⟩ := ih first t rest rest_eq others read'
        refine ⟨used ++ t :: used', close, by simp [split, split'], isClose, ?_⟩
        simpa [isComma] using derives.moreArguments derives'
      · cases more

lemma sound_arguments (sound : Sound d .conditional inner) (function : String)
    (ts : List Token) (r : Reading (List Expr) ts) (h : arguments ends inner ts = .ok r) :
    ∃ used close, ts = used ++ close :: r.rest ∧ close.kind = .rightParen ∧
      (used = [] ∧ r.value = [] ∨
        Derives d (.arguments function) (used.map Token.kind) (.call function r.value)) := by
  have rest_sound (ts : List Token) (r : Reading (List Expr) ts)
      (h : argumentsRest ends inner ts = .ok r) :
      ∃ used close, ts = used ++ close :: r.rest ∧ close.kind = .rightParen ∧
        (used = [] ∧ r.value = [] ∨
          Derives d (.arguments function) (used.map Token.kind) (.call function r.value)) := by
    obtain ⟨used, close, split, isClose, derives⟩ := argumentsRest_sound sound function ts r h
    exact ⟨used, close, split, isClose, .inr derives⟩
  cases ts with
  | nil => exact rest_sound [] r h
  | cons t ts =>
    simp only [arguments] at h
    split at h
    · rename_i isClose
      cases h
      exact ⟨[], t, rfl, isClose, .inl ⟨rfl, rfl⟩⟩
    · exact rest_sound (t :: ts) r h

lemma word_sound (sound : Sound d .conditional inner) {t : Token} {name : String}
    (isName : t.kind = .ident name) {ts : List Token}
    {r : { r : Expr × List Token // r.2.length ≤ ts.length }}
    (h : word ends inner t.offset name ts = .ok r) :
    Took d .primary (t :: ts) r.1.1 r.1.2 := by
  have alone {e : Expr} (derives : Derives d .primary [t.kind] e) :
      Took d .primary (t :: ts) e ts := ⟨[t], rfl, derives⟩
  rw [isName] at alone
  simp only [word] at h
  split at h
  · rename_i is_true
    cases h
    exact alone (is_true ▸ .true)
  split at h
  · rename_i is_false
    cases h
    exact alone (is_false ▸ .false)
  split at h
  · rename_i is_null
    cases h
    exact alone (is_null ▸ .null)
  split at h
  · cases h
  rename_i free
  rw [mem_reserved_iff] at free
  cases ts with
  | nil =>
    cases h
    exact alone (.name free)
  | cons paren ts =>
    simp only at h
    split at h
    · rename_i isOpen
      obtain ⟨args, read, done⟩ := bind_eq_ok_iff.1 h
      cases done
      obtain ⟨used, close, split, isClose, derives⟩ := sound_arguments sound name ts args read
      refine ⟨t :: paren :: (used ++ [close]), by simp [split], ?_⟩
      simp only [List.map_cons, List.map_append, List.map_nil, isName, isOpen, isClose]
      rcases derives with ⟨rfl, noArgs⟩ | derives
      · rw [noArgs]
        exact .callEmpty free
      · exact .call free derives
    · cases h
      exact alone (.name free)

lemma closeParen_sound {t : Token} (isOpen : t.kind = .leftParen) {ts : List Token}
    {r r' : Reading Expr ts} (took : Took d .conditional ts r.value r.rest)
    (h : closeParen ends r = .ok r') : Took d .primary (t :: ts) r'.value r'.rest := by
  obtain ⟨used, split, derives⟩ := took
  simp only [closeParen] at h
  split at h
  · rename_i close rest rest_eq
    split at h
    · rename_i isClose
      cases h
      refine ⟨t :: (used ++ [close]), by simp [split, rest_eq], ?_⟩
      simpa [isOpen, isClose] using derives.parens
    · cases h
  · cases h

lemma sound_primary (sound : Sound d .conditional inner) :
    Sound d .primary (primary ends inner) := by
  intro ts r h
  cases ts with
  | nil => cases h
  | cons t ts =>
    have alone {e : Expr} {kind : TokenKind} (isKind : t.kind = kind)
        (derives : Derives d .primary [kind] e) : Took d .primary (t :: ts) e ts :=
      ⟨[t], rfl, by simpa [isKind] using derives⟩
    simp only [primary] at h
    split at h
    · rename_i x isNumber
      cases h
      exact alone isNumber (.number x)
    · rename_i s isString
      cases h
      exact alone isString (.string s)
    · rename_i name isState
      cases h
      exact alone isState (.state name)
    · rename_i name isField
      cases h
      exact alone isField (.field name)
    · rename_i name isName
      obtain ⟨⟨⟨e, rest⟩, le⟩, read, done⟩ := bind_eq_ok_iff.1 h
      cases done
      exact word_sound sound isName read
    · rename_i isOpen
      obtain ⟨r₁, read, more⟩ := bind_eq_ok_iff.1 h
      obtain ⟨r₂, closed, done⟩ := bind_eq_ok_iff.1 more
      cases done
      exact closeParen_sound isOpen (sound _ _ read) closed
    · cases h

lemma sound_postfixed (sound : Sound d .conditional inner) :
    Sound d .path (postfixed ends inner) := by
  intro ts r h
  obtain ⟨first, read, more⟩ := bind_eq_ok_iff.1 h
  exact members_sound first r ((sound_primary sound _ _ read).map fun _ => .start) more

/-! ## The two levels that nest -/

lemma branches_sound (sound : Sound d .conditional inner) {test r : Reading Expr input}
    (took : Took d (.chain 0) input test.value test.rest)
    (h : branches ends inner test = .ok r) :
    Took (d + 1) .conditional input r.value r.rest := by
  simp only [branches] at h
  split at h
  · rename_i question rest rest_eq
    split at h
    · rename_i isQuestion
      obtain ⟨yes, readYes, more⟩ := bind_eq_ok_iff.1 h
      split at more
      · rename_i colon rest' rest_eq'
        split at more
        · rename_i isColon
          obtain ⟨no, readNo, done⟩ := bind_eq_ok_iff.1 more
          cases done
          obtain ⟨us, split, test_derives⟩ := took
          obtain ⟨vs, split', yes_derives⟩ := sound _ _ readYes
          obtain ⟨ws, split'', no_derives⟩ := sound _ _ readNo
          refine ⟨us ++ question :: (vs ++ colon :: ws), ?_, ?_⟩
          · simp [split, rest_eq, split', rest_eq', split'']
          · simpa [isQuestion, isColon] using test_derives.tested yes_derives no_derives
        · cases more
      · cases more
    · cases h
      exact took.map fun _ => .untested
  · cases h
    exact took.map fun _ => .untested

/-- The conditional and the signed operand are sound together, since each reads the other inside
of itself with one level less to open. -/
lemma sound_levels (d : Nat) :
    Sound d .conditional (conditional ends d) ∧ Sound d .signed (unary ends d) := by
  induction d with
  | zero =>
    constructor
    · intro ts r h
      simp [conditional] at h
    · intro ts r h
      simp [unary] at h
  | succ d ih =>
    obtain ⟨soundConditional, soundUnary⟩ := ih
    constructor
    · intro ts r h
      simp only [conditional] at h
      obtain ⟨test, readTest, more⟩ := bind_eq_ok_iff.1 h
      exact branches_sound soundConditional (sound_operatorLevels soundUnary _ _ readTest) more
    · intro ts r h
      simp only [unary] at h
      have path (h : postfixed ends (conditional ends d) ts = .ok r) :
          Took (d + 1) .signed ts r.value r.rest :=
        (sound_postfixed soundConditional _ _ h).map fun _ => .unsigned
      cases ts with
      | nil => exact path h
      | cons t ts =>
        simp only at h
        split at h
        · rename_i op isSign
          obtain ⟨operand, read, done⟩ := bind_eq_ok_iff.1 h
          cases done
          obtain ⟨used, split, derives⟩ := soundUnary _ _ read
          exact ⟨t :: used, by simp [split], .sign (signOf_eq_some_iff.1 isSign) derives⟩
        · exact path h

lemma sound_conditional (d : Nat) : Sound d .conditional (conditional ends d) :=
  (sound_levels d).1

/-- Tokens that are read to the end make up a conditional. -/
lemma derives_of_ofTokens {tokens : Tokens} {e : Expr} (h : Expr.ofTokens tokens = .ok e) :
    Derives maxNesting .conditional (tokens.list.map Token.kind) e := by
  rw [Expr.ofTokens] at h
  split at h
  · cases h
  obtain ⟨r, read, done⟩ := bind_eq_ok_iff.1 h
  split at done
  · rename_i atEnd
    cases done
    obtain ⟨used, split, derives⟩ := sound_conditional maxNesting _ _ read
    rw [List.isEmpty_iff.1 atEnd, List.append_nil] at split
    rwa [← split] at derives
  · cases done

end Reflex.Parser
