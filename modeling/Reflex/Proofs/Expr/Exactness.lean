import Reflex.Proofs.Expr.Identity
import Reflex.Proofs.Expr.Soundness

/-!
# The parser reads all that the grammar derives

The converse of `Reflex.Proofs.Expr.Soundness`.  The parser is deterministic and greedy, so a
phrase is read to its end only where the rest does not go on with something that could belong to
it; each phrase comes with the rests it is closed off by (`Stops`, `Closes`, `NotCalled`).

Operators and segments are read by loops, which the grammar writes with the loop on the left.  The
statement for a phrase of this kind is therefore that the parser gets to the end of the phrase with
its loop still running (`Complete` at `chain` and `path`): whether the loop stops there is for the
rest to say.

* `Parser.complete` is the induction over derivations.
* `parse_eq_ok_iff_derives` says that a source text parses to a tree just when its tokens derive
  that tree, and that no tokens derive two trees.
-/

namespace Reflex.Parser

open Grammar

/-! ## Pieces of the input -/

/-- The tokens in front of `rest` are of the kinds `ts`. -/
def Begins (input : List Token) (ts : List TokenKind) (rest : List Token) : Prop :=
  ∃ used, input = used ++ rest ∧ used.map Token.kind = ts

lemma begins_append {input rest : List Token} {ts us : List TokenKind} :
    Begins input (ts ++ us) rest ↔ ∃ mid, Begins input ts mid ∧ Begins mid us rest := by
  constructor
  · rintro ⟨used, rfl, kinds⟩
    obtain ⟨front, back, rfl, hfront, hback⟩ := List.map_eq_append_iff.1 kinds
    exact ⟨back ++ rest, ⟨front, by simp, hfront⟩, back, rfl, hback⟩
  · rintro ⟨mid, ⟨front, rfl, rfl⟩, back, rfl, rfl⟩
    exact ⟨front ++ back, by simp, by simp⟩

lemma begins_cons {input rest : List Token} {k : TokenKind} {ts : List TokenKind} :
    Begins input (k :: ts) rest ↔
      ∃ t tail, input = t :: tail ∧ t.kind = k ∧ Begins tail ts rest := by
  constructor
  · rintro ⟨used, rfl, kinds⟩
    obtain ⟨t, used, rfl, kind, kinds⟩ := List.map_eq_cons_iff.1 kinds
    exact ⟨t, used ++ rest, rfl, kind, used, rfl, kinds⟩
  · rintro ⟨t, tail, rfl, rfl, used, rfl, rfl⟩
    exact ⟨t :: used, rfl, rfl⟩

lemma begins_nil {input rest : List Token} : Begins input [] rest ↔ input = rest := by
  constructor
  · rintro ⟨used, rfl, kinds⟩
    obtain rfl := List.map_eq_nil_iff.1 kinds
    rfl
  · rintro rfl
    exact ⟨[], rfl, rfl⟩

lemma begins_map (used rest : List Token) : Begins (used ++ rest) (used.map Token.kind) rest :=
  ⟨used, rfl, rfl⟩

variable {α : Type} {d k : Nat} {input rest : List Token} {ts : List TokenKind} {e : Expr}
  {ends : Ends}

/-- A result that is `value`, with `rest` left to read. -/
def Gives (result : Except SourceFlaw (Reading α input)) (value : α) (rest : List Token) : Prop :=
  ∃ r, result = .ok r ∧ r.value = value ∧ r.rest = rest

/-! ## Loops -/

/-- The operators of strength `k`. -/
def operatorsAt (k : Nat) : TokenKind → Option BinaryOp :=
  operatorLevels[k]?.getD fun _ => none

/-- The ladder of operators from strength `k` up. -/
def ladder (ends : Ends) (d k : Nat) : Part :=
  (operatorLevels.drop k).foldr leftGrouped (unary ends d)

lemma findsOperators_at (k : Nat) : FindsOperators k (operatorsAt k) := by
  by_cases h : k < operatorLevels.length
  · rw [operatorsAt, List.getElem?_eq_getElem h]
    exact findsOperators_getElem k h
  · intro t op
    rw [operatorsAt, List.getElem?_eq_none (Nat.le_of_not_lt h)]
    have weak := strength_lt op
    simp only [operatorLevels, List.length_cons, List.length_nil] at h
    constructor
    · intro found
      cases found
    · rintro ⟨-, rfl⟩
      omega

lemma ladder_eq_leftGrouped (h : k < 6) :
    ladder ends d k = leftGrouped (operatorsAt k) (ladder ends d (k + 1)) := by
  have bound : k < operatorLevels.length := h
  rw [ladder, List.drop_eq_getElem_cons bound, List.foldr_cons, operatorsAt,
    List.getElem?_eq_getElem bound]
  rfl

lemma ladder_eq_unary (h : 6 ≤ k) : ladder ends d k = unary ends d := by
  rw [ladder, List.drop_eq_nil_of_le (by exact h)]
  rfl

/-- The loop over operators ends where none of them stands. -/
lemma chain_of_none {operator : TokenKind → Option BinaryOp} {operand : Part}
    {acc : Reading Expr input} (h : ∀ t ∈ acc.rest.head?, operator t.kind = none) :
    chain operator operand acc = .ok acc := by
  unfold chain
  split
  · rename_i t tail rest_eq
    split
    · rename_i op found
      rw [h t (by simp [rest_eq])] at found
      cases found
    · rfl
  · rfl

/-- The loop over operators ends where no operator of its strength stands. -/
lemma chain_of_stops {operand : Part} {acc : Reading Expr input} (h : Stops k acc.rest) :
    chain (operatorsAt k) operand acc = .ok acc := by
  refine chain_of_none fun t ht => Option.eq_none_iff_forall_ne_some.2 fun op found => ?_
  obtain ⟨spells, level⟩ := (findsOperators_at k _ _).1 found
  have weak := (h t ht).2.2 op spells
  omega

/-- One round of the loop over operators. -/
lemma chain_step {operator : TokenKind → Option BinaryOp} {operand : Part}
    {acc : Reading Expr input} {t : Token} {tail : List Token} (rest_eq : acc.rest = t :: tail)
    {op : BinaryOp} (found : operator t.kind = some op) {right : Reading Expr tail}
    (read : operand tail = .ok right) :
    ∃ acc' : Reading Expr input, chain operator operand acc = chain operator operand acc' ∧
      acc'.value = .binary op acc.value right.value ∧ acc'.rest = right.rest := by
  have shorter : right.rest.length < input.length := by
    have total := acc.shorter
    have part := right.shorter
    simp only [rest_eq, List.length_cons] at total
    omega
  refine ⟨⟨.binary op acc.value right.value, right.rest, shorter⟩, ?_, rfl, rfl⟩
  rw [chain]
  split
  · rename_i t' tail' rest_eq'
    obtain ⟨rfl, rfl⟩ := List.cons.inj (rest_eq.symm.trans rest_eq')
    split
    · rename_i op' found'
      obtain rfl := Option.some.inj (found.symm.trans found')
      rw [read]
    · rename_i none_found
      rw [found] at none_found
      cases none_found
  · rename_i rest_eq'
    rw [rest_eq] at rest_eq'
    cases rest_eq'

/-- The loop over members ends where no point stands. -/
lemma members_of_stops {acc : Reading Expr input} (h : ∀ t ∈ acc.rest.head?, t.kind ≠ .dot) :
    members acc = .ok acc := by
  unfold members
  split
  · rename_i dot tail rest_eq
    rw [if_neg (h dot (by simp [rest_eq]))]
  · rfl

/-- One round of the loop over members. -/
lemma members_step {acc : Reading Expr input} {dot t : Token} {tail : List Token}
    (rest_eq : acc.rest = dot :: t :: tail) (isDot : dot.kind = .dot) {segment : String}
    (found : segmentOf t.kind = some segment) :
    ∃ acc' : Reading Expr input, members acc = members acc' ∧
      acc'.value = .member acc.value segment ∧ acc'.rest = tail := by
  have shorter : tail.length < input.length := by
    have total := acc.shorter
    simp only [rest_eq, List.length_cons] at total
    omega
  refine ⟨⟨.member acc.value segment, tail, shorter⟩, ?_, rfl, rfl⟩
  rw [members]
  split
  · rename_i dot' tail' rest_eq'
    obtain ⟨rfl, rfl⟩ := List.cons.inj (rest_eq.symm.trans rest_eq')
    rw [if_pos isDot]
    simp only
    split
    · rename_i segment' found'
      obtain rfl := Option.some.inj (found.symm.trans found')
      rfl
    · rename_i none_found
      rw [found] at none_found
      cases none_found
  · rename_i rest_eq'
    rw [rest_eq] at rest_eq'
    cases rest_eq'

/-! ## Brackets -/

/-- A question mark after the test leads to both branches. -/
lemma gives_branches {inner : Part} {test : Reading Expr input} {question colon : Token}
    {tail tail' rest : List Token} {yes no : Expr} (rest_eq : test.rest = question :: tail)
    (isQuestion : question.kind = .question) (readYes : Gives (inner tail) yes (colon :: tail'))
    (isColon : colon.kind = .colon) (readNo : Gives (inner tail') no rest) :
    Gives (branches ends inner test) (.conditional test.value yes no) rest := by
  obtain ⟨r, readYes, rfl, yes_rest⟩ := readYes
  obtain ⟨r', readNo, rfl, rfl⟩ := readNo
  unfold branches
  split
  · rename_i question' tail'' rest_eq'
    obtain ⟨rfl, rfl⟩ := List.cons.inj (rest_eq.symm.trans rest_eq')
    rw [if_pos isQuestion, readYes]
    simp only [bind, Except.bind]
    split
    · rename_i colon' tail''' yes_rest'
      obtain ⟨rfl, rfl⟩ := List.cons.inj (yes_rest.symm.trans yes_rest')
      rw [if_pos isColon, readNo]
      exact ⟨_, rfl, rfl, rfl⟩
    · rename_i yes_rest'
      rw [yes_rest] at yes_rest'
      cases yes_rest'
  · rename_i rest_eq'
    rw [rest_eq] at rest_eq'
    cases rest_eq'

lemma gives_closeParen {r : Reading Expr input} {close : Token} (rest_eq : r.rest = close :: rest)
    (isClose : close.kind = .rightParen) : Gives (closeParen ends r) r.value rest := by
  unfold closeParen
  split
  · rename_i close' rest' rest_eq'
    obtain ⟨rfl, rfl⟩ := List.cons.inj (rest_eq.symm.trans rest_eq')
    rw [if_pos isClose]
    exact ⟨_, rfl, rfl, rfl⟩
  · rename_i rest_eq'
    rw [rest_eq] at rest_eq'
    cases rest_eq'

/-- The last argument stands in front of a closing parenthesis. -/
lemma gives_lastArgument {inner : Part} {close : Token} {e : Expr}
    (read : Gives (inner input) e (close :: rest)) (isClose : close.kind = .rightParen) :
    Gives (argumentsRest ends inner input) [e] rest := by
  obtain ⟨r, read, rfl, rest_eq⟩ := read
  rw [argumentsRest, read]
  simp only [bind, Except.bind]
  split
  · rename_i rest_eq'
    rw [rest_eq] at rest_eq'
    cases rest_eq'
  · rename_i close' rest' rest_eq'
    obtain ⟨rfl, rfl⟩ := List.cons.inj (rest_eq.symm.trans rest_eq')
    simp only [if_pos isClose]
    exact ⟨_, rfl, rfl, rfl⟩

/-- Any other argument stands in front of a comma. -/
lemma gives_moreArguments {inner : Part} {comma : Token} {tail : List Token} {e : Expr}
    {es : List Expr} (read : Gives (inner input) e (comma :: tail)) (isComma : comma.kind = .comma)
    (more : Gives (argumentsRest ends inner tail) es rest) :
    Gives (argumentsRest ends inner input) (e :: es) rest := by
  obtain ⟨r, read, rfl, rest_eq⟩ := read
  obtain ⟨r', more, rfl, rfl⟩ := more
  rw [argumentsRest, read]
  simp only [bind, Except.bind]
  split
  · rename_i rest_eq'
    rw [rest_eq] at rest_eq'
    cases rest_eq'
  · rename_i comma' tail' rest_eq'
    obtain ⟨rfl, rfl⟩ := List.cons.inj (rest_eq.symm.trans rest_eq')
    simp only [isComma, reduceCtorEq, if_false, if_true, more]
    exact ⟨_, rfl, rfl, rfl⟩

/-! ## What it means to read a phrase completely -/

/-- The parser reads this phrase to its end, whatever stands in front of it has been read and
whatever closing rest follows. -/
def Complete (ends : Ends) (d : Nat) (ts : List TokenKind) (e : Expr) : Phrase → Prop
  | .conditional => ∀ input rest, Begins input ts rest → Closes rest →
      Gives (conditional ends d input) e rest
  | .chain k => ∀ input rest, Begins input ts rest → Stops (k + 1) rest →
      ∃ acc : Reading Expr input, ladder ends d k input =
          chain (operatorsAt k) (ladder ends d (k + 1)) acc ∧
        acc.value = e ∧ acc.rest = rest
  | .signed => ∀ input rest, Begins input ts rest → Stops 6 rest →
      Gives (unary ends d input) e rest
  | .path => ∀ input rest, Begins input ts rest → NotCalled rest →
      ∃ acc : Reading Expr input, postfixed ends (conditional ends d) input = members acc ∧
        acc.value = e ∧ acc.rest = rest
  | .primary => ∀ input rest, Begins input ts rest → NotCalled rest →
      Gives (primary ends (conditional ends d) input) e rest
  | .arguments function => ∀ input close rest, Begins input ts (close :: rest) →
      close.kind = .rightParen →
      ∃ args, e = .call function args ∧ Gives (argumentsRest ends (conditional ends d) input) args rest

namespace Complete

/-- Operators of strength `k` and above are read to the end where the rest stops them. -/
lemma gives_ladder (h : Complete ends d ts e (.chain k)) (begins : Begins input ts rest)
    (stops : Stops k rest) : Gives (ladder ends d k input) e rest := by
  obtain ⟨acc, read, value_eq, rest_eq⟩ := h input rest begins (stops.mono (Nat.le_succ k))
  refine ⟨acc, ?_, value_eq, rest_eq⟩
  rw [read, chain_of_stops (rest_eq ▸ stops)]

lemma tighter (h : Complete ends d ts e (.chain (k + 1))) : Complete ends d ts e (.chain k) := by
  intro input rest begins stops
  obtain ⟨acc, read, value_eq, rest_eq⟩ := h.gives_ladder begins stops
  refine ⟨acc, ?_, value_eq, rest_eq⟩
  rcases Nat.lt_or_ge k 6 with low | high
  · rw [ladder_eq_leftGrouped low, leftGrouped, read]
    rfl
  · -- There are no operators of strength `6` and above to go on with.
    have weak : Stops k acc.rest := by
      intro t ht
      obtain ⟨dot, paren, -⟩ := stops t (rest_eq ▸ ht)
      exact ⟨dot, paren, fun op _ => Nat.lt_of_lt_of_le (strength_lt op) high⟩
    rw [ladder_eq_unary high, ← ladder_eq_unary (Nat.le_succ_of_le high), read,
      chain_of_stops weak]

lemma operation {op : BinaryOp} {t : TokenKind} {us : List TokenKind} {l r : Expr}
    (left : Complete ends d ts l (.chain (strength op))) (spells : Spells op t)
    (right : Complete ends d us r (.chain (strength op + 1))) :
    Complete ends d (ts ++ t :: us) (.binary op l r) (.chain (strength op)) := by
  intro input rest begins stops
  obtain ⟨mid, beginsLeft, begins⟩ := begins_append.1 begins
  obtain ⟨tok, tail, rfl, rfl, beginsRight⟩ := begins_cons.1 begins
  have stopsLeft : Stops (strength op + 1) (tok :: tail) := by
    intro tok' h
    obtain rfl := Option.some.inj h
    refine ⟨?_, ?_, ?_⟩
    · intro isDot
      rw [isDot] at spells
      cases spells
    · intro isParen
      rw [isParen] at spells
      cases spells
    · intro op' spells'
      rw [spells.unique spells' rfl]
      exact Nat.lt_succ_self _
  obtain ⟨acc, read, value_eq, rest_eq⟩ := left input _ beginsLeft stopsLeft
  obtain ⟨right', read', value_eq', rest_eq'⟩ := right.gives_ladder beginsRight stops
  obtain ⟨acc', round, value_acc, rest_acc⟩ :=
    chain_step rest_eq ((findsOperators_at _ _ _).2 ⟨spells, rfl⟩) read'
  exact ⟨acc', read.trans round, by rw [value_acc, value_eq, value_eq'], rest_acc.trans rest_eq'⟩

lemma operand (h : Complete ends d ts e .signed) : Complete ends d ts e (.chain 6) := by
  intro input rest begins stops
  have weak : Stops 6 rest := by
    intro t ht
    obtain ⟨dot, paren, -⟩ := stops t ht
    exact ⟨dot, paren, fun op _ => strength_lt op⟩
  obtain ⟨acc, read, value_eq, rest_eq⟩ := h input rest begins weak
  refine ⟨acc, ?_, value_eq, rest_eq⟩
  rw [ladder_eq_unary (Nat.le_refl 6), read, chain_of_stops (rest_eq ▸ weak)]

/-- A test is read to its end, with the branches still to come or not. -/
lemma read_test (h : Complete ends d ts e (.chain 0)) (begins : Begins input ts rest)
    (stops : Stops 0 rest) :
    ∃ test : Reading Expr input, conditional ends (d + 1) input =
        branches ends (conditional ends d) test ∧
      test.value = e ∧ test.rest = rest := by
  obtain ⟨test, read, value_eq, rest_eq⟩ := h.gives_ladder begins stops
  refine ⟨test, ?_, value_eq, rest_eq⟩
  simp only [conditional]
  rw [show operatorLevels.foldr leftGrouped (unary ends d) = ladder ends d 0 from rfl, read]
  rfl

lemma untested (h : Complete ends d ts e (.chain 0)) :
    Complete ends (d + 1) ts e .conditional := by
  intro input rest begins closes
  obtain ⟨test, read, value_eq, rest_eq⟩ := h.read_test begins (closes.stops 0)
  refine ⟨test, ?_, value_eq, rest_eq⟩
  rw [read]
  unfold branches
  split
  · rename_i t tail rest_eq'
    rw [if_neg (closes t (by simp [← rest_eq, rest_eq'])).2.2.1]
  · rfl

lemma tested {us vs : List TokenKind} {test yes no : Expr}
    (hTest : Complete ends d ts test (.chain 0)) (hYes : Complete ends d us yes .conditional)
    (hNo : Complete ends d vs no .conditional) :
    Complete ends (d + 1) (ts ++ .question :: (us ++ .colon :: vs)) (.conditional test yes no)
      .conditional := by
  intro input rest begins closes
  obtain ⟨mid, beginsTest, begins⟩ := begins_append.1 begins
  obtain ⟨question, tail, rfl, isQuestion, begins⟩ := begins_cons.1 begins
  obtain ⟨mid', beginsYes, begins⟩ := begins_append.1 begins
  obtain ⟨colon, tail', rfl, isColon, beginsNo⟩ := begins_cons.1 begins
  obtain ⟨test', read, rfl, rest_eq⟩ := hTest.read_test beginsTest (stops_question isQuestion tail)
  rw [read]
  exact gives_branches rest_eq isQuestion
    (hYes _ _ beginsYes (closes_cons (.inl isColon) tail')) isColon (hNo _ _ beginsNo closes)

lemma sign {op : UnaryOp} {t : TokenKind} (spells : SpellsSign op t)
    (h : Complete ends d ts e .signed) :
    Complete ends (d + 1) (t :: ts) (.unary op e) .signed := by
  intro input rest begins stops
  obtain ⟨tok, tail, rfl, rfl, beginsTail⟩ := begins_cons.1 begins
  obtain ⟨r, read, rfl, rfl⟩ := h tail rest beginsTail stops
  simp only [unary, signOf_eq_some_iff.2 spells, read]
  exact ⟨_, rfl, rfl, rfl⟩

lemma unsigned (derives : Derives d .path ts e) (h : Complete ends d ts e .path) :
    Complete ends (d + 1) ts e .signed := by
  intro input rest begins stops
  obtain ⟨acc, read, value_eq, rest_eq⟩ := h input rest begins stops.notCalled
  refine ⟨acc, ?_, value_eq, rest_eq⟩
  have closed : members acc = .ok acc :=
    members_of_stops fun t ht => (stops t (rest_eq ▸ ht)).1
  obtain ⟨k, us, rfl, -⟩ := derives.exists_eq_cons
  obtain ⟨t, tail, rfl, rfl, -⟩ := begins_cons.1 begins
  have no_sign : signOf t.kind = none := by
    cases found : signOf t.kind with
    | none => rfl
    | some op => exact absurd (signOf_eq_some_iff.1 found) (derives.not_spellsSign (.inl rfl) rfl op)
  simp only [unary, no_sign]
  rw [read, closed]

lemma start (h : Complete ends d ts e .primary) : Complete ends d ts e .path := by
  intro input rest begins notCalled
  obtain ⟨acc, read, value_eq, rest_eq⟩ := h input rest begins notCalled
  refine ⟨acc, ?_, value_eq, rest_eq⟩
  rw [postfixed, read]
  rfl

lemma member {t : TokenKind} {segment : String} (spells : SpellsSegment segment t)
    (h : Complete ends d ts e .path) :
    Complete ends d (ts ++ [.dot, t]) (.member e segment) .path := by
  intro input rest begins notCalled
  obtain ⟨mid, beginsBase, begins⟩ := begins_append.1 begins
  obtain ⟨dot, tail, rfl, isDot, begins⟩ := begins_cons.1 begins
  obtain ⟨tok, tail', rfl, rfl, ends_⟩ := begins_cons.1 begins
  obtain rfl := begins_nil.1 ends_
  have notCalledBase : NotCalled (dot :: tok :: tail') := by
    intro t ht
    obtain rfl := Option.some.inj ht
    rw [isDot]
    nofun
  obtain ⟨acc, read, rfl, rest_eq⟩ := h input _ beginsBase notCalledBase
  obtain ⟨acc', round, value_acc, rest_acc⟩ :=
    members_step rest_eq isDot (segmentOf_eq_some_iff.2 spells)
  exact ⟨acc', read.trans round, value_acc, rest_acc⟩

/-- A literal or a reference to a state variable or a field is a token of its own. -/
lemma token {k : TokenKind} (read : ∀ (t : Token) (tail : List Token), t.kind = k →
    Gives (Parser.primary ends (conditional ends d) (t :: tail)) e tail) :
    Complete ends d [k] e .primary := by
  intro input rest begins _
  obtain ⟨t, tail, rfl, isKind, ends_⟩ := begins_cons.1 begins
  obtain rfl := begins_nil.1 ends_
  exact read t tail isKind

/-- What begins with a word is left to `word`. -/
lemma gives_primary_of_word {t : Token} {tail : List Token} {name : String}
    (isName : t.kind = .ident name) {r : { r : Expr × List Token // r.2.length ≤ tail.length }}
    (read : word ends (conditional ends d) t.offset name tail = .ok r) :
    Gives (Parser.primary ends (conditional ends d) (t :: tail)) r.1.1 r.1.2 := by
  simp only [Parser.primary, isName]
  rw [read]
  exact ⟨_, rfl, rfl, rfl⟩

lemma constant {name : String} {v : Value}
    (constant : name = "true" ∧ v = .bool true ∨ name = "false" ∧ v = .bool false ∨
      name = "null" ∧ v = .null) : Complete ends d [.ident name] (.literal v) .primary := by
  refine token fun t tail isName => ?_
  rcases constant with ⟨rfl, rfl⟩ | ⟨rfl, rfl⟩ | ⟨rfl, rfl⟩
  · exact gives_primary_of_word isName (r := ⟨(_, tail), Nat.le_refl _⟩) rfl
  · exact gives_primary_of_word isName (r := ⟨(_, tail), Nat.le_refl _⟩) rfl
  · exact gives_primary_of_word isName (r := ⟨(_, tail), Nat.le_refl _⟩) rfl

/-- A word that is no keyword is the name of a value, unless it stands in front of parentheses. -/
lemma word_of_notCalled {name : String} (free : name ∉ keywords) (offset : Nat)
    {tail : List Token} (notCalled : NotCalled tail) :
    word ends (conditional ends d) offset name tail =
      .ok ⟨(.ident name, tail), Nat.le_refl _⟩ := by
  have unreserved : name ∉ reserved := fun h => free (mem_reserved_iff.1 h)
  simp only [keywords, List.mem_cons, List.not_mem_nil, or_false, not_or] at free
  unfold word
  rw [if_neg free.2.2.2.1, if_neg free.2.2.2.2.1, if_neg free.2.2.2.2.2, if_neg unreserved]
  cases tail with
  | nil => rfl
  | cons t tail => exact if_neg (notCalled t rfl)

/-- A word that is no keyword is the name of a function in front of parentheses. -/
lemma word_of_called {name : String} (free : name ∉ keywords) (offset : Nat) {paren : Token}
    (isOpen : paren.kind = .leftParen) {tail : List Token} {args : Reading (List Expr) tail}
    (read : Parser.arguments ends (conditional ends d) tail = .ok args) :
    word ends (conditional ends d) offset name (paren :: tail) =
      .ok ⟨(.call name args.value, args.rest),
        Nat.le_succ_of_le (Nat.le_of_lt args.shorter)⟩ := by
  have unreserved : name ∉ reserved := fun h => free (mem_reserved_iff.1 h)
  simp only [keywords, List.mem_cons, List.not_mem_nil, or_false, not_or] at free
  unfold word
  rw [if_neg free.2.2.2.1, if_neg free.2.2.2.2.1, if_neg free.2.2.2.2.2, if_neg unreserved]
  simp only [if_pos isOpen, read]
  rfl

lemma name {name : String} (free : name ∉ keywords) :
    Complete ends d [.ident name] (.ident name) .primary := by
  intro input rest begins notCalled
  obtain ⟨t, tail, rfl, isName, ends_⟩ := begins_cons.1 begins
  obtain rfl := begins_nil.1 ends_
  exact gives_primary_of_word isName (word_of_notCalled free _ notCalled)

/-- A name in front of parentheses calls a function. -/
lemma gives_call {name : String} (free : name ∉ keywords) {t paren : Token} {tail : List Token}
    (isName : t.kind = .ident name) (isOpen : paren.kind = .leftParen) {args : List Expr}
    (read : Gives (Parser.arguments ends (conditional ends d) tail) args rest) :
    Gives (Parser.primary ends (conditional ends d) (t :: paren :: tail)) (.call name args)
      rest := by
  obtain ⟨r, read, rfl, rfl⟩ := read
  exact gives_primary_of_word isName (word_of_called free _ isOpen read)

lemma callEmpty {name : String} (free : name ∉ keywords) :
    Complete ends d [.ident name, .leftParen, .rightParen] (.call name []) .primary := by
  intro input rest begins _
  obtain ⟨t, tail, rfl, isName, begins⟩ := begins_cons.1 begins
  obtain ⟨paren, tail, rfl, isOpen, begins⟩ := begins_cons.1 begins
  obtain ⟨close, tail, rfl, isClose, ends_⟩ := begins_cons.1 begins
  obtain rfl := begins_nil.1 ends_
  refine gives_call free isName isOpen ?_
  simp only [Parser.arguments, if_pos isClose]
  exact ⟨_, rfl, rfl, rfl⟩

lemma call {name : String} (free : name ∉ keywords) (derives : Derives d (.arguments name) ts e)
    (h : Complete ends d ts e (.arguments name)) :
    Complete ends d (.ident name :: .leftParen :: (ts ++ [.rightParen])) e .primary := by
  intro input rest begins _
  obtain ⟨t, tail, rfl, isName, begins⟩ := begins_cons.1 begins
  obtain ⟨paren, tail, rfl, isOpen, begins⟩ := begins_cons.1 begins
  obtain ⟨mid, beginsArgs, begins⟩ := begins_append.1 begins
  obtain ⟨close, tail', rfl, isClose, ends_⟩ := begins_cons.1 begins
  obtain rfl := begins_nil.1 ends_
  obtain ⟨args, rfl, read⟩ := h tail close tail' beginsArgs isClose
  refine gives_call free isName isOpen ?_
  obtain ⟨k, us, rfl, notClose⟩ := derives.exists_eq_cons
  obtain ⟨first, others, rfl, rfl, -⟩ := begins_cons.1 beginsArgs
  rw [Parser.arguments, if_neg notClose]
  exact read

lemma parens (h : Complete ends d ts e .conditional) :
    Complete ends d (.leftParen :: (ts ++ [.rightParen])) e .primary := by
  intro input rest begins _
  obtain ⟨t, tail, rfl, isOpen, begins⟩ := begins_cons.1 begins
  obtain ⟨mid, beginsInner, begins⟩ := begins_append.1 begins
  obtain ⟨close, tail', rfl, isClose, ends_⟩ := begins_cons.1 begins
  obtain rfl := begins_nil.1 ends_
  obtain ⟨r, read, rfl, rest_eq⟩ := h tail _ beginsInner (closes_cons (.inr (.inr isClose)) _)
  have closing : Gives (closeParen ends r) r.value tail' := gives_closeParen rest_eq isClose
  obtain ⟨r', closed, value_eq, rest_eq'⟩ := closing
  simp only [Parser.primary, isOpen, read]
  simp only [bind, Except.bind, closed]
  exact ⟨_, rfl, value_eq, rest_eq'⟩

lemma lastArgument {function : String} (h : Complete ends d ts e .conditional) :
    Complete ends d ts (.call function [e]) (.arguments function) := by
  intro input close rest begins isClose
  exact ⟨[e], rfl,
    gives_lastArgument (h input _ begins (closes_cons (.inr (.inr isClose)) rest)) isClose⟩

lemma moreArguments {function : String} {us : List TokenKind} {es : List Expr}
    (first : Complete ends d ts e .conditional)
    (more : Complete ends d us (.call function es) (.arguments function)) :
    Complete ends d (ts ++ .comma :: us) (.call function (e :: es)) (.arguments function) := by
  intro input close rest begins isClose
  obtain ⟨mid, beginsFirst, begins⟩ := begins_append.1 begins
  obtain ⟨comma, tail, rfl, isComma, beginsMore⟩ := begins_cons.1 begins
  obtain ⟨args, same, read⟩ := more tail close rest beginsMore isClose
  cases same
  exact ⟨e :: es, rfl, gives_moreArguments
    (first input _ beginsFirst (closes_cons (.inr (.inl isComma)) tail)) isComma read⟩

end Complete

/-- Every phrase that the grammar derives is read completely. -/
theorem complete {phrase : Phrase} (h : Derives d phrase ts e) : Complete ends d ts e phrase := by
  induction h with
  | untested _ ih => exact ih.untested
  | tested _ _ _ ihTest ihYes ihNo => exact ihTest.tested ihYes ihNo
  | tighter _ ih => exact ih.tighter
  | operation _ spells _ ihLeft ihRight => exact ihLeft.operation spells ihRight
  | operand _ ih => exact ih.operand
  | sign spells _ ih => exact ih.sign spells
  | unsigned derives ih => exact ih.unsigned derives
  | start _ ih => exact ih.start
  | member _ spells ih => exact ih.member spells
  | number x =>
    refine Complete.token fun t tail isKind => ?_
    simp only [primary, isKind]
    exact ⟨_, rfl, rfl, rfl⟩
  | string s =>
    refine Complete.token fun t tail isKind => ?_
    simp only [primary, isKind]
    exact ⟨_, rfl, rfl, rfl⟩
  | state name =>
    refine Complete.token fun t tail isKind => ?_
    simp only [primary, isKind]
    exact ⟨_, rfl, rfl, rfl⟩
  | field name =>
    refine Complete.token fun t tail isKind => ?_
    simp only [primary, isKind]
    exact ⟨_, rfl, rfl, rfl⟩
  | true => exact Complete.constant (.inl ⟨rfl, rfl⟩)
  | false => exact Complete.constant (.inr (.inl ⟨rfl, rfl⟩))
  | null => exact Complete.constant (.inr (.inr ⟨rfl, rfl⟩))
  | name free => exact Complete.name free
  | callEmpty free => exact Complete.callEmpty free
  | call free derives ih => exact ih.call free derives
  | parens _ ih => exact ih.parens
  | lastArgument _ ih => exact ih.lastArgument
  | moreArguments _ _ ihFirst ihMore => exact ihFirst.moreArguments ihMore

end Reflex.Parser

namespace Reflex

open Grammar

/-- A parser for whole token lists accepts what the grammar derives. -/
lemma Parser.ofTokens_eq_ok_iff {tokens : Tokens} {e : Expr} :
    Expr.ofTokens tokens = .ok e ↔
      Derives maxNesting .conditional (tokens.list.map Token.kind) e := by
  refine ⟨derives_of_ofTokens, fun derives => ?_⟩
  have nonempty : ¬ tokens.list.isEmpty := by
    obtain ⟨t, us, split, -⟩ := derives.exists_eq_cons
    intro empty
    rw [List.isEmpty_iff.1 empty] at split
    cases split
  have complete : Complete ⟨tokens.stop, tokens.lastOffset⟩ maxNesting _ e .conditional :=
    Parser.complete derives
  have begins : Begins tokens.list (tokens.list.map Token.kind) [] := by
    simpa using begins_map tokens.list []
  obtain ⟨r, read, rfl, rest_eq⟩ := complete tokens.list [] begins closes_nil
  rw [Expr.ofTokens, if_neg nonempty]
  refine bind_eq_ok_iff.2 ⟨r, read, ?_⟩
  rw [if_pos (List.isEmpty_iff.2 rest_eq)]
  rfl

/-- The tokens of a phrase determine its tree, however many levels may be open. -/
lemma Grammar.Derives.unique {d d' : Nat} {ts : List TokenKind} {e e' : Expr}
    (h : Derives d .conditional ts e) (h' : Derives d' .conditional ts e') : e = e' := by
  let tokens : List Token := ts.map fun k => ⟨k, 0, []⟩
  have begins : Parser.Begins tokens ts [] := ⟨tokens, by simp, by simp [tokens, Function.comp_def]⟩
  have complete : Parser.Complete ⟨0, 0⟩ (max d d') ts e .conditional :=
    Parser.complete (h.mono (Nat.le_max_left d d'))
  have complete' : Parser.Complete ⟨0, 0⟩ (max d d') ts e' .conditional :=
    Parser.complete (h'.mono (Nat.le_max_right d d'))
  obtain ⟨r, read, rfl, -⟩ := complete tokens [] begins closes_nil
  obtain ⟨r', read', rfl, -⟩ := complete' tokens [] begins closes_nil
  obtain rfl := Except.ok.inj (read.symm.trans read')
  rfl

/-- No expression goes on behind its end with a token that closes it. -/
lemma Grammar.Derives.not_derives_append {d d' : Nat} {ts us : List TokenKind} {k : TokenKind}
    {e e' : Expr} (h : Derives d .conditional ts e) (closes : Closes [⟨k, 0, []⟩]) :
    ¬ Derives d' .conditional (ts ++ k :: us) e' := by
  intro h'
  let tokens : List TokenKind → List Token := List.map (⟨·, 0, []⟩)
  have kinds (ts : List TokenKind) : (tokens ts).map Token.kind = ts := by
    simp [tokens, Function.comp_def]
  have split : tokens (ts ++ k :: us) = tokens ts ++ ⟨k, 0, []⟩ :: tokens us := List.map_append
  have complete : Parser.Complete ⟨0, 0⟩ (max d d') ts e .conditional :=
    Parser.complete (h.mono (Nat.le_max_left d d'))
  have complete' : Parser.Complete ⟨0, 0⟩ (max d d') (ts ++ k :: us) e' .conditional :=
    Parser.complete (h'.mono (Nat.le_max_right d d'))
  obtain ⟨r, read, -, rest⟩ := complete (tokens (ts ++ k :: us)) (⟨k, 0, []⟩ :: tokens us)
    ⟨tokens ts, split, kinds ts⟩ closes
  obtain ⟨r', read', -, rest'⟩ := complete' (tokens (ts ++ k :: us)) []
    ⟨_, (List.append_nil _).symm, kinds _⟩ closes_nil
  obtain rfl := Except.ok.inj (read.symm.trans read')
  cases rest.symm.trans rest'

/-- **The parser accepts exactly its grammar.**  A source text that can be cut into tokens parses
to a tree just when the grammar derives the tree from its tokens with at most `maxNesting` levels
open at once; and no list of tokens derives two different trees, whatever number of levels is
allowed. -/
theorem parse_eq_ok_iff_derives {source : String} {tokens : Tokens}
    (tokenizes : Tokens.ofSource source = .ok tokens) :
    (∀ e, Expr.parse source = .ok e ↔
      Derives maxNesting .conditional (tokens.list.map Token.kind) e) ∧
    ∀ (ts : List TokenKind) (d d' : Nat) (e e' : Expr),
      Derives d .conditional ts e → Derives d' .conditional ts e' → e = e' := by
  refine ⟨fun e => ?_, fun ts d d' e e' h h' => h.unique h'⟩
  rw [← Parser.ofTokens_eq_ok_iff, Expr.parse, tokenizes]
  constructor
  · intro h
    split at h
    · rename_i e' parses
      cases h
      exact parses
    · cases h
  · intro h
    rw [show (Except.ok tokens >>= Expr.ofTokens) = Expr.ofTokens tokens from rfl, h]

/-- The word `or` is a segment after a point and an operator elsewhere. -/
theorem derives_or_as_segment_and_operator :
    Tokens.ofSource "a.or or not b" = .ok
      ⟨[⟨.ident "a", 0, ['a']⟩, ⟨.dot, 1, ['.']⟩, ⟨.ident "or", 2, ['o', 'r']⟩,
        ⟨.ident "or", 5, ['o', 'r']⟩, ⟨.ident "not", 8, ['n', 'o', 't']⟩,
        ⟨.ident "b", 12, ['b']⟩], 13⟩ ∧
    Derives maxNesting .conditional
      [.ident "a", .dot, .ident "or", .ident "or", .ident "not", .ident "b"]
      (.binary .or (.member (.ident "a") "or") (.unary .not (.ident "b"))) := by
  have tokenizes : Tokens.ofSource "a.or or not b" = .ok
      ⟨[⟨.ident "a", 0, ['a']⟩, ⟨.dot, 1, ['.']⟩, ⟨.ident "or", 2, ['o', 'r']⟩,
        ⟨.ident "or", 5, ['o', 'r']⟩, ⟨.ident "not", 8, ['n', 'o', 't']⟩,
        ⟨.ident "b", 12, ['b']⟩], 13⟩ := by decide +kernel
  have parses : Expr.parse "a.or or not b" =
      .ok (.binary .or (.member (.ident "a") "or") (.unary .not (.ident "b"))) := by decide +kernel
  exact ⟨tokenizes, ((parse_eq_ok_iff_derives tokenizes).1 _).1 parses⟩

end Reflex
