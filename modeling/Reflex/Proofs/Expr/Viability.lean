import Mathlib.Data.Nat.SuccPred
import Mathlib.Tactic.IntervalCases
import Reflex.Proofs.Expr.Prompt

/-!
# Faults are reported at the first offending token

Tokens are viable if they can be continued to an expression.  When the parser fails, it has read
viable tokens, and with the next one they are viable no more: that token is where the fault is
reported.

Two facts make this up.  Whatever a function of the parser has accepted before it fails has a
completion, which is found by closing what is open.  And the function is prompt (`PromptAt`): it
fails on all tokens that begin in the same way, however many levels may be opened, while those of
an expression are all accepted (`Parser.complete`).

* `Grammar.Viable` says that tokens can be continued to a phrase.
* `Parser.prompt_levels` is the induction over the levels of the parser.
* `Expr.parse_fails_at_first_offending_token` is the main result.
-/

namespace Reflex

namespace Grammar

/-! ## Tokens that can be continued -/

/-- Whether tokens make up a phrase, with any number of levels open at once. -/
def Derivable (phrase : Phrase) (ts : List TokenKind) : Prop :=
  ∃ d e, Derives d phrase ts e

/-- Whether tokens can be continued to a phrase. -/
def Viable (phrase : Phrase) (ts : List TokenKind) : Prop :=
  ∃ more, Derivable phrase (ts ++ more)

variable {phrase phrase' : Phrase} {ts us vs : List TokenKind} {k : TokenKind}

lemma Derives.derivable {d : Nat} {e : Expr} (h : Derives d phrase ts e) : Derivable phrase ts :=
  ⟨d, e, h⟩

namespace Derivable

lemma untested : Derivable (.chain 0) ts → Derivable .conditional ts :=
  fun ⟨_, _, h⟩ => (Derives.untested h).derivable

lemma tighter {level : Nat} : Derivable (.chain (level + 1)) ts → Derivable (.chain level) ts :=
  fun ⟨_, _, h⟩ => h.tighter.derivable

lemma operand : Derivable .signed ts → Derivable (.chain 6) ts :=
  fun ⟨_, _, h⟩ => h.operand.derivable

lemma sign {op : UnaryOp} (spells : SpellsSign op k) :
    Derivable .signed ts → Derivable .signed (k :: ts) :=
  fun ⟨_, _, h⟩ => (h.sign spells).derivable

lemma unsigned : Derivable .path ts → Derivable .signed ts :=
  fun ⟨_, _, h⟩ => h.unsigned.derivable

lemma start : Derivable .primary ts → Derivable .path ts :=
  fun ⟨_, _, h⟩ => h.start.derivable

lemma member {segment : String} (spells : SpellsSegment segment k) :
    Derivable .path ts → Derivable .path (ts ++ [.dot, k]) :=
  fun ⟨_, _, h⟩ => (h.member spells).derivable

lemma parens : Derivable .conditional ts →
    Derivable .primary (.leftParen :: (ts ++ [.rightParen])) :=
  fun ⟨_, _, h⟩ => h.parens.derivable

lemma call {name : String} (free : name ∉ keywords) : Derivable (.arguments name) ts →
    Derivable .primary (.ident name :: .leftParen :: (ts ++ [.rightParen])) :=
  fun ⟨_, _, h⟩ => (h.call free).derivable

lemma lastArgument {name : String} : Derivable .conditional ts → Derivable (.arguments name) ts :=
  fun ⟨_, _, h⟩ => (h.lastArgument).derivable

/-- A constant that can stand for whatever is missing. -/
lemma null : Derivable .primary [.ident "null"] :=
  ⟨0, _, .null⟩

lemma null_conditional : Derivable .conditional [.ident "null"] :=
  null.start.unsigned.operand.tighter.tighter.tighter.tighter.tighter.tighter.untested

lemma operation {op : BinaryOp} (spells : Spells op k) :
    Derivable (.chain (strength op)) ts → Derivable (.chain (strength op + 1)) us →
      Derivable (.chain (strength op)) (ts ++ k :: us) :=
  fun ⟨_, _, left⟩ ⟨_, _, right⟩ =>
    ((left.mono (Nat.le_max_left ..)).operation spells
      (right.mono (Nat.le_max_right ..))).derivable

lemma tested : Derivable (.chain 0) ts → Derivable .conditional us → Derivable .conditional vs →
    Derivable .conditional (ts ++ .question :: (us ++ .colon :: vs)) :=
  fun ⟨a, _, test⟩ ⟨b, _, yes⟩ ⟨c, _, no⟩ =>
    ((test.mono (show a ≤ a + b + c by omega)).tested (yes.mono (by omega))
      (no.mono (by omega))).derivable

lemma moreArguments {name : String} : Derivable .conditional ts → Derivable (.arguments name) us →
    Derivable (.arguments name) (ts ++ .comma :: us) := by
  rintro ⟨_, _, first⟩ ⟨_, e, more⟩
  have call : ∃ es, e = .call name es := by cases more <;> exact ⟨_, rfl⟩
  obtain ⟨es, rfl⟩ := call
  exact ((first.mono (Nat.le_max_left ..)).moreArguments
    (more.mono (Nat.le_max_right ..))).derivable

lemma viable (h : Derivable phrase ts) : Viable phrase ts :=
  ⟨[], by rwa [List.append_nil]⟩

/-- The tokens of a phrase up to any place can be continued. -/
lemma viable_left (us : List TokenKind) (h : Derivable phrase (ts ++ us)) : Viable phrase ts :=
  ⟨us, h⟩

end Derivable

namespace Viable

/-- What can be continued inside of a phrase can be continued to the phrase. -/
lemma within (front back : List TokenKind) (h : Viable phrase ts)
    (whole : ∀ us, Derivable phrase us → Derivable phrase' (front ++ (us ++ back))) :
    Viable phrase' (front ++ ts) := by
  obtain ⟨more, derivable⟩ := h
  refine ⟨more ++ back, ?_⟩
  simpa using whole _ derivable

lemma map (h : Viable phrase ts) (whole : ∀ us, Derivable phrase us → Derivable phrase' us) :
    Viable phrase' ts :=
  h.imp fun _ => whole _

end Viable

end Grammar

namespace Parser

open Grammar

variable {d : Nat} {k : Nat} {ends : Ends} {operator : TokenKind → Option BinaryOp}
  {operand inner part : Part} {operand' inner' : Nat → Part} {front : List TokenKind}
  {phrase : Phrase} {ts used rest : List Token} {e : Expr}

/-- Whether a parser for a phrase fails at the first token with which there is no such phrase. -/
def Prompt (ends : Ends) (phrase : Phrase) (part : Part) (part' : Nat → Part) : Prop :=
  ∀ ts, PromptAt ends (fun used => Viable phrase (used.map Token.kind))
    (fun i ts' => plain (part' i ts')) ts (plain (part ts))

/-- What has been read makes up a phrase. -/
lemma Sound.derivable (sound : Sound d phrase part) (read : plain (part ts) = .ok (e, rest))
    (split : ts = used ++ rest) : Derivable phrase (used.map Token.kind) := by
  obtain ⟨r, result, same⟩ := map_eq_ok_iff.1 read
  cases same
  obtain ⟨used', split', derives⟩ := sound ts r result
  obtain rfl := List.append_cancel_right (split.symm.trans split')
  exact derives.derivable

/-! ## Loops -/

/-- A token on which a choice falls is the first of the rest. -/
lemma exists_cons_of_found {α : Type} {f : Token → Option α} (h : ¬ ∀ t ∈ ts.head?, f t = none) :
    ∃ t tail a, ts = t :: tail ∧ f t = some a := by
  cases ts with
  | nil => simp at h
  | cons t tail =>
    obtain ⟨a, found⟩ : ∃ a, f t = some a := by
      simpa [Option.ne_none_iff_exists'] using h
    exact ⟨t, tail, a, rfl, found⟩

/-- The loop over operators, when the tokens in front of it make up a left operand. -/
lemma promptAt_chainFrom (finds : FindsOperators k operator)
    (sound : Sound d (.chain (k + 1)) operand)
    (prompt : Prompt ends (.chain (k + 1)) operand operand') (left : Derivable (.chain k) front)
    (value : Expr) (rest : List Token) :
    PromptAt ends (fun used => Viable (.chain k) (front ++ used.map Token.kind))
      (fun i => chainFrom operator (operand' i) value) rest
      (chainFrom operator operand value rest) := by
  induction length : rest.length using Nat.strong_induction_on generalizing rest front value with
  | _ n ih =>
    subst length
    by_cases stops : ∀ t ∈ rest.head?, operator t.kind = none
    · rw [chainFrom_of_none stops]
      exact .done fun i ts' head => chainFrom_of_none (head ▸ stops)
    obtain ⟨t, tail, op, rfl, found⟩ := exists_cons_of_found stops
    obtain ⟨spells, rfl⟩ := (finds _ _).1 found
    refine .cons ?_
    simp only [chainFrom_cons found]
    refine .andThen (prompt tail) (fun used possible => ?_) fun right used rest read split => ?_
    · have whole := possible.within (front ++ [t.kind]) [] fun us right => by
        simpa using left.operation spells right
      simpa using whole
    · have both := left.operation spells (sound.derivable read split)
      have shorter : rest.length < (t :: tail).length := by
        simp only [split, List.length_cons, List.length_append]
        omega
      refine (ih _ shorter both _ rest rfl).weaken fun more possible => ?_
      simpa using possible

lemma prompt_leftGrouped (finds : FindsOperators k operator)
    (sound : Sound d (.chain (k + 1)) operand)
    (prompt : Prompt ends (.chain (k + 1)) operand operand') :
    Prompt ends (.chain k) (leftGrouped operator operand)
      fun i => leftGrouped operator (operand' i) := by
  intro ts
  simp only [plain_leftGrouped]
  refine .andThen (prompt ts) (fun used possible => possible.map fun us => .tighter)
    fun first used rest read split => ?_
  simpa using promptAt_chainFrom finds sound prompt (sound.derivable read split).tighter first rest

/-- A ladder of operators, whose lowest rung is at `k`, over signed operands. -/
lemma prompt_foldr (sound : Sound d .signed operand) (prompt : Prompt ends .signed operand operand')
    (operators : List (TokenKind → Option BinaryOp)) (k : Nat) (top : k + operators.length = 6)
    (finds : ∀ i (h : i < operators.length), FindsOperators (k + i) operators[i]) :
    Prompt ends (.chain k) (operators.foldr leftGrouped operand)
      fun i => operators.foldr leftGrouped (operand' i) := by
  induction operators generalizing k with
  | nil =>
    obtain rfl : k = 6 := top
    exact fun ts => (prompt ts).weaken fun used possible => possible.map fun us => .operand
  | cons operator operators ih =>
    have top' : k + 1 + operators.length = 6 := by
      rw [List.length_cons] at top
      omega
    exact prompt_leftGrouped (finds 0 (by simp))
      (sound_foldr sound operators (k + 1) top' (findsOperators_tail finds))
      (ih (k + 1) top' (findsOperators_tail finds))

/-- The loop over members, when the tokens in front of it make up a path. -/
lemma promptAt_membersFrom (base : Derivable .path front) (value : Expr) (rest : List Token) :
    PromptAt ends (fun used => Viable .path (front ++ used.map Token.kind))
      (fun _ => membersFrom value) rest (membersFrom value rest) := by
  induction length : rest.length using Nat.strong_induction_on generalizing rest front value with
  | _ n ih =>
    subst length
    by_cases stops : ∀ t ∈ rest.head?, t.kind ≠ .dot
    · rw [membersFrom_of_stops stops]
      exact .done fun i ts' head => membersFrom_of_stops (head ▸ stops)
    obtain ⟨dot, tail, rfl, isDot⟩ : ∃ dot tail, rest = dot :: tail ∧ dot.kind = .dot := by
      cases rest with
      | nil => simp at stops
      | cons t tail => exact ⟨t, tail, rfl, by simpa using stops⟩
    by_cases unnamed : ∀ t ∈ tail.head?, segmentOf t.kind = none
    · -- The fault is at what follows the point, or at the point if nothing does.
      rw [membersFrom_of_error isDot unnamed]
      refine .inr ⟨[dot], tail, rfl, ?_, ?_, fun i rest' head => ?_⟩
      · cases tail with
        | nil => exact .inr (.inr ⟨dot, rfl, rfl⟩)
        | cons t tail => exact rfl
      · refine Derivable.viable_left [.ident "x"] ?_
        simpa [isDot] using base.member (.name "x")
      · exact ⟨_, membersFrom_of_error isDot (head ▸ unnamed)⟩
    obtain ⟨t, tail, segment, rfl, found⟩ := exists_cons_of_found unnamed
    refine .cons (.cons ?_)
    simp only [membersFrom_cons isDot found]
    have longer := base.member (segmentOf_eq_some_iff.1 found)
    refine (ih tail.length (by simp) longer _ tail rfl).weaken fun used possible => ?_
    simpa [isDot] using possible

/-! ## Brackets -/

lemma promptAt_closeFrom (closed : Derivable phrase (front ++ [.rightParen])) (value : Expr)
    (rest : List Token) :
    PromptAt ends (fun used => Viable phrase (front ++ used.map Token.kind))
      (fun _ => closeFrom ends value) rest (closeFrom ends value rest) :=
  .expect (by simpa using closed.viable_left _) fun _ _ _ _ => .done fun _ _ _ => rfl

lemma promptAt_argumentsRest (sound : Sound d .conditional inner)
    (prompt : Prompt ends .conditional inner inner') (name : String) (ts : List Token) :
    PromptAt ends (fun used => Viable (.arguments name) (used.map Token.kind))
      (fun i ts' => plain (argumentsRest ends (inner' i) ts')) ts
      (plain (argumentsRest ends inner ts)) := by
  induction length : ts.length using Nat.strong_induction_on generalizing ts with
  | _ n ih =>
    subst length
    simp only [plain_argumentsRest]
    refine .andThen (prompt ts) (fun used possible => possible.map fun us => .lastArgument)
      fun first used rest read split => ?_
    have first_derivable := sound.derivable read split
    have more : PromptAt ends (fun more => Viable (.arguments name) ((used ++ more).map Token.kind))
        (fun i => moreFrom ends (inner' i) first) rest (moreFrom ends inner first rest) := by
      have only : Derivable (.arguments name) (used.map Token.kind) := first_derivable.lastArgument
      refine .expect (by simpa using only.viable) fun comma tail rest_eq isComma => ?_
      have shorter : tail.length < ts.length := by
        simp only [split, rest_eq, List.length_cons, List.length_append]
        omega
      refine .andThen (ih _ shorter tail rfl) (fun others possible => ?_)
        fun _ _ _ _ _ => .done fun _ _ _ => rfl
      have whole := possible.within (used.map Token.kind ++ [.comma]) [] fun us others => by
        simpa using first_derivable.moreArguments others
      simpa [isComma] using whole
    cases rest with
    | nil =>
      refine more.congr fun i ts' head => ?_
      obtain rfl := List.head?_eq_none_iff.1 head
      rfl
    | cons t tail =>
      by_cases isClose : t.kind = .rightParen
      · refine .cons ?_
        simp only [argumentsFrom, if_pos isClose]
        exact .done fun _ _ _ => rfl
      · rw [argumentsFrom, if_neg isClose]
        refine more.congr fun i ts' head => ?_
        obtain ⟨tail', rfl⟩ := List.head?_eq_some_iff.1 head
        exact if_neg isClose

lemma promptAt_arguments (sound : Sound d .conditional inner)
    (prompt : Prompt ends .conditional inner inner') (name : String) (ts : List Token) :
    PromptAt ends (fun used => Viable (.arguments name) (used.map Token.kind))
      (fun i ts' => plain (arguments ends (inner' i) ts')) ts
      (plain (arguments ends inner ts)) := by
  have rest : PromptAt ends _ _ ts _ := promptAt_argumentsRest sound prompt name ts
  cases ts with
  | nil =>
    refine rest.congr fun i ts' head => ?_
    obtain rfl := List.head?_eq_none_iff.1 head
    rfl
  | cons t tail =>
    by_cases isClose : t.kind = .rightParen
    · refine .cons ?_
      simp only [arguments, if_pos isClose]
      exact .done fun _ _ _ => rfl
    · rw [arguments, if_neg isClose]
      refine rest.congr fun i ts' head => ?_
      obtain ⟨tail', rfl⟩ := List.head?_eq_some_iff.1 head
      rw [arguments, if_neg isClose]

/-! ## Operands -/

lemma promptAt_nameFrom (sound : Sound d .conditional inner)
    (prompt : Prompt ends .conditional inner inner') {name : String} (free : name ∉ keywords)
    (ts : List Token) :
    PromptAt ends (fun used => Viable .primary (.ident name :: used.map Token.kind))
      (fun i => nameFrom ends (inner' i) name) ts (nameFrom ends inner name ts) := by
  cases ts with
  | nil =>
    refine .done fun i ts' head => ?_
    obtain rfl := List.head?_eq_none_iff.1 head
    rfl
  | cons t tail =>
    by_cases isOpen : t.kind = .leftParen
    · refine .cons ?_
      simp only [nameFrom, if_pos isOpen]
      refine .andThen (promptAt_arguments sound prompt name tail) (fun used possible => ?_)
        fun _ _ _ _ _ => .done fun _ _ _ => rfl
      have whole := possible.within [.ident name, .leftParen] [.rightParen] fun us args =>
        args.call free
      simpa [isOpen] using whole
    · simp only [nameFrom, if_neg isOpen]
      refine .done fun i ts' head => ?_
      obtain ⟨tail', rfl⟩ := List.head?_eq_some_iff.1 head
      exact if_neg isOpen

lemma prompt_primary (sound : Sound d .conditional inner)
    (prompt : Prompt ends .conditional inner inner') :
    Prompt ends .primary (primary ends inner) fun i => primary ends (inner' i) := by
  intro ts
  have possible : Viable .primary ([].map Token.kind) := Derivable.null.viable_left [_]
  cases ts with
  | nil =>
    refine .fail (.inr (.inl rfl)) possible fun i ts' head => ?_
    obtain rfl := List.head?_eq_none_iff.1 head
    exact ⟨_, rfl⟩
  | cons t tail =>
    -- What begins with a token that begins no operand fails at once.
    have refused (flaw : SourceFlaw) (points : flaw.offset = t.offset)
        (fails : ∀ inner ts, plain (primary ends inner (t :: ts)) = .error flaw) :
        PromptAt ends (fun used => Viable .primary (used.map Token.kind))
          (fun i ts' => plain (primary ends (inner' i) ts')) (t :: tail)
          (plain (primary ends inner (t :: tail))) := by
      rw [fails]
      refine .fail points possible fun i ts' head => ?_
      obtain ⟨tail', rfl⟩ := List.head?_eq_some_iff.1 head
      exact ⟨_, fails _ _⟩
    have alone (e : Expr)
        (reads : ∀ inner ts, plain (primary ends inner (t :: ts)) = .ok (e, ts)) :
        PromptAt ends (fun used => Viable .primary (used.map Token.kind))
          (fun i ts' => plain (primary ends (inner' i) ts')) (t :: tail)
          (plain (primary ends inner (t :: tail))) := by
      refine .cons ?_
      simp only [reads]
      exact .done fun _ _ _ => rfl
    cases kind : t.kind with
    | ident name =>
      rcases wordFrom_cases name with ⟨v, constant⟩ | keyword | ⟨free, isName⟩
      · exact alone _ fun inner ts => (plain_primary_ident kind ts).trans (constant ..)
      · exact refused _ rfl fun inner ts => (plain_primary_ident kind ts).trans (keyword ..)
      · refine .cons ?_
        simp only [plain_primary_ident kind, isName, List.map_cons, kind]
        exact promptAt_nameFrom sound prompt free tail
    | leftParen =>
      refine .cons ?_
      simp only [plain_primary_leftParen kind]
      refine .andThen (prompt tail) (fun used possible => ?_) fun value used rest read split => ?_
      · have whole := possible.within [.leftParen] [.rightParen] fun us inner =>
          inner.parens
        simpa [kind] using whole
      · have closed : Derivable .primary (.leftParen :: used.map Token.kind ++ [.rightParen]) :=
          (sound.derivable read split).parens
        simpa [kind] using promptAt_closeFrom closed value rest
    | number x =>
      exact alone (.literal (.ofExtended x)) fun _ _ => by simp only [primary, kind, plain_ok]
    | string s =>
      exact alone (.literal (.string s)) fun _ _ => by simp only [primary, kind, plain_ok]
    | state name => exact alone (.state name) fun _ _ => by simp only [primary, kind, plain_ok]
    | field name => exact alone (.field name) fun _ _ => by simp only [primary, kind, plain_ok]
    | _ =>
      exact refused ⟨t.offset, .unexpectedToken⟩ rfl fun _ _ => by
        simp only [primary, kind, plain_error]

lemma prompt_postfixed (sound : Sound d .conditional inner)
    (prompt : Prompt ends .conditional inner inner') :
    Prompt ends .path (postfixed ends inner) fun i => postfixed ends (inner' i) := by
  intro ts
  simp only [plain_postfixed]
  refine .andThen (prompt_primary sound prompt ts)
    (fun used possible => possible.map fun us => .start) fun first used rest read split => ?_
  simpa using promptAt_membersFrom ((sound_primary sound).derivable read split).start first rest

/-! ## The two levels that nest -/

/-- The branches of a conditional, when the tokens in front of them make up a test. -/
lemma promptAt_branchesFrom (sound : Sound d .conditional inner)
    (prompt : Prompt ends .conditional inner inner') (test_derivable : Derivable (.chain 0) front)
    (test : Expr) (rest : List Token) :
    PromptAt ends (fun used => Viable .conditional (front ++ used.map Token.kind))
      (fun i => branchesFrom ends (inner' i) test) rest (branchesFrom ends inner test rest) := by
  have null : Derivable .conditional [.ident "null"] := .null_conditional
  cases rest with
  | nil =>
    refine .done fun i ts' head => ?_
    obtain rfl := List.head?_eq_none_iff.1 head
    rfl
  | cons t tail =>
    by_cases isQuestion : t.kind = .question
    · refine .cons ?_
      simp only [branchesFrom, if_pos isQuestion]
      refine .andThen (prompt tail) (fun used possible => ?_) fun yes used rest read split => ?_
      · have whole := possible.within (front ++ [.question]) [.colon, .ident "null"]
          fun us yes => by simpa using test_derivable.tested yes null
        simpa [isQuestion] using whole
      · have yes_derivable := sound.derivable read split
        refine .expect ?_ fun colon tail' rest_eq isColon => ?_
        · refine Derivable.viable_left [.colon, .ident "null"] ?_
          simpa [isQuestion] using test_derivable.tested yes_derivable null
        · refine .andThen (prompt tail') (fun more possible => ?_)
            fun _ _ _ _ _ => .done fun _ _ _ => rfl
          have whole := possible.within
            (front ++ .question :: (used.map Token.kind ++ [.colon])) []
            fun us no => by simpa using test_derivable.tested yes_derivable no
          simpa [isQuestion, isColon] using whole
    · simp only [branchesFrom, if_neg isQuestion]
      refine .done fun i ts' head => ?_
      obtain ⟨tail', rfl⟩ := List.head?_eq_some_iff.1 head
      exact if_neg isQuestion

/-- The conditional and the signed operand are prompt together, since each reads the other inside of
itself.  The other parsers may open more levels. -/
lemma prompt_levels (d : Nat) :
    (Prompt ends .conditional (conditional ends d) fun i => conditional ends (d + i)) ∧
      Prompt ends .signed (unary ends d) fun i => unary ends (d + i) := by
  induction d with
  | zero => exact ⟨fun ts => .inl rfl, fun ts => .inl rfl⟩
  | succ d ih =>
    obtain ⟨promptConditional, promptUnary⟩ := ih
    have soundConditional : Sound d .conditional (conditional ends d) := (sound_levels d).1
    have soundUnary : Sound d .signed (unary ends d) := (sound_levels d).2
    simp only [Nat.add_right_comm d 1]
    refine ⟨fun ts => ?_, fun ts => ?_⟩
    · have promptLadder : Prompt ends (.chain 0) (ladder ends d 0) fun i => ladder ends (d + i) 0 :=
        prompt_foldr soundUnary promptUnary operatorLevels 0 rfl fun i h => by
          rw [Nat.zero_add]
          exact findsOperators_getElem i h
      simp only [plain_conditional]
      refine .andThen (promptLadder ts) (fun used possible => possible.map fun us => .untested)
        fun test used rest read split => ?_
      have derivable := Sound.derivable (sound_operatorLevels soundUnary) read split
      simpa using promptAt_branchesFrom soundConditional promptConditional derivable test rest
    · by_cases unsigned : ∀ t ∈ ts.head?, signOf t.kind = none
      · have path := prompt_postfixed soundConditional promptConditional ts
        rw [plain_unary_unsigned unsigned]
        exact (path.weaken fun used possible => possible.map fun us => .unsigned).congr
          fun i ts' head => plain_unary_unsigned (head ▸ unsigned) (d + i)
      · obtain ⟨t, tail, op, rfl, found⟩ := exists_cons_of_found unsigned
        refine .cons ?_
        simp only [plain_unary_sign found]
        refine .andThen (promptUnary tail) (fun used possible => ?_)
          fun _ _ _ _ _ => .done fun _ _ _ => rfl
        have whole := possible.within [t.kind] [] fun us signed => by
          simpa using signed.sign (signOf_eq_some_iff.1 found)
        simpa using whole

/-! ## The whole text -/

/-- The places that faults at the end of a text are reported at. -/
def endsOf (tokens : Tokens) : Ends :=
  ⟨tokens.stop, tokens.lastOffset⟩

/-- Whether none of the parsers with more levels reads `used` and a rest that begins as `rest` does
to the end. -/
def Rejected (ends : Ends) (used rest : List Token) : Prop :=
  ∀ i rest', rest'.head? = rest.head? → ∀ e,
    plain (conditional ends (maxNesting + i) (used ++ rest')) ≠ .ok (e, [])

/-- The tokens of an expression are read to the end, if enough levels may be opened. -/
lemma Rejected.not_derivable (h : Rejected ends used rest) (rest' : List Token)
    (head : rest'.head? = rest.head?) :
    ¬ Derivable .conditional (used.map Token.kind ++ rest'.map Token.kind) := by
  rintro ⟨d, e, derives⟩
  have complete : Complete ends (maxNesting + d) _ e .conditional :=
    complete (derives.mono (Nat.le_add_left d maxNesting))
  obtain ⟨r, read, rfl, rest_eq⟩ := complete (used ++ rest') []
    ⟨used ++ rest', by simp, by simp⟩ closes_nil
  exact h d rest' head r.value (by rw [read, plain_ok, rest_eq])

lemma Rejected.not_viable {t : Token} (h : Rejected ends used (t :: rest)) :
    ¬ Viable .conditional (used.map Token.kind ++ [t.kind]) := by
  rintro ⟨more, derivable⟩
  refine h.not_derivable (t :: more.map fun k => ⟨k, 0, []⟩) rfl ?_
  simpa [Function.comp_def] using derivable

/-- A fault divides the tokens into those that can be continued, and those that begin with the one
that it is reported at. -/
lemma exists_split_of_ofTokens {tokens : Tokens} {flaw : SourceFlaw}
    (failed : Expr.ofTokens tokens = .error flaw) (shallow : flaw.fault ≠ .tooDeep) :
    ∃ used rest, tokens.list = used ++ rest ∧ PointsAt (endsOf tokens) used flaw.offset rest ∧
      Viable .conditional (used.map Token.kind) ∧ Rejected (endsOf tokens) used rest := by
  rw [Expr.ofTokens] at failed
  split at failed
  · rename_i empty
    cases failed
    refine ⟨[], [], List.isEmpty_iff.1 empty, .inl rfl, Derivable.null_conditional.viable_left _,
      ?_⟩
    intro i rest' head e accepted
    obtain rfl := List.head?_eq_none_iff.1 head
    obtain ⟨d, e', derives⟩ : Derivable .conditional ([].map Token.kind) :=
      (sound_conditional _).derivable accepted rfl
    obtain ⟨t, us, split, -⟩ := derives.exists_eq_cons
    cases split
  have prompt : PromptAt (endsOf tokens) _ _ tokens.list _ :=
    (prompt_levels maxNesting).1 tokens.list
  change (conditional (endsOf tokens) maxNesting tokens.list >>= _) = _ at failed
  cases read : conditional (endsOf tokens) maxNesting tokens.list with
  | error flaw' =>
    rw [read] at failed prompt
    cases failed
    obtain tooDeep | ⟨used, rest, split, points, viable, stays⟩ := prompt
    · exact absurd tooDeep shallow
    · refine ⟨used, rest, split, points, viable, fun i rest' head e accepted => ?_⟩
      obtain ⟨flaw', failed⟩ := stays i rest' head
      cases failed.symm.trans accepted
  | ok r =>
    rw [read] at failed prompt
    obtain ⟨used, split, stays⟩ := prompt
    simp only [bind, Except.bind] at failed
    split at failed
    · cases failed
    rename_i more
    cases failed
    have derivable := (sound_conditional _).derivable (by rw [read, plain_ok]) split
    refine ⟨used, r.rest, split, ?_, derivable.viable, fun i rest' head e accepted => ?_⟩
    · cases rest_eq : r.rest with
      | nil => simp [rest_eq] at more
      | cons t tail => exact rfl
    · have same := (stays i rest' head).symm.trans accepted
      obtain rfl : rest' = [] := (Prod.mk.inj (Except.ok.inj same)).2
      exact more (List.isEmpty_iff.2 (List.head?_eq_none_iff.1 head.symm))

end Parser

open Grammar in
/-- **A parse error points at the first offending token.**  If a source text is cut into tokens but
is rejected by the parser, and not because it is nested too deeply, then the tokens up to some place
can be continued to an expression, however deeply nested, and those up to and including the next
token cannot; the error is reported at the offset of that next token.  If there is no next token
then the tokens are no expression, and the error is reported at the end of the source or at its last
token. -/
theorem Expr.parse_fails_at_first_offending_token {source : String} {tokens : Tokens}
    {err : ParseError} (tokenizes : Tokens.ofSource source = .ok tokens)
    (fails : Expr.parse source = .error err) (shallow : err.flaw.fault ≠ .tooDeep) :
    ∃ used rest, tokens.list = used ++ rest ∧ Viable .conditional (used.map Token.kind) ∧
      match rest with
      | t :: _ => ¬ Viable .conditional (used.map Token.kind ++ [t.kind]) ∧
          err.flaw.offset = t.offset
      | [] => ¬ Derivable .conditional (used.map Token.kind) ∧
          (err.flaw.offset = tokens.stop ∨
            ∃ last, used.getLast? = some last ∧ err.flaw.offset = last.offset) := by
  have failed : Expr.ofTokens tokens = .error err.flaw := by
    rw [Expr.parse, tokenizes] at fails
    split at fails
    · cases fails
    · rename_i flaw failed
      cases fails
      exact failed
  obtain ⟨used, rest, split, points, viable, rejected⟩ :=
    Parser.exists_split_of_ofTokens failed shallow
  refine ⟨used, rest, split, viable, ?_⟩
  cases rest with
  | cons t tail => exact ⟨rejected.not_viable, points⟩
  | nil =>
    refine ⟨by simpa using rejected.not_derivable [] rfl, ?_⟩
    rw [List.append_nil] at split
    obtain atStop | atLast | atLast := points
    · exact .inl atStop
    · rw [Parser.endsOf, Tokens.lastOffset, split] at atLast
      cases last : used.getLast? with
      | none => exact .inl (by simpa [last] using atLast)
      | some t => exact .inr ⟨t, rfl, by simpa [last] using atLast⟩
    · exact .inr atLast

open Grammar in
/-- A conditional that lacks its second branch can be continued up to the parenthesis that closes
the call around it. -/
theorem Expr.parse_fails_at_parenthesis :
    Expr.parse "f(a ? b.or) or c" = .error ⟨"f(a ? b.or) or c", ⟨10, .colonExpected⟩⟩ ∧
    Viable .conditional [.ident "f", .leftParen, .ident "a", .question, .ident "b", .dot,
      .ident "or"] ∧
    ¬ Viable .conditional [.ident "f", .leftParen, .ident "a", .question, .ident "b", .dot,
      .ident "or", .rightParen] := by
  have tokenizes : Tokens.ofSource "f(a ? b.or) or c" = .ok
      ⟨[⟨.ident "f", 0, ['f']⟩, ⟨.leftParen, 1, ['(']⟩, ⟨.ident "a", 2, ['a']⟩,
        ⟨.question, 4, ['?']⟩, ⟨.ident "b", 6, ['b']⟩, ⟨.dot, 7, ['.']⟩,
        ⟨.ident "or", 8, ['o', 'r']⟩, ⟨.rightParen, 10, [')']⟩, ⟨.ident "or", 12, ['o', 'r']⟩,
        ⟨.ident "c", 15, ['c']⟩], 16⟩ := by decide +kernel
  have fails : Expr.parse "f(a ? b.or) or c" =
      .error ⟨"f(a ? b.or) or c", ⟨10, .colonExpected⟩⟩ := by decide +kernel
  obtain ⟨used, rest, split, viable, offends⟩ :=
    Expr.parse_fails_at_first_offending_token tokenizes fails (by decide)
  refine ⟨fails, ?_⟩
  cases rest with
  | nil =>
    obtain ⟨-, atStop | ⟨last, isLast, atLast⟩⟩ := offends
    · cases atStop
    · rw [List.append_nil] at split
      subst split
      cases isLast
      cases atLast
  | cons t tail =>
    obtain ⟨stuck, here⟩ := offends
    -- No other token has that offset.
    have taken := congrArg (List.take used.length) split
    have placed := congrArg (fun ts => ts[used.length]?.map Token.offset) split
    rw [List.take_left] at taken
    simp only [List.getElem?_append_right (Nat.le_refl _), Nat.sub_self, List.getElem?_cons_zero,
      Option.map_some, ← here] at placed
    have bound : used.length < 10 := by
      have length := congrArg List.length split
      simp only [List.length_append, List.length_cons, List.length_nil] at length
      omega
    generalize used.length = n at taken placed bound
    interval_cases n <;> cases placed
    subst taken
    cases split
    exact ⟨viable, stuck⟩

end Reflex
