import Reflex.Proofs.Expr.Exactness

/-!
# Parsers that notice a fault at once

A parser is prompt if it fails at the first token with which the tokens up to it cannot be continued
to what it reads.  This is said of a parser together with those that may open more levels: what it
makes of the tokens up to some place they make of them too, whatever stands beyond that place.

* `Parser.plain` forgets that a parser reads something.
* `Parser.PromptAt` relates what a parser gives for some tokens to those other parsers, and comes
  with a lemma for each way to build a parser from others.
* The rest are the functions of the parser as they are built from others.
-/

namespace Reflex.Parser

open Grammar

variable {α β : Type} {input ts : List Token} {ends : Ends}

/-- What was read and what is left. -/
abbrev Outcome (α : Type) := Except SourceFlaw (α × List Token)

/-- Goes on with what was read. -/
def Outcome.andThen (x : Outcome α) (next : α → List Token → Outcome β) : Outcome β :=
  match x with
  | .ok (v, rest) => next v rest
  | .error flaw => .error flaw

/-- A reading without the proof that something was read. -/
def plain (r : Except SourceFlaw (Reading α input)) : Outcome α :=
  r.map fun r => (r.value, r.rest)

@[simp] lemma plain_ok (r : Reading α input) : plain (.ok r) = .ok (r.value, r.rest) := rfl

@[simp] lemma plain_error (flaw : SourceFlaw) :
    plain (.error flaw : Except SourceFlaw (Reading α input)) = .error flaw := rfl

/-! ## Prompt parsers -/

/-- The places that a fault may be reported at which is noticed when the tokens `used` have been
read and those of `rest` have not: the next token, or at the end of the source that end or the last
token. -/
def PointsAt (ends : Ends) (used : List Token) (offset : Nat) : (rest : List Token) → Prop
  | t :: _ => offset = t.offset
  | [] => offset = ends.stop ∨ offset = ends.last ∨ ∃ t, used.getLast? = some t ∧ offset = t.offset

lemma PointsAt.append {used rest : List Token} {offset : Nat} (h : PointsAt ends used offset rest)
    (front : List Token) : PointsAt ends (front ++ used) offset rest := by
  cases rest with
  | cons t rest => exact h
  | nil =>
    refine h.imp_right (Or.imp_right fun ⟨t, last, same⟩ => ⟨t, ?_, same⟩)
    rw [List.getLast?_append, last]
    rfl

/-- What comes of the tokens `ts` comes of them in each of `again` as well, as far as they are
looked at.  A result depends on the tokens that are read and on the next one.  So does a failure,
which points at that next one, and the tokens that have been read before it satisfy `viable`.
Nothing is said of an expression that is nested too deeply. -/
def PromptAt (ends : Ends) (viable : List Token → Prop) (again : Nat → List Token → Outcome α)
    (ts : List Token) : Outcome α → Prop
  | .ok (v, rest) => ∃ used, ts = used ++ rest ∧
      ∀ i rest', rest'.head? = rest.head? → again i (used ++ rest') = .ok (v, rest')
  | .error flaw => flaw.fault = .tooDeep ∨ ∃ used rest, ts = used ++ rest ∧
      PointsAt ends used flaw.offset rest ∧ viable used ∧
      ∀ i rest', rest'.head? = rest.head? → ∃ flaw', again i (used ++ rest') = .error flaw'

namespace PromptAt

variable {viable viable' : List Token → Prop} {again again' : Nat → List Token → Outcome α}
  {x : Outcome α} {t : Token} {fault : SourceFault} {offset : Nat}

lemma head?_append {used rest rest' : List Token} (same : rest'.head? = rest.head?) :
    (used ++ rest').head? = (used ++ rest).head? := by
  cases used with
  | nil => exact same
  | cons t used => rfl

/-- A result for which the next token is looked at, and nothing is read. -/
lemma done {v : α} (h : ∀ i ts', ts'.head? = ts.head? → again i ts' = .ok (v, ts')) :
    PromptAt ends viable again ts (.ok (v, ts)) :=
  ⟨[], rfl, h⟩

/-- A fault that is noticed at the next token. -/
lemma fail (points : PointsAt ends [] offset ts) (possible : viable [])
    (h : ∀ i ts', ts'.head? = ts.head? → ∃ flaw', again i ts' = .error flaw') :
    PromptAt ends viable again ts (.error ⟨offset, fault⟩) :=
  .inr ⟨[], ts, rfl, points, possible, h⟩

/-- Whatever looks the same up to the next token may be taken instead. -/
lemma congr (h : PromptAt ends viable again ts x)
    (same : ∀ i ts', ts'.head? = ts.head? → again' i ts' = again i ts') :
    PromptAt ends viable again' ts x := by
  cases x with
  | ok r =>
    obtain ⟨used, rfl, stays⟩ := h
    exact ⟨used, rfl, fun i rest' head =>
      (same i _ (head?_append head)).trans (stays i rest' head)⟩
  | error flaw =>
    refine h.imp_right fun ⟨used, rest, split, points, possible, stays⟩ => ?_
    subst split
    refine ⟨used, rest, rfl, points, possible, fun i rest' head => ?_⟩
    rw [same i _ (head?_append head)]
    exact stays i rest' head

lemma weaken (h : PromptAt ends viable again ts x) (imp : ∀ used, viable used → viable' used) :
    PromptAt ends viable' again ts x := by
  cases x with
  | ok r => exact h
  | error flaw =>
    exact h.imp_right fun ⟨used, rest, split, points, possible, stays⟩ =>
      ⟨used, rest, split, points, imp used possible, stays⟩

/-- A token is read before anything else. -/
lemma cons
    (h : PromptAt ends (fun used => viable (t :: used)) (fun i ts' => again i (t :: ts')) ts x) :
    PromptAt ends viable again (t :: ts) x := by
  cases x with
  | ok r =>
    obtain ⟨used, rfl, stays⟩ := h
    exact ⟨t :: used, rfl, stays⟩
  | error flaw =>
    refine h.imp_right fun ⟨used, rest, split, points, possible, stays⟩ => ?_
    subst split
    exact ⟨t :: used, rest, rfl, points.append [t], possible, stays⟩

/-- One parser after the other. -/
lemma andThen {next : α → List Token → Outcome β}
    {next' : Nat → α → List Token → Outcome β} (first : PromptAt ends viable' again ts x)
    (imp : ∀ used, viable' used → viable used)
    (second : ∀ v used rest, x = .ok (v, rest) → ts = used ++ rest →
      PromptAt ends (fun more => viable (used ++ more)) (fun i => next' i v) rest (next v rest)) :
    PromptAt ends viable (fun i ts' => (again i ts').andThen (next' i)) ts (x.andThen next) := by
  cases x with
  | error flaw =>
    refine first.imp_right fun ⟨used, rest, split, points, possible, stays⟩ => ?_
    refine ⟨used, rest, split, points, imp used possible, fun i rest' head => ?_⟩
    obtain ⟨flaw', failed⟩ := stays i rest' head
    exact ⟨flaw', by simp only [failed, Outcome.andThen]⟩
  | ok r =>
    obtain ⟨v, rest⟩ := r
    obtain ⟨used, split, stays⟩ := first
    have second := second v used rest rfl split
    change PromptAt ends viable _ ts (next v rest)
    cases result : next v rest with
    | ok r =>
      rw [result] at second
      obtain ⟨used', rfl, stays'⟩ := second
      refine ⟨used ++ used', by simp [split], fun i rest' head => ?_⟩
      simp only [List.append_assoc, stays i _ (head?_append head)]
      exact stays' i rest' head
    | error flaw =>
      rw [result] at second
      refine second.imp_right fun ⟨used', rest', split', points, possible, stays'⟩ => ?_
      subst split'
      refine ⟨used ++ used', rest', by simp [split], points.append used, possible,
        fun i rest'' head => ?_⟩
      simp only [List.append_assoc, stays i _ (head?_append head)]
      exact stays' i rest'' head

end PromptAt

/-! ## Loops -/

variable {operator : TokenKind → Option BinaryOp} {operand inner : Part}

/-- A reading that leaves `rest`.  Which token was read does not matter. -/
def reached (value : Expr) (rest : List Token) : Reading Expr (⟨.dot, 0, []⟩ :: rest) :=
  ⟨value, rest, Nat.lt_succ_self _⟩

/-- The loop over operators after an operand. -/
def chainFrom (operator : TokenKind → Option BinaryOp) (operand : Part) (value : Expr)
    (rest : List Token) : Outcome Expr :=
  plain (chain operator operand (reached value rest))

/-- The loop over members after a path. -/
def membersFrom (value : Expr) (rest : List Token) : Outcome Expr :=
  plain (members (reached value rest))

/-- The loop over operators fails with the operand that it reads. -/
lemma chain_of_error {acc : Reading Expr input} {t : Token} {tail : List Token}
    (rest_eq : acc.rest = t :: tail) {op : BinaryOp} (found : operator t.kind = some op)
    {flaw : SourceFlaw} (failed : operand tail = .error flaw) :
    chain operator operand acc = .error flaw := by
  rw [chain]
  split
  · rename_i t' tail' rest_eq'
    obtain ⟨rfl, rfl⟩ := List.cons.inj (rest_eq.symm.trans rest_eq')
    split
    · rw [failed]
    · rename_i none_found
      rw [found] at none_found
      cases none_found
  · rename_i rest_eq'
    rw [rest_eq] at rest_eq'
    cases rest_eq'

lemma plain_chain (acc : Reading Expr input) :
    plain (chain operator operand acc) = chainFrom operator operand acc.value acc.rest := by
  have alike {input input' : List Token} (acc : Reading Expr input) (acc' : Reading Expr input')
      (value : acc'.value = acc.value) (rest : acc'.rest = acc.rest) :
      plain (chain operator operand acc') = plain (chain operator operand acc) := by
    fun_induction chain operator operand acc generalizing input' with
    | case1 acc t tail rest_eq op found flaw failed =>
      rw [chain_of_error (rest.trans rest_eq) found failed, plain_error, plain_error]
    | case2 acc t tail rest_eq op found right read ih =>
      obtain ⟨acc'', round, value', rest'⟩ := chain_step (rest.trans rest_eq) found read
      rw [round]
      exact ih acc'' (by rw [value', value]) rest'
    | case3 acc t tail rest_eq none_found =>
      have stops : ∀ t ∈ acc'.rest.head?, operator t.kind = none := by
        simpa [rest, rest_eq] using none_found
      rw [chain_of_none stops, plain_ok, plain_ok, value, rest]
    | case4 acc rest_eq =>
      rw [chain_of_none (by simp [rest, rest_eq]), plain_ok, plain_ok, value, rest]
  exact alike (reached acc.value acc.rest) acc rfl rfl

lemma chainFrom_of_none {value : Expr} {rest : List Token}
    (h : ∀ t ∈ rest.head?, operator t.kind = none) :
    chainFrom operator operand value rest = .ok (value, rest) := by
  rw [chainFrom, chain_of_none h]
  rfl

lemma chainFrom_cons {t : Token} {op : BinaryOp} (found : operator t.kind = some op) (value : Expr)
    (tail : List Token) : chainFrom operator operand value (t :: tail) =
      (plain (operand tail)).andThen fun right =>
        chainFrom operator operand (.binary op value right) := by
  cases read : operand tail with
  | error flaw =>
    rw [chainFrom, chain_of_error rfl found read]
    rfl
  | ok right =>
    have rest_eq : (reached value (t :: tail)).rest = t :: tail := rfl
    obtain ⟨acc, round, value', rest'⟩ := chain_step rest_eq found read
    rw [chainFrom, round, plain_chain, value', rest']
    rfl

lemma plain_leftGrouped (ts : List Token) : plain (leftGrouped operator operand ts) =
    (plain (operand ts)).andThen (chainFrom operator operand) := by
  rw [leftGrouped]
  cases operand ts with
  | error flaw => rfl
  | ok acc => exact plain_chain acc

/-- The loop over members fails if a point is not followed by a segment. -/
lemma members_of_error {acc : Reading Expr input} {dot : Token} {tail : List Token}
    (rest_eq : acc.rest = dot :: tail) (isDot : dot.kind = .dot)
    (none_found : ∀ t ∈ tail.head?, segmentOf t.kind = none) :
    members acc = .error ⟨(tail.head?.getD dot).offset, .segmentExpected⟩ := by
  rw [members]
  split
  · rename_i dot' tail' rest_eq'
    obtain ⟨rfl, rfl⟩ := List.cons.inj (rest_eq.symm.trans rest_eq')
    rw [if_pos isDot]
    cases tail with
    | nil => rfl
    | cons t tail =>
      simp only [none_found t rfl]
      rfl
  · rename_i rest_eq'
    rw [rest_eq] at rest_eq'
    cases rest_eq'

lemma plain_members (acc : Reading Expr input) :
    plain (members acc) = membersFrom acc.value acc.rest := by
  have alike {input input' : List Token} (acc : Reading Expr input) (acc' : Reading Expr input')
      (value : acc'.value = acc.value) (rest : acc'.rest = acc.rest) :
      plain (members acc') = plain (members acc) := by
    fun_induction members acc generalizing input' with
    | case1 acc dot isDot rest_eq =>
      rw [members_of_error (rest.trans rest_eq) isDot (by simp)]
      rfl
    | case2 acc dot isDot t tail rest_eq segment found _ ih =>
      obtain ⟨acc'', round, value', rest'⟩ := members_step (rest.trans rest_eq) isDot found
      rw [round]
      exact ih acc'' (by rw [value', value]) rest'
    | case3 acc dot isDot t tail rest_eq none_found =>
      rw [members_of_error (rest.trans rest_eq) isDot (by simpa using none_found)]
      rfl
    | case4 acc dot tail rest_eq notDot =>
      rw [members_of_stops (by simpa [rest, rest_eq] using notDot), plain_ok, plain_ok, value, rest]
    | case5 acc rest_eq =>
      rw [members_of_stops (by simp [rest, rest_eq]), plain_ok, plain_ok, value, rest]
  exact alike (reached acc.value acc.rest) acc rfl rfl

lemma membersFrom_of_stops {value : Expr} {rest : List Token}
    (h : ∀ t ∈ rest.head?, t.kind ≠ .dot) : membersFrom value rest = .ok (value, rest) := by
  rw [membersFrom, members_of_stops h]
  rfl

lemma membersFrom_of_error {value : Expr} {dot : Token} {tail : List Token}
    (isDot : dot.kind = .dot) (none_found : ∀ t ∈ tail.head?, segmentOf t.kind = none) :
    membersFrom value (dot :: tail) =
      .error ⟨(tail.head?.getD dot).offset, .segmentExpected⟩ := by
  rw [membersFrom, members_of_error rfl isDot none_found]
  rfl

lemma membersFrom_cons {dot t : Token} (isDot : dot.kind = .dot) {segment : String}
    (found : segmentOf t.kind = some segment) (value : Expr) (tail : List Token) :
    membersFrom value (dot :: t :: tail) = membersFrom (.member value segment) tail := by
  have rest_eq : (reached value (dot :: t :: tail)).rest = dot :: t :: tail := rfl
  obtain ⟨acc, round, value', rest'⟩ := members_step rest_eq isDot found
  rw [membersFrom, round, plain_members, value', rest']
  rfl

lemma plain_postfixed (ts : List Token) : plain (postfixed ends inner ts) =
    (plain (primary ends inner ts)).andThen membersFrom := by
  rw [postfixed]
  cases primary ends inner ts with
  | error flaw => rfl
  | ok acc => exact plain_members acc

/-! ## Brackets -/

/-- A token that has to come next. -/
def expect (ends : Ends) (kind : TokenKind) (fault : SourceFault)
    (next : List Token → Outcome α) : List Token → Outcome α
  | t :: rest => if t.kind = kind then next rest else .error ⟨t.offset, fault⟩
  | [] => .error ⟨ends.stop, fault⟩

/-- A closing parenthesis after an expression. -/
def closeFrom (ends : Ends) (value : Expr) : List Token → Outcome Expr :=
  expect ends .rightParen .parenExpected fun rest => .ok (value, rest)

/-- The arguments of a call after one that is not the last. -/
def moreFrom (ends : Ends) (argument : Part) (first : Expr) : List Token → Outcome (List Expr) :=
  expect ends .comma .argumentEndExpected fun rest =>
    (plain (argumentsRest ends argument rest)).andThen fun more rest => .ok (first :: more, rest)

/-- What follows an argument of a call. -/
def argumentsFrom (ends : Ends) (argument : Part) (first : Expr) : List Token → Outcome (List Expr)
  | t :: rest =>
    if t.kind = .rightParen then .ok ([first], rest) else moreFrom ends argument first (t :: rest)
  | [] => moreFrom ends argument first []

/-- What follows the test of a conditional and the branch for its truth. -/
def noFrom (ends : Ends) (branch : Part) (test yes : Expr) : List Token → Outcome Expr :=
  expect ends .colon .colonExpected fun rest =>
    (plain (branch rest)).andThen fun no rest => .ok (.conditional test yes no, rest)

/-- What follows the test of a conditional, or an expression that is none. -/
def branchesFrom (ends : Ends) (branch : Part) (test : Expr) : List Token → Outcome Expr
  | t :: rest =>
    if t.kind = .question then (plain (branch rest)).andThen (noFrom ends branch test)
    else .ok (test, t :: rest)
  | [] => .ok (test, [])

/-- What has to come next is looked at before anything else. -/
lemma PromptAt.expect {viable : List Token → Prop} {next : List Token → Outcome α}
    {next' : Nat → List Token → Outcome α} {kind : TokenKind} {fault : SourceFault}
    (possible : viable [])
    (more : ∀ t tail, ts = t :: tail → t.kind = kind →
      PromptAt ends (fun used => viable (t :: used)) next' tail (next tail)) :
    PromptAt ends viable (fun i => expect ends kind fault (next' i)) ts
      (expect ends kind fault next ts) := by
  cases ts with
  | nil =>
    refine .fail (.inl rfl) possible fun i ts' head => ?_
    obtain rfl := List.head?_eq_none_iff.1 head
    exact ⟨_, rfl⟩
  | cons t tail =>
    by_cases isKind : t.kind = kind
    · refine .cons ?_
      simp only [Parser.expect, if_pos isKind]
      exact more t tail rfl isKind
    · simp only [Parser.expect, if_neg isKind]
      refine .fail rfl possible fun i ts' head => ?_
      obtain ⟨tail', rfl⟩ := List.head?_eq_some_iff.1 head
      exact ⟨_, if_neg isKind⟩

lemma plain_closeParen (r : Reading Expr input) :
    plain (closeParen ends r) = closeFrom ends r.value r.rest := by
  unfold closeParen
  split
  · rename_i t rest rest_eq
    rw [congrArg (closeFrom ends r.value) rest_eq, closeFrom, expect]
    split <;> rfl
  · rename_i rest_eq
    rw [congrArg (closeFrom ends r.value) rest_eq]
    rfl

lemma plain_argumentsRest (ts : List Token) : plain (argumentsRest ends inner ts) =
    (plain (inner ts)).andThen (argumentsFrom ends inner) := by
  rw [argumentsRest]
  cases inner ts with
  | error flaw => rfl
  | ok first =>
    rw [plain_ok, Outcome.andThen]
    simp only [bind, Except.bind]
    split
    · rename_i rest_eq
      rw [congrArg (argumentsFrom ends inner first.value) rest_eq]
      rfl
    · rename_i t rest rest_eq
      rw [congrArg (argumentsFrom ends inner first.value) rest_eq, argumentsFrom, moreFrom, expect]
      split
      · rfl
      split
      · cases argumentsRest ends inner rest <;> rfl
      · rfl

lemma plain_branches (test : Reading Expr input) :
    plain (branches ends inner test) = branchesFrom ends inner test.value test.rest := by
  unfold branches
  split
  · rename_i t rest rest_eq
    rw [congrArg (branchesFrom ends inner test.value) rest_eq, branchesFrom]
    split
    · cases inner rest with
      | error flaw => rfl
      | ok yes =>
        rw [plain_ok, Outcome.andThen]
        simp only [bind, Except.bind]
        split
        · rename_i colon rest' rest_eq'
          rw [congrArg (noFrom ends inner test.value yes.value) rest_eq', noFrom, expect]
          split
          · cases inner rest' <;> rfl
          · rfl
        · rename_i rest_eq'
          rw [congrArg (noFrom ends inner test.value yes.value) rest_eq']
          rfl
    · rw [plain_ok, rest_eq]
  · rename_i rest_eq
    rw [congrArg (branchesFrom ends inner test.value) rest_eq, plain_ok, rest_eq]
    rfl

/-! ## Operands -/

/-- What follows a word. -/
def wordFrom (ends : Ends) (argument : Part) (offset : Nat) (name : String) (ts : List Token) :
    Outcome Expr :=
  (word ends argument offset name ts).map Subtype.val

/-- What follows a name: the arguments of a call, if there is a parenthesis. -/
def nameFrom (ends : Ends) (argument : Part) (name : String) : List Token → Outcome Expr
  | t :: rest =>
    if t.kind = .leftParen then
      (plain (arguments ends argument rest)).andThen fun args rest => .ok (.call name args, rest)
    else .ok (.ident name, t :: rest)
  | [] => .ok (.ident name, [])

/-- A word stands for a constant, for an operator, or is a name. -/
lemma wordFrom_cases (name : String) :
    (∃ v, ∀ ends argument offset ts,
      wordFrom ends argument offset name ts = .ok (.literal v, ts)) ∨
    (∀ ends argument offset ts,
      wordFrom ends argument offset name ts = .error ⟨offset, .unexpectedKeyword⟩) ∨
    (name ∉ keywords ∧ ∀ ends argument offset ts,
      wordFrom ends argument offset name ts = nameFrom ends argument name ts) := by
  by_cases is_true : name = "true"
  · refine .inl ⟨.bool true, fun ends argument offset ts => ?_⟩
    rw [wordFrom, word.eq_def, if_pos is_true]
    rfl
  by_cases is_false : name = "false"
  · refine .inl ⟨.bool false, fun ends argument offset ts => ?_⟩
    rw [wordFrom, word.eq_def, if_neg is_true, if_pos is_false]
    rfl
  by_cases is_null : name = "null"
  · refine .inl ⟨.null, fun ends argument offset ts => ?_⟩
    rw [wordFrom, word.eq_def, if_neg is_true, if_neg is_false, if_pos is_null]
    rfl
  refine .inr ?_
  by_cases operator : name ∈ reserved
  · refine .inl fun ends argument offset ts => ?_
    rw [wordFrom, word.eq_def, if_neg is_true, if_neg is_false, if_neg is_null, if_pos operator]
    rfl
  refine .inr ⟨fun h => operator (mem_reserved_iff.2 h), fun ends argument offset ts => ?_⟩
  rw [wordFrom, word.eq_def, if_neg is_true, if_neg is_false, if_neg is_null, if_neg operator]
  cases ts with
  | nil => rfl
  | cons t rest =>
    simp only [nameFrom]
    split
    · cases arguments ends argument rest <;> rfl
    · rfl

lemma plain_primary_ident {t : Token} {name : String} (isName : t.kind = .ident name)
    (ts : List Token) :
    plain (primary ends inner (t :: ts)) = wordFrom ends inner t.offset name ts := by
  simp only [primary, isName, wordFrom]
  cases word ends inner t.offset name ts <;> rfl

lemma plain_primary_leftParen {t : Token} (isOpen : t.kind = .leftParen) (ts : List Token) :
    plain (primary ends inner (t :: ts)) = (plain (inner ts)).andThen (closeFrom ends) := by
  simp only [primary, isOpen]
  cases inner ts with
  | error flaw => rfl
  | ok r =>
    refine Eq.trans ?_ (plain_closeParen r)
    change plain (closeParen ends r >>= _) = _
    cases closeParen ends r <;> rfl

lemma plain_unary_sign {t : Token} {op : UnaryOp} (found : signOf t.kind = some op) (d : Nat)
    (ts : List Token) : plain (unary ends (d + 1) (t :: ts)) =
      (plain (unary ends d ts)).andThen fun operand rest => .ok (.unary op operand, rest) := by
  simp only [unary, found]
  cases unary ends d ts <;> rfl

lemma plain_unary_unsigned {ts : List Token} (none_found : ∀ t ∈ ts.head?, signOf t.kind = none)
    (d : Nat) :
    plain (unary ends (d + 1) ts) = plain (postfixed ends (conditional ends d) ts) := by
  cases ts with
  | nil => rfl
  | cons t ts => simp only [unary, none_found t rfl]

lemma plain_conditional (d : Nat) (ts : List Token) : plain (conditional ends (d + 1) ts) =
    (plain (ladder ends d 0 ts)).andThen (branchesFrom ends (conditional ends d)) := by
  simp only [conditional]
  rw [show operatorLevels.foldr leftGrouped (unary ends d) = ladder ends d 0 from rfl]
  cases ladder ends d 0 ts with
  | error flaw => rfl
  | ok test => exact plain_branches test

end Reflex.Parser
