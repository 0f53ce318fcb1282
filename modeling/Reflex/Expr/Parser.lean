import Reflex.Expr.Token
import Reflex.Reading

/-!
# Parsing expressions

The grammar has one level for each binding strength. From the loosest to the tightest: the
conditional `a ? b : c`, which groups to the right; then the operators of `operatorLevels`, which
group to the left; then the signs `!` and `-` in front of an operand; then member access with a
point; and at the bottom literals, names, calls and parentheses. The words `or`, `and` and `not`
are spelled as names and act as operators.

* `Parser.conditional` and `Parser.unary` are the two levels at which an expression can nest, each
  given the number of levels that may still be opened.
* `Expr.parse` reads a whole source text. At most `maxNesting` levels may be open at once.

A fault is reported at the token that cannot continue the expression, or at the last token when the
source ends too early inside of an operand.
-/

namespace Reflex

/-- How many conditionals and signed operands may be open at once. -/
def maxNesting : Nat := 128

namespace Parser

/-- The offsets that faults at the end of the source are reported at. -/
structure Ends where
  /-- The end of the source. -/
  stop : Nat
  /-- The last token. -/
  last : Nat

/-- A parser for a part of an expression. -/
abbrev Part := Reader Token SourceFlaw Expr

/-- The offset of the token at hand. -/
def here (ends : Ends) : List Token → Nat
  | [] => ends.stop
  | t :: _ => t.offset

/-- The words that are no names. -/
def reserved : List String := ["true", "false", "null", "and", "or", "not"]

/-- The operators of each level, from the loosest to the tightest. -/
def operatorLevels : List (TokenKind → Option BinaryOp) := [
  fun | .or => some .or | .ident "or" => some .or | _ => none,
  fun | .and => some .and | .ident "and" => some .and | _ => none,
  fun | .equal => some .eq | .notEqual => some .notEq | _ => none,
  fun | .less => some .lt | .lessEqual => some .ltEq | .greater => some .gt
      | .greaterEqual => some .gtEq | _ => none,
  fun | .plus => some .add | .minus => some .sub | _ => none,
  fun | .star => some .mul | .slash => some .div | .percent => some .rem | _ => none]

/-- The sign that a token in front of an operand is. -/
def signOf : TokenKind → Option UnaryOp
  | .not => some .not
  | .ident "not" => some .not
  | .minus => some .neg
  | _ => none

/-- The path segment that a number names: an integer from zero up, at most `2 ^ 64 - 1`. -/
def segmentOfNumber : Extended → Option String
  | .finite x =>
    if x.isInteger && 0 ≤ x.scaled then some (Text.ofNat (min x.truncate.natAbs 0xFFFFFFFFFFFFFFFF))
    else none
  | _ => none

/-- The path segment that a token names. -/
def segmentOf : TokenKind → Option String
  | .ident name => some name
  | .number x => segmentOfNumber x
  | _ => none

/-- Continues an operand with the members that points lead to. -/
def members {input : List Token} (acc : Reading Expr input) :
    Except SourceFlaw (Reading Expr input) :=
  match h : acc.rest with
  | dot :: rest =>
    if dot.kind = .dot then
      match rest, h with
      | [], _ => .error ⟨dot.offset, .segmentExpected⟩
      | t :: rest, h =>
        match segmentOf t.kind with
        | some segment =>
          members ⟨.member acc.value segment, rest, by
            have := acc.shorter; simp [h] at this; omega⟩
        | none => .error ⟨t.offset, .segmentExpected⟩
    else .ok acc
  | [] => .ok acc
termination_by acc.rest.length
decreasing_by simp only [h, List.length_cons]; omega

/-- Continues an operand with operators of one level and their right operands. -/
def chain (operator : TokenKind → Option BinaryOp) (operand : Part) {input : List Token}
    (acc : Reading Expr input) : Except SourceFlaw (Reading Expr input) :=
  match h : acc.rest with
  | t :: rest =>
    match operator t.kind with
    | some op =>
      match operand rest with
      | .error flaw => .error flaw
      | .ok right =>
        chain operator operand ⟨.binary op acc.value right.value, right.rest, by
          have total := acc.shorter; have := right.shorter; simp [h] at total; omega⟩
    | none => .ok acc
  | [] => .ok acc
termination_by acc.rest.length
decreasing_by have := right.shorter; simp [h]; omega

/-- Operands of one level joined by its operators, grouped to the left. -/
def leftGrouped (operator : TokenKind → Option BinaryOp) (operand : Part) : Part := fun ts => do
  chain operator operand (← operand ts)

/-- Reads the arguments of a call up to the closing parenthesis; at least one is still to come. -/
def argumentsRest (ends : Ends) (argument : Part) (ts : List Token) :
    Except SourceFlaw (Reading (List Expr) ts) := do
  let first ← argument ts
  match h : first.rest with
  | [] => .error ⟨ends.stop, .argumentEndExpected⟩
  | t :: rest =>
    have : rest.length < ts.length := by
      have := first.shorter; simp [h] at this; omega
    if t.kind = .rightParen then return ⟨[first.value], rest, this⟩
    else if t.kind = .comma then do
      let more ← argumentsRest ends argument rest
      return (more.map (first.value :: ·)).within (Nat.le_of_lt this)
    else .error ⟨t.offset, .argumentEndExpected⟩
termination_by ts.length

/-- Reads the arguments of a call whose opening parenthesis has been read. -/
def arguments (ends : Ends) (argument : Part) (ts : List Token) :
    Except SourceFlaw (Reading (List Expr) ts) :=
  match ts with
  | t :: rest =>
    if t.kind = .rightParen then .ok ⟨[], rest, by simp⟩
    else argumentsRest ends argument (t :: rest)
  | [] => argumentsRest ends argument []

/-- Reads what begins with a word: a constant, a call or a bare name. -/
def word (ends : Ends) (argument : Part) (offset : Nat) (name : String) (ts : List Token) :
    Except SourceFlaw { r : Expr × List Token // r.2.length ≤ ts.length } :=
  if name = "true" then .ok ⟨(.literal (.bool true), ts), Nat.le_refl _⟩
  else if name = "false" then .ok ⟨(.literal (.bool false), ts), Nat.le_refl _⟩
  else if name = "null" then .ok ⟨(.literal .null, ts), Nat.le_refl _⟩
  else if name ∈ reserved then .error ⟨offset, .unexpectedKeyword⟩
  else
    match ts with
    | t :: rest =>
      if t.kind = .leftParen then do
        let args ← arguments ends argument rest
        return ⟨(.call name args.value, args.rest), by
          have := args.shorter; simp; omega⟩
      else .ok ⟨(.ident name, t :: rest), Nat.le_refl _⟩
    | [] => .ok ⟨(.ident name, []), Nat.le_refl _⟩

/-- Reads a closing parenthesis after an expression. -/
def closeParen (ends : Ends) {input : List Token} (inner : Reading Expr input) :
    Except SourceFlaw (Reading Expr input) :=
  match h : inner.rest with
  | t :: rest =>
    if t.kind = .rightParen then
      .ok ⟨inner.value, rest, by have := inner.shorter; simp [h] at this; omega⟩
    else .error ⟨t.offset, .parenExpected⟩
  | [] => .error ⟨ends.stop, .parenExpected⟩

/-- Reads a literal, a name, a call, or an expression in parentheses; `inner` reads the expressions
inside of it. -/
def primary (ends : Ends) (inner : Part) : Part
  | [] => .error ⟨ends.last, .unexpectedEnd⟩
  | t :: ts =>
    match t.kind with
    | .number x => .ok ⟨.literal (Value.ofExtended x), ts, by simp⟩
    | .string s => .ok ⟨.literal (.string s), ts, by simp⟩
    | .state name => .ok ⟨.state name, ts, by simp⟩
    | .field name => .ok ⟨.field name, ts, by simp⟩
    | .ident name => do
      let ⟨(e, rest), le⟩ ← word ends inner t.offset name ts
      return ⟨e, rest, by simp at le ⊢; omega⟩
    | .leftParen => do
      let r ← closeParen ends (← inner ts)
      return r.within (by simp)
    | _ => .error ⟨t.offset, .unexpectedToken⟩

/-- Reads a primary expression and the members it leads to. -/
def postfixed (ends : Ends) (inner : Part) : Part := fun ts => do
  members (← primary ends inner ts)

/-- Reads the two branches of a conditional whose test has been read, if there are any. -/
def branches (ends : Ends) (branch : Part) {input : List Token} (test : Reading Expr input) :
    Except SourceFlaw (Reading Expr input) :=
  match h : test.rest with
  | t :: rest =>
    if t.kind = .question then do
      let yes ← branch rest
      match h' : yes.rest with
      | colon :: rest' =>
        if colon.kind = .colon then do
          let no ← branch rest'
          return ⟨.conditional test.value yes.value no.value, no.rest, by
            have := test.shorter; have := yes.shorter; have := no.shorter
            simp [h, h'] at *; omega⟩
        else .error ⟨colon.offset, .colonExpected⟩
      | [] => .error ⟨ends.stop, .colonExpected⟩
    else .ok test
  | [] => .ok test

mutual

/-- Reads a conditional, or an expression of a tighter level, when `depth` levels may still be
opened. -/
def conditional (ends : Ends) : Nat → Part
  | 0 => fun ts => .error ⟨here ends ts, .tooDeep⟩
  | depth + 1 => fun ts => do
    branches ends (conditional ends depth)
      (← operatorLevels.foldr leftGrouped (unary ends depth) ts)

/-- Reads an operand with or without signs, when `depth` levels may still be opened. -/
def unary (ends : Ends) : Nat → Part
  | 0 => fun ts => .error ⟨here ends ts, .tooDeep⟩
  | depth + 1 => fun ts =>
    match ts with
    | t :: rest =>
      match signOf t.kind with
      | some op => do
        let r ← unary ends depth rest
        return (r.map (.unary op)).within (by simp)
      | none => postfixed ends (conditional ends depth) (t :: rest)
    | [] => postfixed ends (conditional ends depth) []

end

end Parser

namespace Expr

/-- Parses the tokens of a source text. -/
def ofTokens (tokens : Tokens) : Except SourceFlaw Expr := do
  let ends : Parser.Ends := ⟨tokens.stop, tokens.lastOffset⟩
  if tokens.list.isEmpty then .error ⟨tokens.stop, .emptyExpression⟩
  else
    let r ← Parser.conditional ends maxNesting tokens.list
    if r.rest.isEmpty then return r.value
    else .error ⟨Parser.here ends r.rest, .trailingInput⟩

end Expr

/-- A source text that is not an expression. -/
structure ParseError where
  source : String
  flaw : SourceFlaw
deriving DecidableEq

/-- The error in words. -/
def ParseError.message (e : ParseError) : String :=
  "parse error at offset " ++ Text.ofNat e.flaw.offset ++ " in `" ++ e.source ++ "`: " ++
    e.flaw.fault.message

/-- Parses a source text. -/
def Expr.parse (source : String) : Except ParseError Expr :=
  match Tokens.ofSource source >>= Expr.ofTokens with
  | .ok e => .ok e
  | .error flaw => .error ⟨source, flaw⟩

/-- An expression together with the text it was read from. -/
structure Formula where
  source : String
  expr : Expr

/-- Parses a source text and keeps it. -/
def Formula.parse (source : String) : Except ParseError Formula :=
  (Expr.parse source).map (⟨source, ·⟩)

end Reflex
