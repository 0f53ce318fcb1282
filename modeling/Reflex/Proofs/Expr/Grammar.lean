import Mathlib.Tactic.Lemma
import Reflex.Expr.Parser

/-!
# The grammar of expressions

The grammar is stated here without the parser, as a derivation relation between lists of token
kinds and trees.  `Derives d phrase ts e` says that the tokens `ts` make up a phrase whose tree is
`e`, with at most `d` levels open at once: a conditional and a signed operand each open one level
around whatever stands inside of them, and nothing else does.

The strata, from the loosest to the tightest, are

* conditionals `a ? b : c`, which group to the right;
* `chain k`, the operators of strength `k` and above, which group to the left.  There are six
  strengths, from `||` at `0` to `*` at `5`, and `chain 6` is a signed operand;
* signed operands `!a`, `not a` and `-a`;
* paths `a.b`, whose segments are names or natural numbers;
* primary expressions: literals, names, calls and parentheses.

The words `or`, `and` and `not` are names to the lexer.  They spell operators, and neither they nor
the three constants can be the name of a value or of a function; a segment of a path can be any
name.

That the parser accepts exactly this grammar is the subject of `Reflex.Proofs.Expr.Exactness`.
-/

namespace Reflex.Grammar

/-! ## Spellings -/

/-- The tokens that spell an operator with two operands. -/
inductive Spells : BinaryOp → TokenKind → Prop
  | orSign : Spells .or .or
  | orWord : Spells .or (.ident "or")
  | andSign : Spells .and .and
  | andWord : Spells .and (.ident "and")
  | equal : Spells .eq .equal
  | notEqual : Spells .notEq .notEqual
  | less : Spells .lt .less
  | lessEqual : Spells .ltEq .lessEqual
  | greater : Spells .gt .greater
  | greaterEqual : Spells .gtEq .greaterEqual
  | plus : Spells .add .plus
  | minus : Spells .sub .minus
  | star : Spells .mul .star
  | slash : Spells .div .slash
  | percent : Spells .rem .percent

/-- How tightly an operator binds. -/
def strength : BinaryOp → Nat
  | .or => 0
  | .and => 1
  | .eq | .notEq => 2
  | .lt | .ltEq | .gt | .gtEq => 3
  | .add | .sub => 4
  | .mul | .div | .rem => 5

/-- The tokens that spell an operator in front of its operand. -/
inductive SpellsSign : UnaryOp → TokenKind → Prop
  | bang : SpellsSign .not .not
  | word : SpellsSign .not (.ident "not")
  | minus : SpellsSign .neg .minus

lemma SpellsSign.kind_eq {op : UnaryOp} {t : TokenKind} (h : SpellsSign op t) :
    t = .not ∨ t = .ident "not" ∨ t = .minus := by
  cases h <;> simp

/-- The tokens that can follow a point, with the segment they stand for.  A number has to be
integral and not negative; beyond 64 bits it stands for the greatest number of 64 bits. -/
inductive SpellsSegment : String → TokenKind → Prop
  | name (name : String) : SpellsSegment name (.ident name)
  | number {x : Binary64} (isInteger : x.isInteger) (nonneg : 0 ≤ x.scaled) :
      SpellsSegment (Text.ofNat (min x.truncate.natAbs 0xFFFFFFFFFFFFFFFF)) (.number (.finite x))

/-- The words that neither a value nor a function can be called by. -/
def keywords : List String := ["and", "or", "not", "true", "false", "null"]

/-! ## Derivations -/

/-- The phrases of the grammar. -/
inductive Phrase
  | conditional
  /-- Operators of strength `level` and above. -/
  | chain (level : Nat)
  | signed
  | path
  | primary
  /-- The arguments of a call, of which there is at least one, without the parentheses around
  them.  The tree is that of the whole call. -/
  | arguments (function : String)

/-- The derivations of the grammar that open at most so many levels at once. -/
inductive Derives : Nat → Phrase → List TokenKind → Expr → Prop
  | untested {d ts e} (inner : Derives d (.chain 0) ts e) : Derives (d + 1) .conditional ts e
  | tested {d ts us vs test yes no} (test_derives : Derives d (.chain 0) ts test)
      (yes_derives : Derives d .conditional us yes) (no_derives : Derives d .conditional vs no) :
      Derives (d + 1) .conditional (ts ++ .question :: (us ++ .colon :: vs))
        (.conditional test yes no)
  | tighter {d k ts e} (inner : Derives d (.chain (k + 1)) ts e) : Derives d (.chain k) ts e
  | operation {d op t ts us l r} (left : Derives d (.chain (strength op)) ts l)
      (spells : Spells op t) (right : Derives d (.chain (strength op + 1)) us r) :
      Derives d (.chain (strength op)) (ts ++ t :: us) (.binary op l r)
  | operand {d ts e} (inner : Derives d .signed ts e) : Derives d (.chain 6) ts e
  | sign {d op t ts e} (spells : SpellsSign op t) (inner : Derives d .signed ts e) :
      Derives (d + 1) .signed (t :: ts) (.unary op e)
  | unsigned {d ts e} (inner : Derives d .path ts e) : Derives (d + 1) .signed ts e
  | start {d ts e} (inner : Derives d .primary ts e) : Derives d .path ts e
  | member {d t ts e segment} (base : Derives d .path ts e)
      (spells : SpellsSegment segment t) : Derives d .path (ts ++ [.dot, t]) (.member e segment)
  | number {d} (x : Extended) : Derives d .primary [.number x] (.literal (.ofExtended x))
  | string {d} (s : String) : Derives d .primary [.string s] (.literal (.string s))
  | true {d} : Derives d .primary [.ident "true"] (.literal (.bool true))
  | false {d} : Derives d .primary [.ident "false"] (.literal (.bool false))
  | null {d} : Derives d .primary [.ident "null"] (.literal .null)
  | state {d} (name : String) : Derives d .primary [.state name] (.state name)
  | field {d} (name : String) : Derives d .primary [.field name] (.field name)
  | name {d} {name : String} (free : name ∉ keywords) :
      Derives d .primary [.ident name] (.ident name)
  | callEmpty {d} {name : String} (free : name ∉ keywords) :
      Derives d .primary [.ident name, .leftParen, .rightParen] (.call name [])
  | call {d ts e} {name : String} (free : name ∉ keywords)
      (inner : Derives d (.arguments name) ts e) :
      Derives d .primary (.ident name :: .leftParen :: (ts ++ [.rightParen])) e
  | parens {d ts e} (inner : Derives d .conditional ts e) :
      Derives d .primary (.leftParen :: (ts ++ [.rightParen])) e
  | lastArgument {d ts e function} (last : Derives d .conditional ts e) :
      Derives d (.arguments function) ts (.call function [e])
  | moreArguments {d ts us e es function} (first : Derives d .conditional ts e)
      (more : Derives d (.arguments function) us (.call function es)) :
      Derives d (.arguments function) (ts ++ .comma :: us) (.call function (e :: es))

namespace Derives

variable {d d' : Nat} {phrase : Phrase} {ts : List TokenKind} {e : Expr}

/-- A derivation may always be allowed to open more levels. -/
lemma mono (h : Derives d phrase ts e) (le : d ≤ d') : Derives d' phrase ts e := by
  induction h generalizing d' with
  | untested _ ih =>
    obtain ⟨c, rfl⟩ := Nat.exists_eq_add_one_of_ne_zero (Nat.ne_zero_of_lt le)
    exact untested (ih (by omega))
  | tested _ _ _ ihTest ihYes ihNo =>
    obtain ⟨c, rfl⟩ := Nat.exists_eq_add_one_of_ne_zero (Nat.ne_zero_of_lt le)
    exact tested (ihTest (by omega)) (ihYes (by omega)) (ihNo (by omega))
  | tighter _ ih => exact tighter (ih le)
  | operation _ spells _ ihLeft ihRight => exact operation (ihLeft le) spells (ihRight le)
  | operand _ ih => exact operand (ih le)
  | sign spells _ ih =>
    obtain ⟨c, rfl⟩ := Nat.exists_eq_add_one_of_ne_zero (Nat.ne_zero_of_lt le)
    exact sign spells (ih (by omega))
  | unsigned _ ih =>
    obtain ⟨c, rfl⟩ := Nat.exists_eq_add_one_of_ne_zero (Nat.ne_zero_of_lt le)
    exact unsigned (ih (by omega))
  | start _ ih => exact start (ih le)
  | member _ spells ih => exact member (ih le) spells
  | number x => exact number x
  | string s => exact string s
  | true => exact true
  | false => exact false
  | null => exact null
  | state name => exact state name
  | field name => exact field name
  | name free => exact name free
  | callEmpty free => exact callEmpty free
  | call free _ ih => exact call free (ih le)
  | parens _ ih => exact parens (ih le)
  | lastArgument _ ih => exact lastArgument (ih le)
  | moreArguments _ _ ihFirst ihMore => exact moreArguments (ihFirst le) (ihMore le)

/-- Every phrase has a token, and the first is no closing parenthesis. -/
lemma exists_eq_cons (h : Derives d phrase ts e) :
    ∃ t us, ts = t :: us ∧ t ≠ .rightParen := by
  have append {ts us : List TokenKind} (h : ∃ t vs, ts = t :: vs ∧ t ≠ .rightParen) :
      ∃ t vs, ts ++ us = t :: vs ∧ t ≠ .rightParen := by
    obtain ⟨t, vs, rfl, other⟩ := h
    exact ⟨t, vs ++ us, rfl, other⟩
  induction h with
  | untested _ ih => exact ih
  | tested _ _ _ ih => exact append ih
  | tighter _ ih => exact ih
  | operation _ _ _ ih => exact append ih
  | operand _ ih => exact ih
  | sign spells _ => exact ⟨_, _, rfl, by rintro rfl; cases spells⟩
  | unsigned _ ih => exact ih
  | start _ ih => exact ih
  | member _ _ ih => exact append ih
  | lastArgument _ ih => exact ih
  | moreArguments _ _ ih => exact append ih
  | _ => exact ⟨_, _, rfl, by simp⟩

/-- What stands behind a sign, if it is not signed itself, does not begin with a sign. -/
lemma not_spellsSign (h : Derives d phrase ts e) (unsigned : phrase = .path ∨ phrase = .primary)
    {t : TokenKind} {us : List TokenKind} (split : ts = t :: us) (op : UnaryOp) :
    ¬ SpellsSign op t := by
  intro spells
  have sign := spells.kind_eq
  induction h generalizing us with
  | start _ ih => exact ih (.inr rfl) split
  | member base _ ih =>
    obtain ⟨t', vs, rfl, -⟩ := base.exists_eq_cons
    cases split
    exact ih (.inl rfl) rfl
  | name free =>
    cases split
    rcases sign with h | h | h <;> cases h
    simp [keywords] at free
  | callEmpty free =>
    cases split
    rcases sign with h | h | h <;> cases h
    simp [keywords] at free
  | call free _ _ =>
    cases split
    rcases sign with h | h | h <;> cases h
    simp [keywords] at free
  | untested | tested | tighter | operation | operand | sign | unsigned | lastArgument
  | moreArguments => simp at unsigned
  | _ =>
    cases split
    simp at sign

end Derives

/-! ## What can follow a phrase -/

/-- No token spells two operators. -/
lemma Spells.unique {t t' : TokenKind} {op op' : BinaryOp} (h : Spells op t)
    (h' : Spells op' t') (same : t = t') : op = op' := by
  cases h <;> cases h' <;> simp_all

/-- No operator is stronger than those of strength `5`. -/
lemma strength_lt (op : BinaryOp) : strength op < 6 := by
  cases op <;> decide

/-- A rest that does not turn a name into a call. -/
def NotCalled (rest : List Token) : Prop :=
  ∀ t ∈ rest.head?, t.kind ≠ .leftParen

/-- A rest that does not go on with an operator of strength `level` or above, nor with a point or
an opening parenthesis. -/
def Stops (level : Nat) (rest : List Token) : Prop :=
  ∀ t ∈ rest.head?, t.kind ≠ .dot ∧ t.kind ≠ .leftParen ∧
    ∀ op, Spells op t.kind → strength op < level

/-- A rest that does not go on with anything that could belong to the same conditional. -/
def Closes (rest : List Token) : Prop :=
  ∀ t ∈ rest.head?, t.kind ≠ .dot ∧ t.kind ≠ .leftParen ∧ t.kind ≠ .question ∧
    ∀ op, ¬ Spells op t.kind

lemma Stops.mono {j k : Nat} {rest : List Token} (h : Stops j rest) (le : j ≤ k) :
    Stops k rest := by
  intro t ht
  obtain ⟨dot, paren, weak⟩ := h t ht
  exact ⟨dot, paren, fun op spells => Nat.lt_of_lt_of_le (weak op spells) le⟩

lemma Stops.notCalled {k : Nat} {rest : List Token} (h : Stops k rest) : NotCalled rest :=
  fun t ht => (h t ht).2.1

lemma Closes.stops {rest : List Token} (h : Closes rest) (k : Nat) : Stops k rest := by
  intro t ht
  obtain ⟨dot, paren, -, weak⟩ := h t ht
  exact ⟨dot, paren, fun op spells => absurd spells (weak op)⟩

lemma closes_nil : Closes [] := by simp [Closes]

/-- A conditional ends in front of a colon, a comma or a closing parenthesis. -/
lemma closes_cons {t : Token} (h : t.kind = .colon ∨ t.kind = .comma ∨ t.kind = .rightParen)
    (tail : List Token) : Closes (t :: tail) := by
  intro t' ht
  obtain rfl := Option.some.inj ht
  rcases h with h | h | h <;> rw [h] <;> exact ⟨nofun, nofun, nofun, nofun⟩

/-- Operators end in front of a question mark. -/
lemma stops_question {t : Token} (h : t.kind = .question) (tail : List Token) :
    Stops 0 (t :: tail) := by
  intro t' ht
  obtain rfl := Option.some.inj ht
  rw [h]
  exact ⟨nofun, nofun, nofun⟩

end Reflex.Grammar
