import Reflex.Proofs.Expr.Grammar

/-!
# Writing trees

Every tree is written with parentheses where the grammar asks for them and nowhere else.  Whether
it does depends on how tightly the tree holds together and on how tight it has to be where it
stands: the left operand of an operator has to be as tight as the operator and the right operand
tighter, whereas anything may stand in a branch of a conditional or among arguments.  Where the
grammar leaves a choice between spellings of an operator, any of them may be written.

* `Grammar.Written` relates a tree to the tokens that it may be written with.
* `Expr.levels` is the number of levels that are then open at once.
* `Grammar.Written.derives_iff` says that the grammar derives the tree from these tokens, and that
  this takes neither fewer nor more levels.
-/

namespace Reflex

open Grammar

namespace Expr

/-- How tightly a tree holds together: a conditional not at all, an operation as its operator, and
what is neither an operation nor signed most. -/
def tightness : Expr → Nat
  | .conditional _ _ _ => 0
  | .binary op _ _ => strength op + 1
  | .unary _ _ => 7
  | _ => 8

/-- How many levels are opened where a tree of some tightness stands, apart from those that its own
parts open.  Whole expressions open one, be it between parentheses, and so do operands that have no
sign. -/
def levelsAround (place tightness : Nat) : Nat :=
  (if place = 0 ∨ tightness < place then 1 else 0) +
    if place < 8 ∧ (tightness = 8 ∨ tightness < place) then 1 else 0

mutual

/-- How many levels are open at once, at most, where a tree is written that has to be so tight. -/
def levels : Expr → (place : Nat) → Nat
  | .conditional test yes no, place =>
    levelsAround place 0 + max (test.levels 1) (max (yes.levels 0) (no.levels 0))
  | .binary op left right, place =>
    levelsAround place (strength op + 1) +
      max (left.levels (strength op + 1)) (right.levels (strength op + 2))
  | .unary _ operand, place => levelsAround place 7 + (operand.levels 7 + 1)
  | .member base _, place => levelsAround place 8 + base.levels 8
  | .call _ args, place => levelsAround place 8 + levelsAll args
  | .literal _, place => levelsAround place 8
  | .state _, place => levelsAround place 8
  | .field _, place => levelsAround place 8
  | .ident _, place => levelsAround place 8

/-- How many levels are open at once in the arguments of a call. -/
def levelsAll : List Expr → Nat
  | [] => 0
  | e :: es => max (e.levels 0) (levelsAll es)

end

variable {e : Expr} {p q n : Nat}

lemma tightness_le (e : Expr) : e.tightness ≤ 8 := by
  cases e with
  | binary op left right => exact Nat.le_trans (strength_lt op) (by decide)
  | _ => simp [tightness]

/-! A tree that stands where it is just tight enough opens no levels but its own. -/

variable {test yes no left right base operand : Expr} {args : List Expr} {op : BinaryOp}
  {sign : UnaryOp} {name : String}

@[simp] lemma levels_conditional : (conditional test yes no).levels 0 =
    max (test.levels 1) (max (yes.levels 0) (no.levels 0)) + 1 := by
  rw [levels, Nat.add_comm]
  rfl

@[simp] lemma levels_binary : (binary op left right).levels (strength op + 1) =
    max (left.levels (strength op + 1)) (right.levels (strength op + 2)) := by
  cases op <;> exact Nat.zero_add _

@[simp] lemma levels_unary : (unary sign operand).levels 7 = operand.levels 7 + 1 :=
  Nat.zero_add _

@[simp] lemma levels_member : (member base name).levels 8 = base.levels 8 :=
  Nat.zero_add _

@[simp] lemma levels_call : (call name args).levels 8 = levelsAll args :=
  Nat.zero_add _

/-- What is inside of a tree opens the same levels wherever the tree stands. -/
lemma levels_add_around (e : Expr) (p q : Nat) :
    e.levels p + levelsAround q e.tightness = e.levels q + levelsAround p e.tightness := by
  cases e <;> simp only [levels, tightness] <;> omega

lemma levels_le_add (h : levelsAround p e.tightness ≤ levelsAround q e.tightness + n) :
    e.levels p ≤ e.levels q + n := by
  have := levels_add_around e p q
  omega

lemma add_le_levels (h : levelsAround q e.tightness + n ≤ levelsAround p e.tightness) :
    e.levels q + n ≤ e.levels p := by
  have := levels_add_around e p q
  omega

lemma levels_whole (e : Expr) : e.levels 0 ≤ e.levels 1 + 1 := by
  refine levels_le_add ?_
  rw [levelsAround, levelsAround]
  (repeat' split) <;> omega

lemma levels_mono (e : Expr) (pos : 0 < p) (le : p ≤ q) (lt : q < 8) :
    e.levels p ≤ e.levels q := by
  refine levels_le_add (n := 0) ?_
  rw [levelsAround, levelsAround]
  (repeat' split) <;> omega

lemma levels_operand (e : Expr) : e.levels 7 ≤ e.levels 8 + 1 := by
  refine levels_le_add ?_
  rw [levelsAround, levelsAround]
  (repeat' split) <;> omega

lemma levels_parens (e : Expr) : e.levels 8 ≤ e.levels 0 := by
  have bound := e.tightness_le
  refine levels_le_add (n := 0) ?_
  rw [levelsAround, levelsAround]
  (repeat' split) <;> omega

end Expr

namespace Grammar

/-! ## Written trees -/

/-- Where a tree is written. -/
inductive Place
  /-- Nothing is asked of the tree. -/
  | bare
  /-- The tree has to be so tight, or in parentheses. -/
  | atLeast (tightness : Nat)
  /-- The arguments of the tree, a call, are written. -/
  | arguments (function : String)

/-- The tokens that a tree may be written with at a place. -/
inductive Written : Place → Expr → List TokenKind → Prop
  | tight {k e ts} (le : k ≤ e.tightness) (form : Written .bare e ts) : Written (.atLeast k) e ts
  | loose {k e ts} (lt : e.tightness < k) (le : k ≤ 8) (form : Written .bare e ts) :
      Written (.atLeast k) e (.leftParen :: (ts ++ [.rightParen]))
  | conditional {test yes no ts us vs} (test_written : Written (.atLeast 1) test ts)
      (yes_written : Written (.atLeast 0) yes us) (no_written : Written (.atLeast 0) no vs) :
      Written .bare (.conditional test yes no) (ts ++ .question :: (us ++ .colon :: vs))
  | binary {op t l r ts us} (left : Written (.atLeast (strength op + 1)) l ts)
      (spells : Spells op t) (right : Written (.atLeast (strength op + 2)) r us) :
      Written .bare (.binary op l r) (ts ++ t :: us)
  | unary {op t e ts} (spells : SpellsSign op t) (operand : Written (.atLeast 7) e ts) :
      Written .bare (.unary op e) (t :: ts)
  | member {e ts} (name : String) (base : Written (.atLeast 8) e ts) :
      Written .bare (.member e name) (ts ++ [.dot, .ident name])
  | number (x : Extended) : Written .bare (.literal (.ofExtended x)) [.number x]
  | string (s : String) : Written .bare (.literal (.string s)) [.string s]
  | true : Written .bare (.literal (.bool true)) [.ident "true"]
  | false : Written .bare (.literal (.bool false)) [.ident "false"]
  | null : Written .bare (.literal .null) [.ident "null"]
  | state (name : String) : Written .bare (.state name) [.state name]
  | field (name : String) : Written .bare (.field name) [.field name]
  | name {name : String} (free : name ∉ keywords) : Written .bare (.ident name) [.ident name]
  | callEmpty {name : String} (free : name ∉ keywords) :
      Written .bare (.call name []) [.ident name, .leftParen, .rightParen]
  | call {name : String} {args ts} (free : name ∉ keywords)
      (inner : Written (.arguments name) (.call name args) ts) :
      Written .bare (.call name args) (.ident name :: .leftParen :: (ts ++ [.rightParen]))
  | lastArgument {e ts function} (last : Written (.atLeast 0) e ts) :
      Written (.arguments function) (.call function [e]) ts
  | moreArguments {e es ts us function} (first : Written (.atLeast 0) e ts)
      (more : Written (.arguments function) (.call function es) us) :
      Written (.arguments function) (.call function (e :: es)) (ts ++ .comma :: us)

/-! ## The grammar derives them -/

variable {d c k t : Nat} {e : Expr} {ts : List TokenKind}

/-- The phrase that a tree is which is so tight. -/
def phraseAt : Nat → Phrase
  | 0 => .conditional
  | 1 => .chain 0
  | 2 => .chain 1
  | 3 => .chain 2
  | 4 => .chain 3
  | 5 => .chain 4
  | 6 => .chain 5
  | 7 => .signed
  | _ => .path

lemma phraseAt_strength (op : BinaryOp) : phraseAt (strength op + 1) = .chain (strength op) := by
  cases op <;> rfl

/-- The right operand of an operator is a phrase of the next strength. -/
lemma Derives.chain_of_phraseAt {op : BinaryOp} (h : Derives d (phraseAt (strength op + 2)) ts e) :
    Derives d (.chain (strength op + 1)) ts e := by
  cases op with
  | mul | div | rem => exact .operand h
  | _ => exact h

/-- A phrase is one of the next looser kind, too, which at two places opens a level. -/
lemma Derives.loosen (h : Derives d (phraseAt (k + 1)) ts e) :
    Derives (d + if k = 0 ∨ k = 7 then 1 else 0) (phraseAt k) ts e := by
  match k with
  | 0 => exact .untested h
  | 1 | 2 | 3 | 4 | 5 => exact .tighter h
  | 6 => exact .tighter (.operand h)
  | 7 => exact .unsigned h
  | k + 8 => simpa [phraseAt] using h

lemma Derives.loosenTo (le : k ≤ t) (h : Derives d (phraseAt t) ts e)
    (room : d + (if k = 0 ∧ 0 < t then 1 else 0) + (if k < 8 ∧ 8 ≤ t then 1 else 0) ≤ c) :
    Derives c (phraseAt k) ts e := by
  obtain ⟨n, rfl⟩ := Nat.exists_eq_add_of_le le
  induction n generalizing d with
  | zero => exact h.mono (by omega)
  | succ n ih =>
    refine ih (Nat.le_add_right k n) (loosen h) ?_
    (repeat' split) <;> (repeat' split at room) <;> omega

/-- The phrase that is written at a place. -/
def Place.phrase (e : Expr) : Place → Phrase
  | .bare => phraseAt e.tightness
  | .atLeast k => phraseAt k
  | .arguments function => .arguments function

/-- How many levels are open at once in what is written at a place. -/
def Place.levels (e : Expr) : Place → Nat
  | .bare => e.levels e.tightness
  | .atLeast k => e.levels k
  | .arguments _ => e.levels 8

/-- A tree that is tight enough stands as it is. -/
lemma Derives.of_tight (le : k ≤ e.tightness)
    (h : Derives (e.levels e.tightness) (phraseAt e.tightness) ts e) :
    Derives (e.levels k) (phraseAt k) ts e := by
  have bound := e.tightness_le
  refine h.loosenTo le ?_
  rw [Nat.add_assoc]
  refine Expr.add_le_levels ?_
  rw [Expr.levelsAround, Expr.levelsAround]
  (repeat' split) <;> omega

/-- Parentheses make any tree as tight as can be. -/
lemma Derives.of_loose (lt : e.tightness < k) (le : k ≤ 8)
    (h : Derives (e.levels e.tightness) (phraseAt e.tightness) ts e) :
    Derives (e.levels k) (phraseAt k) (.leftParen :: (ts ++ [.rightParen])) e := by
  have inside : Derives (e.levels 0) .conditional ts e := h.of_tight (Nat.zero_le _)
  have enclosed : Derives (e.levels 0) (phraseAt 8) (.leftParen :: (ts ++ [.rightParen])) e :=
    .start (.parens inside)
  refine enclosed.loosenTo le ?_
  rw [Nat.add_assoc]
  refine Expr.add_le_levels ?_
  rw [Expr.levelsAround, Expr.levelsAround]
  (repeat' split) <;> omega

/-- The grammar derives a tree from the tokens that it is written with. -/
lemma Written.derives {place : Place} (h : Written place e ts) :
    Derives (place.levels e) (place.phrase e) ts e := by
  induction h with
  | tight le _ ih => exact ih.of_tight le
  | loose lt le _ ih => exact ih.of_loose lt le
  | conditional _ _ _ ihTest ihYes ihNo =>
    simp only [Place.levels, Expr.tightness, Expr.levels_conditional]
    exact .tested (ihTest.mono (Nat.le_max_left _ _))
      (ihYes.mono (Nat.le_trans (Nat.le_max_left _ _) (Nat.le_max_right _ _)))
      (ihNo.mono (Nat.le_trans (Nat.le_max_right _ _) (Nat.le_max_right _ _)))
  | @binary op t l r ts us _ spells _ ihLeft ihRight =>
    simp only [Place.levels, Place.phrase, Expr.tightness, Expr.levels_binary, phraseAt_strength]
    have left := ihLeft.mono (Nat.le_max_left _ (r.levels (strength op + 2)))
    have right := ihRight.mono (Nat.le_max_right (l.levels (strength op + 1)) _)
    rw [Place.phrase, phraseAt_strength] at left
    exact .operation left spells right.chain_of_phraseAt
  | unary spells _ ih =>
    simp only [Place.levels, Expr.tightness, Expr.levels_unary]
    exact .sign spells ih
  | member name _ ih =>
    simp only [Place.levels, Expr.tightness, Expr.levels_member]
    exact .member ih (.name name)
  | number x => exact .start (.number x)
  | string s => exact .start (.string s)
  | true => exact .start .true
  | false => exact .start .false
  | null => exact .start .null
  | state name => exact .start (.state name)
  | field name => exact .start (.field name)
  | name free => exact .start (.name free)
  | callEmpty free => exact .start (.callEmpty free)
  | call free _ ih => exact .start (.call free ih)
  | lastArgument _ ih =>
    simp only [Place.levels, Expr.levels_call, Expr.levelsAll]
    exact .lastArgument (ih.mono (Nat.le_max_left _ _))
  | moreArguments _ _ ihFirst ihMore =>
    simp only [Place.levels, Expr.levels_call, Expr.levelsAll] at ihMore ⊢
    exact .moreArguments (ihFirst.mono (Nat.le_max_left _ _)) (ihMore.mono (Nat.le_max_right _ _))

/-! ## No fewer levels are enough -/

/-- How tight a tree has to be that is such a phrase. -/
def Phrase.place : Phrase → Nat
  | .conditional => 0
  | .chain level => min (level + 1) 7
  | .signed => 7
  | .path | .primary | .arguments _ => 8

/-- A derivation opens all the levels of its tree. -/
lemma Derives.levels_le {phrase : Phrase} (h : Derives d phrase ts e) :
    e.levels phrase.place ≤ d := by
  induction h with
  | @untested d ts e _ ih => exact Nat.le_trans e.levels_whole (Nat.succ_le_succ ih)
  | @tested d _ _ _ test yes no _ _ _ ihTest ihYes ihNo =>
    rw [Phrase.place, Expr.levels_conditional]
    exact Nat.succ_le_succ (Nat.max_le.2 ⟨ihTest, Nat.max_le.2 ⟨ihYes, ihNo⟩⟩)
  | @tighter d k ts e _ ih =>
    have mono : e.levels (min (k + 1) 7) ≤ e.levels (min (k + 2) 7) :=
      e.levels_mono (by omega) (by omega) (by omega)
    exact Nat.le_trans mono ih
  | @operation d op _ _ _ _ _ _ _ _ ihLeft ihRight =>
    have bound := strength_lt op
    rw [Phrase.place, Nat.min_eq_left (by omega)] at ihLeft ihRight ⊢
    rw [Expr.levels_binary]
    exact Nat.max_le.2 ⟨ihLeft, ihRight⟩
  | operand _ ih => exact ih
  | sign _ _ ih =>
    rw [Phrase.place, Expr.levels_unary]
    exact Nat.succ_le_succ ih
  | @unsigned d ts e _ ih => exact Nat.le_trans e.levels_operand (Nat.succ_le_succ ih)
  | start _ ih => exact ih
  | member _ _ ih =>
    rw [Phrase.place, Expr.levels_member]
    exact ih
  | call _ _ ih => exact ih
  | @parens d ts e _ ih => exact Nat.le_trans e.levels_parens ih
  | lastArgument _ ih =>
    rw [Phrase.place, Expr.levels_call]
    exact Nat.max_le.2 ⟨ih, Nat.zero_le _⟩
  | moreArguments _ _ ihFirst ihMore =>
    rw [Phrase.place, Expr.levels_call] at ihMore ⊢
    exact Nat.max_le.2 ⟨ihFirst, ihMore⟩
  | _ => exact Nat.zero_le _

/-- The grammar derives a tree from the tokens that it is written with, where so many levels may be
open as it takes, and not where fewer may. -/
theorem Written.derives_iff (h : Written (.atLeast 0) e ts) :
    Derives d .conditional ts e ↔ e.levels 0 ≤ d :=
  ⟨Derives.levels_le, h.derives.mono⟩

end Grammar

end Reflex
