import Reflex.Proofs.Expr.Exactness
import Reflex.Proofs.Expr.Layout

/-!
# Trees are read back from their texts

A tree that is written without needless parentheses, in whatever spelling and layout, is the tree
that the parser reads, unless more levels are open at once than may be.

* `Expr.Prints` relates a tree to its texts.
* `Grammar.Written.operand` says that the tokens of a tree stand in an order in which the lexer
  tells them apart.
* `Expr.parse_prints` is the result.
-/

namespace Reflex

open Grammar

/-! ## The order of tokens -/

namespace TokenKind

/-- Whether an operand may begin with a token. -/
def opens : TokenKind → Bool
  | .number _ | .string _ | .state _ | .field _ | .ident _ | .leftParen | .not | .minus => true
  | _ => false

/-- Whether an operand may end with a token. -/
def closes : TokenKind → Bool
  | .number _ | .string _ | .state _ | .field _ | .ident _ | .rightParen => true
  | _ => false

/-- Whether a token may stand between two operands. -/
def joins : TokenKind → Bool
  | .number _ | .string _ | .state _ | .field _ | .leftParen | .rightParen | .dot | .not => false
  | _ => true

variable {k k' : TokenKind}

lemma mayPrecede_of_closes (closes : k.closes) (joins : k'.joins) : k.mayPrecede k' := by
  cases k <;> cases closes <;> cases k' <;> cases joins <;> rfl

lemma mayPrecede_of_joins (joins : k.joins) (opens : k'.opens) : k.mayPrecede k' := by
  cases k <;> cases joins <;> cases k' <;> cases opens <;> rfl

lemma mayPrecede_rightParen (closes : k.closes) : k.mayPrecede .rightParen := by
  cases k <;> cases closes <;> rfl

lemma mayPrecede_dot (closes : k.closes) : k.mayPrecede .dot := by
  cases k <;> cases closes <;> rfl

lemma leftParen_mayPrecede : TokenKind.leftParen.mayPrecede k := by
  cases k <;> rfl

end TokenKind

namespace Grammar

/-- Tokens that stand in order, from the beginning of an operand to the end of one. -/
structure Operand (ts : List TokenKind) : Prop where
  order : ts.IsChain fun k k' => k.mayPrecede k'
  first : ∃ k, ts.head? = some k ∧ k.opens
  last : ∃ k, ts.getLast? = some k ∧ k.closes

namespace Operand

variable {ts us : List TokenKind} {k : TokenKind}

lemma single (opens : k.opens) (closes : k.closes) : Operand [k] :=
  ⟨List.isChain_singleton k, ⟨k, rfl, opens⟩, ⟨k, rfl, closes⟩⟩

/-- A token that may stand before operands is put before one. -/
lemma cons (h : Operand ts) (opens : k.opens) (before : ∀ k', k'.opens → k.mayPrecede k') :
    Operand (k :: ts) := by
  obtain ⟨order, ⟨first, head, first_opens⟩, last, final, closes⟩ := h
  refine ⟨List.isChain_cons.2 ⟨fun k' head' => ?_, order⟩, ⟨k, rfl, opens⟩, last, ?_, closes⟩
  · obtain rfl : first = k' := Option.some.inj (head.symm.trans head')
    exact before first first_opens
  · rw [List.getLast?_cons, final]
    rfl

/-- Tokens that end as an operand does are put behind one. -/
lemma append (h : Operand ts) (order : (k :: us).IsChain fun k k' => k.mayPrecede k')
    (after : ∀ k' : TokenKind, k'.closes → k'.mayPrecede k)
    (last : ∃ k', (k :: us).getLast? = some k' ∧ k'.closes) : Operand (ts ++ k :: us) := by
  obtain ⟨final, isLast, closes⟩ := h.last
  obtain ⟨first, isFirst, opens⟩ := h.first
  obtain ⟨k', isLast', closes'⟩ := last
  refine ⟨h.order.append order fun x mem y mem' => ?_, ⟨first, ?_, opens⟩, k', ?_, closes'⟩
  · obtain rfl : final = x := Option.some.inj (isLast.symm.trans mem)
    obtain rfl : k = y := Option.some.inj mem'
    exact after final closes
  · rw [List.head?_append, isFirst, Option.some_or]
  · rw [List.getLast?_append, isLast', Option.some_or]

/-- Two operands are joined. -/
lemma join (h : Operand ts) (joins : k.joins) (h' : Operand us) : Operand (ts ++ k :: us) := by
  obtain ⟨first, isFirst, opens⟩ := h'.first
  obtain ⟨last, isLast, closes⟩ := h'.last
  refine h.append (List.isChain_cons.2 ⟨fun k' mem => ?_, h'.order⟩)
    (fun _ closes => TokenKind.mayPrecede_of_closes closes joins) ⟨last, ?_, closes⟩
  · obtain rfl : first = k' := Option.some.inj (isFirst.symm.trans mem)
    exact TokenKind.mayPrecede_of_joins joins opens
  · rw [List.getLast?_cons, isLast]
    rfl

lemma parens (h : Operand ts) : Operand (.leftParen :: (ts ++ [.rightParen])) := by
  have closed : Operand (ts ++ [.rightParen]) := h.append (List.isChain_singleton _)
    (fun _ => TokenKind.mayPrecede_rightParen) ⟨_, rfl, rfl⟩
  exact closed.cons rfl fun _ _ => TokenKind.leftParen_mayPrecede

lemma member (h : Operand ts) (name : String) : Operand (ts ++ [.dot, .ident name]) :=
  h.append (List.isChain_cons_cons.2 ⟨rfl, List.isChain_singleton _⟩)
    (fun _ => TokenKind.mayPrecede_dot) ⟨_, rfl, rfl⟩

lemma sign {op : UnaryOp} (h : Operand ts) (spells : SpellsSign op k) : Operand (k :: ts) := by
  cases spells with
  | bang => exact h.cons rfl fun k' opens => by cases k' <;> cases opens <;> rfl
  | word => exact h.cons rfl fun k' opens => TokenKind.mayPrecede_of_joins rfl opens
  | minus => exact h.cons rfl fun k' opens => TokenKind.mayPrecede_of_joins rfl opens

end Operand

lemma joins_of_spells {op : BinaryOp} {k : TokenKind} (h : Spells op k) : k.joins := by
  cases h <;> rfl

/-- The tokens of a tree that is written stand in order. -/
lemma Written.operand {place : Place} {e : Expr} {ts : List TokenKind} (h : Written place e ts) :
    Operand ts := by
  induction h with
  | tight _ _ ih => exact ih
  | loose _ _ _ ih => exact ih.parens
  | conditional _ _ _ ihTest ihYes ihNo => exact ihTest.join rfl (ihYes.join rfl ihNo)
  | binary _ spells _ ihLeft ihRight => exact ihLeft.join (joins_of_spells spells) ihRight
  | unary spells _ ih => exact ih.sign spells
  | member name _ ih => exact ih.member name
  | callEmpty =>
    refine ⟨?_, ⟨_, rfl, rfl⟩, _, rfl, rfl⟩
    exact .cons_cons rfl (.cons_cons rfl (.singleton _))
  | call _ _ ih =>
    exact ih.parens.cons rfl fun k' opens => TokenKind.mayPrecede_of_joins rfl opens
  | lastArgument _ ih => exact ih
  | moreArguments _ _ ihFirst ihMore => exact ihFirst.join rfl ihMore
  | _ => exact .single rfl rfl

end Grammar

/-! ## Reading back -/

namespace Expr

/-- A text is one of a tree. -/
def Prints (e : Expr) (source : String) : Prop :=
  ∃ ts, Written (.atLeast 0) e ts ∧ Laid ts source.toList

variable {e : Expr} {source : String}

/-- A text that is cut into tokens is read as they are. -/
lemma parse_eq_ok_iff {tokens : Tokens} (tokenizes : Tokens.ofSource source = .ok tokens) :
    Expr.parse source = .ok e ↔ Expr.ofTokens tokens = .ok e := by
  have read : (Tokens.ofSource source >>= Expr.ofTokens) = Expr.ofTokens tokens := by
    rw [tokenizes]
    rfl
  rw [Expr.parse, read]
  cases Expr.ofTokens tokens <;> simp

lemma parse_eq_ok_iff_levels (prints : e.Prints source) :
    Expr.parse source = .ok e ↔ e.levels 0 ≤ maxNesting := by
  obtain ⟨ts, written, laid⟩ := prints
  have unpointed : false → ∀ k ∈ ts.head?, ∀ x, k ≠ .number x := nofun
  obtain ⟨tokens, tokenizes, kinds⟩ := laid.cut written.operand.order 0 unpointed
  rw [parse_eq_ok_iff tokenizes, Parser.ofTokens_eq_ok_iff, kinds, written.derives_iff]

/-! ## Every tree has a text -/

mutual

/-- Whether a tree can be written at all: the names in it are names, and its numbers are those of
numerals. -/
def Writable : Expr → Prop
  | .literal v => (∃ s, v = .string s) ∨ (∃ b, v = .bool b) ∨ v = .null ∨
      ∃ x text, TokenText (.number x) text ∧ v = .ofExtended x
  | .state name => ∃ text, TokenText (.state name) text
  | .field name => ∃ text, TokenText (.field name) text
  | .ident name => name ∉ keywords ∧ ∃ text, TokenText (.ident name) text
  | .member base name => base.Writable ∧ ∃ text, TokenText (.ident name) text
  | .call name args => name ∉ keywords ∧ (∃ text, TokenText (.ident name) text) ∧ AllWritable args
  | .unary _ operand => operand.Writable
  | .binary _ left right => left.Writable ∧ right.Writable
  | .conditional test yes no => test.Writable ∧ yes.Writable ∧ no.Writable

/-- Whether trees can all be written. -/
def AllWritable : List Expr → Prop
  | [] => True
  | e :: es => e.Writable ∧ AllWritable es

end

end Expr

/-- Whether every token of a list has a text. -/
def Spelt (ts : List TokenKind) : Prop :=
  ∀ k ∈ ts, ∃ text, TokenText k text

namespace Spelt

variable {ts us : List TokenKind} {k : TokenKind}

lemma append (h : Spelt ts) (h' : Spelt us) : Spelt (ts ++ us) :=
  List.forall_mem_append.2 ⟨h, h'⟩

lemma nil : Spelt [] :=
  List.forall_mem_nil _

lemma cons (here : ∃ text, TokenText k text) (h : Spelt ts) : Spelt (k :: ts) :=
  List.forall_mem_cons.2 ⟨here, h⟩

lemma single (here : ∃ text, TokenText k text) : Spelt [k] :=
  cons here nil

lemma sign (mem : k ∈ signs.map Prod.fst) (h : Spelt ts) : Spelt (k :: ts) := by
  obtain ⟨⟨_, text⟩, listed, rfl⟩ := List.mem_map.1 mem
  exact cons ⟨text, .sign listed⟩ h

lemma parens (h : Spelt ts) : Spelt (.leftParen :: (ts ++ [.rightParen])) :=
  sign (by simp [signs]) (h.append (sign (by simp [signs]) nil))

/-- Tokens that have texts can be set down. -/
lemma exists_laid (h : Spelt ts) :
    ∃ cs, Laid ts cs ∧ ∀ c ∈ cs.head?, Text.isName c = false := by
  induction ts with
  | nil => exact ⟨[], .nil (fun _ mem => absurd mem List.not_mem_nil), fun _ head => by cases head⟩
  | cons k ts ih =>
    obtain ⟨⟨text, written⟩, others⟩ := List.forall_mem_cons.1 h
    obtain ⟨rest, laid, stop⟩ := ih others
    have blank : ∀ c ∈ [' '], Text.isBlank c := fun c mem => by
      rw [List.mem_singleton.1 mem]
      rfl
    refine ⟨_, .cons blank written (fun _ => stop) laid, fun c head => ?_⟩
    obtain rfl : ' ' = c := Option.some.inj head
    rfl

end Spelt

/-- Every string can be escaped. -/
lemma exists_escaped (value : List Char) : ∃ text, Escaped '\x22' value text := by
  induction value with
  | nil => exact ⟨[], .nil⟩
  | cons c value ih =>
    obtain ⟨text, escaped⟩ := ih
    by_cases quote : c = '\x22'
    · subst quote
      exact ⟨_, .escape '\x22' escaped⟩
    · by_cases mark : c = '\x5c'
      · subst mark
        exact ⟨_, .escape '\x5c' escaped⟩
      · exact ⟨_, .plain quote mark escaped⟩

lemma exists_text_string (s : String) : ∃ text, TokenText (.string s) text := by
  obtain ⟨text, escaped⟩ := exists_escaped s.toList
  exact ⟨_, .string (.inl rfl) escaped⟩

/-- The constants are words. -/
lemma exists_text_constant {word : String} (constant : word ∈ ["true", "false", "null"]) :
    ∃ text, TokenText (.ident word) text := by
  simp only [List.mem_cons, List.not_mem_nil, or_false] at constant
  rcases constant with rfl | rfl | rfl
  · exact ⟨['t', 'r', 'u', 'e'], .ident rfl (List.all_eq_true.1 rfl)⟩
  · exact ⟨['f', 'a', 'l', 's', 'e'], .ident rfl (List.all_eq_true.1 rfl)⟩
  · exact ⟨['n', 'u', 'l', 'l'], .ident rfl (List.all_eq_true.1 rfl)⟩

/-- Every operator has a sign. -/
lemma exists_spells (op : BinaryOp) : ∃ k, Spells op k ∧ k ∈ signs.map Prod.fst := by
  cases op
  case or => exact ⟨_, .orSign, by simp [signs]⟩
  case and => exact ⟨_, .andSign, by simp [signs]⟩
  all_goals exact ⟨_, by constructor, by simp [signs]⟩

lemma exists_spellsSign (op : UnaryOp) : ∃ k, SpellsSign op k ∧ k ∈ signs.map Prod.fst := by
  cases op with
  | not => exact ⟨_, .bang, by simp [signs]⟩
  | neg => exact ⟨_, .minus, by simp [signs]⟩

namespace Grammar

lemma exists_written_atLeast {e : Expr} {k : Nat} (le : k ≤ 8)
    (h : ∃ ts, Written .bare e ts ∧ Spelt ts) : ∃ ts, Written (.atLeast k) e ts ∧ Spelt ts := by
  obtain ⟨ts, form, spelt⟩ := h
  rcases Nat.lt_or_ge e.tightness k with lt | ge
  · exact ⟨_, .loose lt le form, spelt.parens⟩
  · exact ⟨ts, .tight ge form, spelt⟩

mutual

lemma exists_written : (e : Expr) → e.Writable → ∃ ts, Written .bare e ts ∧ Spelt ts
  | .literal v, h => by
    rcases h with ⟨s, rfl⟩ | ⟨b, rfl⟩ | rfl | ⟨x, text, written, rfl⟩
    · exact ⟨_, .string s, .single (exists_text_string s)⟩
    · cases b with
      | true => exact ⟨_, .true, .single (exists_text_constant (by simp))⟩
      | false => exact ⟨_, .false, .single (exists_text_constant (by simp))⟩
    · exact ⟨_, .null, .single (exists_text_constant (by simp))⟩
    · exact ⟨_, .number x, .single ⟨text, written⟩⟩
  | .state name, h => ⟨_, .state name, .single h⟩
  | .field name, h => ⟨_, .field name, .single h⟩
  | .ident name, ⟨free, h⟩ => ⟨_, .name free, .single h⟩
  | .member base name, ⟨h, segment⟩ => by
    obtain ⟨ts, written, spelt⟩ := exists_written_atLeast (Nat.le_refl 8) (exists_written base h)
    exact ⟨_, .member name written, spelt.append (.sign (by simp [signs]) (.single segment))⟩
  | .call name args, ⟨free, h, all⟩ => by
    rcases exists_arguments name args all with rfl | ⟨ts, written, spelt⟩
    · exact ⟨_, .callEmpty free, .cons h Spelt.nil.parens⟩
    · exact ⟨_, .call free written, .cons h spelt.parens⟩
  | .unary op operand, h => by
    obtain ⟨k, spells, sign⟩ := exists_spellsSign op
    obtain ⟨ts, written, spelt⟩ :=
      exists_written_atLeast (by decide : 7 ≤ 8) (exists_written operand h)
    exact ⟨_, .unary spells written, .sign sign spelt⟩
  | .binary op left right, ⟨h, h'⟩ => by
    have bound := strength_lt op
    obtain ⟨k, spells, sign⟩ := exists_spells op
    obtain ⟨ts, written, spelt⟩ :=
      exists_written_atLeast (by omega : strength op + 1 ≤ 8) (exists_written left h)
    obtain ⟨us, written', spelt'⟩ :=
      exists_written_atLeast (by omega : strength op + 2 ≤ 8) (exists_written right h')
    exact ⟨_, .binary written spells written', spelt.append (.sign sign spelt')⟩
  | .conditional test yes no, ⟨h, h', h''⟩ => by
    obtain ⟨ts, written, spelt⟩ :=
      exists_written_atLeast (by decide : 1 ≤ 8) (exists_written test h)
    obtain ⟨us, written', spelt'⟩ := exists_written_atLeast (Nat.zero_le 8) (exists_written yes h')
    obtain ⟨vs, written'', spelt''⟩ :=
      exists_written_atLeast (Nat.zero_le 8) (exists_written no h'')
    exact ⟨_, .conditional written written' written'', spelt.append
      (.sign (by simp [signs]) (spelt'.append (.sign (by simp [signs]) spelt'')))⟩

lemma exists_arguments (function : String) : (es : List Expr) → Expr.AllWritable es →
    es = [] ∨ ∃ ts, Written (.arguments function) (.call function es) ts ∧ Spelt ts
  | [], _ => .inl rfl
  | e :: es, ⟨h, h'⟩ => by
    obtain ⟨ts, written, spelt⟩ := exists_written_atLeast (Nat.zero_le 8) (exists_written e h)
    rcases exists_arguments function es h' with rfl | ⟨us, more, spelt'⟩
    · exact .inr ⟨ts, .lastArgument written, spelt⟩
    · exact .inr ⟨_, .moreArguments written more, spelt.append (.sign (by simp [signs]) spelt')⟩

end

end Grammar

namespace Expr

lemma exists_prints {e : Expr} (writable : e.Writable) : ∃ source, e.Prints source := by
  obtain ⟨ts, written, spelt⟩ :=
    exists_written_atLeast (Nat.zero_le 8) (exists_written e writable)
  obtain ⟨cs, laid, -⟩ := spelt.exists_laid
  refine ⟨String.ofList cs, ts, written, ?_⟩
  rwa [String.toList_ofList]

/-- **What is printed is parsed again.**  A tree is written with parentheses only where precedence
or associativity ask for them, in any of the spellings of its operators, with strings in either
quotes and escaped in any way, and with any white space between tokens, of which there has to be
some only where a word would go on.  The text is parsed to that very tree just when at most
`maxNesting` levels are open at once.  And every tree has such a text, if its names can be written
and its numbers are those of numerals. -/
theorem parse_prints :
    (∀ (e : Expr) (source : String), e.Prints source →
      (Expr.parse source = .ok e ↔ e.levels 0 ≤ maxNesting)) ∧
    ∀ e : Expr, e.Writable → ∃ source, e.Prints source :=
  ⟨fun _ _ => parse_eq_ok_iff_levels, fun _ => exists_prints⟩

/-- Whether signed operands are equal, or else a string. -/
def disjunction (x : Extended) : Expr :=
  .binary .or
    (.binary .eq (.unary .not (.member (.ident "a") "b")) (.unary .neg (.literal (.ofExtended x))))
    (.literal (.string "it's"))

/-- No blank is needed, not even before the word. -/
lemma prints_disjunction {x : Extended} (a : TokenText (.ident "a") ['a'])
    (b : TokenText (.ident "b") ['b']) (one : TokenText (.number x) ['1']) :
    (disjunction x).Prints "!a.b===-1or'it\x5c's'" := by
  have tight : ∀ c ∈ ([] : List Char), Text.isBlank c := nofun
  have bang : TokenText .not ['!'] := .sign (by simp [signs])
  have dot : TokenText .dot ['.'] := .sign (by simp [signs])
  have equal : TokenText .equal ['=', '=', '='] := .sign (by simp [signs])
  have minus : TokenText .minus ['-'] := .sign (by simp [signs])
  have or : TokenText (.ident "or") ['o', 'r'] := .ident rfl (List.all_eq_true.1 rfl)
  have escaped : Escaped '\x27' ['i', 't', '\x27', 's'] ['i', 't', '\x5c', '\x27', 's'] :=
    .plain (by decide) (by decide) (.plain (by decide) (by decide)
      (.escape '\x27' (.plain (by decide) (by decide) .nil)))
  have string : TokenText (.string "it's")
      ('\x27' :: (['i', 't', '\x5c', '\x27', 's'] ++ ['\x27'])) := .string (.inr rfl) escaped
  have stops {c : Char} {cs : List Char} (other : Text.isName c = false) :
      ∀ d ∈ (c :: cs).head?, Text.isName d = false := fun d head => by
    rwa [← Option.some.inj head]
  have chars : "!a.b===-1or'it\x5c's'".toList = ['!', 'a', '.', 'b', '=', '=', '=', '-', '1', 'o',
      'r', '\x27', 'i', 't', '\x5c', '\x27', 's', '\x27'] := rfl
  refine ⟨[.not, .ident "a", .dot, .ident "b", .equal, .minus, .number x, .ident "or",
    .string "it's"], ?_, ?_⟩
  · have left : Written .bare (.unary .not (.member (.ident "a") "b")) _ :=
      .unary .bang (.tight (by decide) (.member "b" (.tight (by decide) (.name (by decide)))))
    have right : Written .bare (.unary .neg (.literal (.ofExtended x))) _ :=
      .unary .minus (.tight (Nat.le_of_ble_eq_true rfl) (.number x))
    have test := Written.binary (.tight (by decide) left) .equal
      (.tight (Nat.le_of_ble_eq_true rfl) right)
    exact .tight (Nat.zero_le _)
      (.binary (.tight (Nat.le_of_ble_eq_true rfl) test) .orWord (.tight (by decide) (.string _)))
  · rw [chars]
    exact .cons tight bang nofun (.cons tight a (fun _ => stops rfl) (.cons tight dot nofun
      (.cons tight b (fun _ => stops rfl) (.cons tight equal nofun (.cons tight minus nofun
        (.cons tight one nofun (.cons tight or (fun _ => stops rfl)
          (.cons tight string nofun (.nil tight)))))))))

/-- The tree has a text, and one in which there are no blanks is parsed to it. -/
theorem parse_prints_disjunction :
    let e := disjunction (.ofDecimal false 1 0)
    e.Writable ∧ (∃ source, e.Prints source) ∧
      e.Prints "!a.b===-1or'it\x5c's'" ∧ Expr.parse "!a.b===-1or'it\x5c's'" = .ok e := by
  intro e
  have one : TokenText (.number (.ofDecimal false 1 0)) ['1'] :=
    .number rfl ((ofSource_eq_number_iff rfl).2 ⟨rfl, rfl⟩)
  have a : TokenText (.ident "a") ['a'] := .ident rfl nofun
  have b : TokenText (.ident "b") ['b'] := .ident rfl nofun
  have writable : e.Writable :=
    ⟨⟨⟨⟨by decide, _, a⟩, _, b⟩, .inr (.inr (.inr ⟨_, _, one, rfl⟩))⟩, .inl ⟨_, rfl⟩⟩
  have prints : e.Prints "!a.b===-1or'it\x5c's'" := prints_disjunction a b one
  have levels : ∀ x, (disjunction x).levels 0 = 3 := fun x => rfl
  refine ⟨writable, parse_prints.2 e writable, prints, (parse_prints.1 e _ prints).2 ?_⟩
  rw [levels]
  decide

end Expr

end Reflex
