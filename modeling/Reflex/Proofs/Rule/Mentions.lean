import Reflex.Proofs.Rule.Compiled

/-!
# The references of compiled rules are what their expressions mention

The references are found in the text of the expressions, before any of it is parsed: a dollar sign
and the word after it count also inside of a string, and a word may have letters of any script.
When rules compile, each of their texts is one that the lexer can cut into tokens, and there the
scan finds every state variable of the tree, under its own name.

* `Rule.sources` and `CompiledRule.formulas` are the expressions of a rule, as texts and parsed.
* `infix_of_mem_stateNames` says that a name which the scan finds stands in the text.
* `RuleSet.references_cover_mentions` is about all expressions of rules that compile.
-/

namespace Reflex

/-- The texts of the conditions and of the new values of a rule. -/
def Rule.sources (rule : Rule) : List String :=
  rule.conditions ++ rule.updates.map (·.2)

/-- The conditions and the new values of a compiled rule. -/
def CompiledRule.formulas (rule : CompiledRule) : List Formula :=
  rule.conditions ++ rule.updates.map (·.2)

/-- A name that the scan finds stands in the text, character for character. -/
lemma infix_of_mem_stateNames {name : String} {cs : List Char} (mem : name ∈ stateNames cs) :
    name.toList <:+: cs := by
  induction cs with
  | nil => cases mem
  | cons c cs ih =>
    have later (mem : name ∈ stateNames cs) : name.toList <:+: c :: cs :=
      (ih mem).trans (List.infix_cons_iff.2 (.inr List.infix_rfl))
    rw [stateNames] at mem
    split at mem
    · rename_i dollar
      obtain rfl : c = '$' := by simpa using dollar
      simp only at mem
      split at mem
      · exact later mem
      · rcases List.mem_cons.1 mem with rfl | mem
        · rw [String.toList_ofList]
          exact (List.cons_prefix_cons.2 ⟨rfl, List.takeWhile_prefix _⟩).isInfix
        · exact later mem
    · exact later mem

namespace Rule

variable {rule : Rule}

lemma mem_sources {source : String} : source ∈ rule.sources ↔
    source ∈ rule.conditions ∨ ∃ update ∈ rule.updates, update.2 = source := by
  rw [sources, List.mem_append, List.mem_map]

/-- Where the expressions of a rule all parse, each of its texts does. -/
lemma Parses.isExpression (parses : rule.Parses) {source : String} (mem : source ∈ rule.sources) :
    IsExpression source := by
  rcases mem_sources.1 mem with written | ⟨update, written, rfl⟩
  · exact parses.conditions source written
  · exact parses.updates update written

/-- The expressions of a compiled rule are parsed texts of the rule. -/
lemma exists_of_mem_formulas {index : Nat} {f : Formula} (mem : f ∈ (rule.compile index).formulas) :
    ∃ source ∈ rule.sources, Expr.parse source = .ok f.expr := by
  rw [CompiledRule.formulas, List.mem_append, List.mem_map] at mem
  rcases mem with condition | ⟨update, mem, rfl⟩
  · obtain ⟨source, written, parsed⟩ := exists_of_mem_conditions condition
    exact ⟨source, mem_sources.2 (.inl written), Formula.expr_of_parse parsed⟩
  · obtain ⟨source, written, parsed⟩ := exists_of_mem_updates mem
    exact ⟨source, mem_sources.2 (.inr ⟨_, written, rfl⟩), Formula.expr_of_parse parsed⟩

end Rule

namespace RuleSet

variable {rules : RuleSet}

/-- The state variables of a parsed text of the rules are references. -/
lemma state_mem_references {rule : Rule} (mem : rule ∈ rules) {source : String}
    (written : source ∈ rule.sources) {e : Expr} (parsed : Expr.parse source = .ok e)
    {name : String} (leaf : .state name ∈ e.leaves) : name ∈ rules.references :=
  mem_references_of_text mem written (Expr.state_mem_stateNames parsed leaf)

/-- A reference is set by an update or stands in a text of the rules. -/
lemma exists_of_mem_references {name : String} (mem : name ∈ rules.references) :
    (∃ rule ∈ rules, ∃ update ∈ rule.updates, update.1 = name) ∨
      ∃ rule ∈ rules, ∃ source ∈ rule.sources, name.toList <:+: source.toList := by
  simp only [references, NameSet.mem_ofList, List.mem_append, List.mem_flatMap,
    List.mem_map] at mem
  rcases mem with ⟨rule, mem, source, written, scanned⟩ | ⟨rule, mem, update, set, rfl⟩
  · exact .inr ⟨rule, mem, source, Rule.mem_sources.2 written, infix_of_mem_stateNames scanned⟩
  · exact .inl ⟨rule, mem, update, set, rfl⟩

/-- **The scan for references misses no state variable that an expression looks at.**  When rules
compile, every text of every rule has a tree and all state variables of the tree are references; so
are those of the trees that the compiled rules evaluate, and the targets of all updates.  In turn
every reference is the target of an update or stands, as it is, in the text of an expression. -/
theorem references_cover_mentions {compiled : List CompiledRule}
    (compiles : rules.compile = .ok compiled) :
    (∀ rule ∈ rules, ∀ source ∈ rule.sources, ∃ e, Expr.parse source = .ok e ∧
      ∀ name, .state name ∈ e.leaves → name ∈ rules.references) ∧
    (∀ rule ∈ compiled, ∀ f ∈ rule.formulas,
      ∀ name, .state name ∈ f.expr.leaves → name ∈ rules.references) ∧
    (∀ rule ∈ rules, ∀ update ∈ rule.updates, update.1 ∈ rules.references) ∧
    ∀ name ∈ rules.references,
      (∃ rule ∈ rules, ∃ update ∈ rule.updates, update.1 = name) ∨
        ∃ rule ∈ rules, ∃ source ∈ rule.sources, name.toList <:+: source.toList := by
  obtain ⟨parses, rfl⟩ := compile_eq_ok_iff.1 compiles
  refine ⟨fun rule mem source written => ?_, fun rule mem f formula name leaf => ?_,
    fun rule mem update set => mem_references_of_target mem set,
    fun name mem => exists_of_mem_references mem⟩
  · obtain ⟨e, parsed⟩ := (parses rule mem).isExpression written
    exact ⟨e, parsed, fun name leaf => state_mem_references mem written parsed leaf⟩
  · obtain ⟨⟨rule, index⟩, listed, rfl⟩ := List.mem_map.1 mem
    have mem : rule ∈ rules := (List.mem_zipIdx listed).2.2 ▸ List.getElem_mem _
    obtain ⟨source, written, parsed⟩ := Rule.exists_of_mem_formulas formula
    exact state_mem_references mem written parsed leaf

/-- A rule that compares a variable with a string in which there are names too. -/
def quotes : Rule where
  origin := "btn"
  children := [.condition "$a.b == '$é$$a'", .update "$c" "-$d"]

/-- The references of `quotes`: what it compares, what it sets and reads, and what stands in the
string. -/
theorem references_cover_quotes :
    RuleSet.compile [quotes] = .ok [quotes.compile 0] ∧
    (∃ e, Expr.parse "$a.b == '$é$$a'" = .ok e ∧ .state "$a" ∈ e.leaves) ∧
    "$a" ∈ RuleSet.references [quotes] ∧ "$c" ∈ RuleSet.references [quotes] ∧
    "$d" ∈ RuleSet.references [quotes] ∧ "$é" ∈ RuleSet.references [quotes] ∧
    ∃ source ∈ quotes.sources, "$é".toList <:+: source.toList := by
  have compiles : RuleSet.compile [quotes] = .ok [quotes.compile 0] := by decide +kernel
  have formulas : (quotes.compile 0).formulas =
      [⟨"$a.b == '$é$$a'",
        .binary .eq (.member (.state "$a") "b") (.literal (.string "$é$$a"))⟩,
        ⟨"-$d", .unary .neg (.state "$d")⟩] := by decide +kernel
  have compared : Expr.parse "$a.b == '$é$$a'" = .ok
      (.binary .eq (.member (.state "$a") "b") (.literal (.string "$é$$a"))) := by decide +kernel
  have quoted : "$é" ∈ RuleSet.references [quotes] := by decide +kernel
  obtain ⟨texts, trees, targets, verbatim⟩ := references_cover_mentions compiles
  obtain ⟨e, parsed, states⟩ := texts quotes (by simp) "$a.b == '$é$$a'" (by decide)
  cases compared.symm.trans parsed
  refine ⟨compiles, ⟨_, compared, by simp [Expr.leaves]⟩, states _ (by simp [Expr.leaves]),
    targets quotes (by simp) ("$c", "-$d") (by decide), ?_, quoted, ?_⟩
  · refine trees (quotes.compile 0) (by simp) ⟨"-$d", .unary .neg (.state "$d")⟩ ?_ "$d" ?_
    · rw [formulas]
      exact List.mem_cons_of_mem _ List.mem_cons_self
    · simp [Expr.leaves]
  · rcases verbatim _ quoted with ⟨rule, mem, update, set, same⟩ | ⟨rule, mem, found⟩
    · obtain rfl := List.mem_singleton.1 mem
      obtain rfl : update = ("$c", "-$d") := List.mem_singleton.1 set
      exact absurd same (by decide)
    · obtain rfl := List.mem_singleton.1 mem
      exact found

end RuleSet

end Reflex
