import Reflex.Proofs.Expr.Numerals
import Reflex.Proofs.Rule.Compiled
import Reflex.Proofs.Rule.Design
import Reflex.Rule.Flat

/-!
# Literals in flat documents

A record of the flat format may hold literals where it would hold expressions.  A literal is
upgraded to its text, and the text is an expression whose value is the literal, unless the literal
is a number whose text has an exponent; then the rules do not compile.

* `Value.IsLiteral` are the values that stand for themselves.
* `Value.isExpression_asExpression_iff` says which values are upgraded to expressions.
* `RuleSet.upgraded_literals_keep_their_value` is about whole documents.
-/

namespace Reflex

open Grammar

/-! ## Literals -/

namespace Value

variable {v : Value} {num : Number}

/-- The values whose texts are expressions for them: nothing, truth values, and numbers that are
written without an exponent. -/
inductive IsLiteral : Value → Prop
  | null : IsLiteral .null
  | bool (b : Bool) : IsLiteral (.bool b)
  | number {num : Number} (plain : num.IsPlain) : IsLiteral (.number num)

lemma asExpression_number : asExpression (.number num) = num.text := by
  rw [asExpression, compact, compactChars, scalarChars, String.ofList_toList] <;> nofun

/-- The text of a literal is an expression, and its value is that literal, whatever can be seen. -/
lemma IsLiteral.exists_value (h : v.IsLiteral) : ∃ (e : Expr) (w : Value),
    Expr.parse v.asExpression = .ok e ∧ (∀ scope, (e.eval scope).collected = (.ok w, [])) ∧
      binary .eq w v = .ok (.bool true) := by
  cases h with
  | null => exact ⟨.literal .null, .null, by decide +kernel, fun _ => rfl, rfl⟩
  | bool b =>
    cases b with
    | false => exact ⟨.literal (.bool false), .bool false, by decide +kernel, fun _ => rfl, rfl⟩
    | true => exact ⟨.literal (.bool true), .bool true, by decide +kernel, fun _ => rfl, rfl⟩
  | @number num plain =>
    obtain ⟨negative, digits, x, y, text, numeral, read, value⟩ := num.exists_numeral plain
    obtain ⟨num', y', evaluated, read', value'⟩ := Expr.eval_numeral negative x
    refine ⟨_, .number num', ?_, evaluated, ?_⟩
    · rw [asExpression_number]
      exact Expr.parse_numeral numeral text
    · have same : num'.sameValue num := by
        rw [Number.sameValue, read, read', Extended.sameValue, Extended.compare?, value, value']
        simp
      rw [binary, looseEq, same]

/-- No expression begins with a bracket or a brace. -/
lemma not_isExpression_of_bracket {c : Char} (bracket : c = '[' ∨ c = '\x7b') (cs : List Char) :
    ¬ IsExpression (String.ofList (c :: cs)) := by
  have tokens : Tokens.ofSource (String.ofList (c :: cs)) =
      .error ⟨0, .unexpectedCharacter c⟩ := by
    rw [Tokens.ofSource, String.toList_ofList]
    rcases bracket with rfl | rfl
    · rw [Tokens.cut, if_neg (by decide)]
      rfl
    · rw [Tokens.cut, if_neg (by decide)]
      rfl
  rintro ⟨e, parsed⟩
  rw [Expr.parse, tokens] at parsed
  cases parsed

/-- A value is upgraded to an expression if it is a literal or the text of an expression. -/
lemma isExpression_asExpression_iff : IsExpression v.asExpression ↔
    v.IsLiteral ∨ ∃ s, v = .string s ∧ IsExpression s := by
  constructor
  · intro parses
    cases v with
    | null => exact .inl .null
    | bool b => exact .inl (.bool b)
    | number num =>
      rw [asExpression_number] at parses
      exact .inl (.number (num.exists_parse_text_iff.1 parses))
    | string s => exact .inr ⟨s, rfl, parses⟩
    | array items =>
      rw [asExpression, compact, compactChars] at parses
      · exact absurd parses (not_isExpression_of_bracket (.inl rfl) _)
      · nofun
    | object fields =>
      rw [asExpression, compact, compactChars] at parses
      · exact absurd parses (not_isExpression_of_bracket (.inr rfl) _)
      · nofun
  · rintro (literal | ⟨s, rfl, parses⟩)
    · obtain ⟨e, -, parsed, -⟩ := literal.exists_value
      exact ⟨e, parsed⟩
    · exact parses

/-! ## Records -/

/-- The values in the list of conditions of a record. -/
def flatConditions : Value → List Value
  | .object fields =>
    match Fields.get? fields "conditions" with
    | some (.array items) => items
    | _ => []
  | _ => []

/-- The values in the object of updates of a record, with the names they are for. -/
def flatUpdates : Value → Fields
  | .object fields =>
    match Fields.get? fields "updates" with
    | some (.object updates) => updates
    | _ => []
  | _ => []

/-- The values of a record that become expressions. -/
def flatExpressions (record : Value) : List Value :=
  record.flatConditions ++ record.flatUpdates.map Prod.snd

end Value

namespace Rule

variable {index : Nat} {record : Value} {rule : Rule}

/-- A rule of a record: its expressions are those that the values of the record are upgraded to. -/
structure Upgrades (record : Value) (rule : Rule) : Prop where
  conditions : rule.conditions = record.flatConditions.map Value.asExpression
  updates : rule.updates = record.flatUpdates.map fun (name, v) => (name, v.asExpression)

lemma flatConditions_eq_ok {fields : Fields} {conditions : List String}
    (read : flatConditions index (fields.get? "conditions") = .ok conditions) :
    conditions = (Value.object fields).flatConditions.map Value.asExpression := by
  rw [Value.flatConditions]
  generalize fields.get? "conditions" = held at read ⊢
  rcases held with _ | (_ | _ | _ | _ | items | _) <;> cases read <;> rfl

lemma flatUpdates_eq_ok {fields : Fields} {updates : List (String × String)}
    (read : flatUpdates index (fields.get? "updates") = .ok updates) :
    updates = (Value.object fields).flatUpdates.map fun (name, v) => (name, v.asExpression) := by
  rw [Value.flatUpdates]
  generalize fields.get? "updates" = held at read ⊢
  rcases held with _ | (_ | _ | _ | _ | _ | fs) <;> cases read <;> rfl

lemma conditions_ofParts (origin : String) (conditions : List String)
    (updates : List (String × String)) :
    (ofParts origin conditions updates).conditions = conditions := by
  simp [Rule.conditions, ofParts, List.filterMap_append, List.filterMap_map]

lemma updates_ofParts (origin : String) (conditions : List String)
    (updates : List (String × String)) :
    (ofParts origin conditions updates).updates = updates := by
  simp [Rule.updates, ofParts, List.filterMap_append, List.filterMap_map]

lemma upgrades_of_ofFlat (read : ofFlat index record = .ok rule) : Upgrades record rule := by
  cases record with
  | object fields =>
    obtain ⟨conditions, first, rest⟩ := bind_eq_ok_iff.1 read
    obtain ⟨updates, second, same⟩ := bind_eq_ok_iff.1 rest
    cases same
    refine ⟨?_, ?_⟩
    · rw [conditions_ofParts, flatConditions_eq_ok first]
    · rw [updates_ofParts, flatUpdates_eq_ok second]
  | _ => cases read

lemma Upgrades.parses_iff (h : Upgrades record rule) : rule.Parses ↔
    ∀ v ∈ record.flatExpressions, v.IsLiteral ∨ ∃ s, v = .string s ∧ IsExpression s := by
  simp only [← Value.isExpression_asExpression_iff, Value.flatExpressions, List.forall_mem_append,
    List.forall_mem_map]
  constructor
  · rintro ⟨conditions, updates⟩
    rw [h.conditions, List.forall_mem_map] at conditions
    rw [h.updates, List.forall_mem_map] at updates
    exact ⟨conditions, updates⟩
  · rintro ⟨conditions, updates⟩
    refine ⟨?_, ?_⟩
    · rw [h.conditions, List.forall_mem_map]
      exact conditions
    · rw [h.updates, List.forall_mem_map]
      exact updates

end Rule

/-! ## Documents -/

namespace RuleSet

variable {records : List Value} {rules : RuleSet} {node : DesignNode}

lemma forall₂_upgrades_of_ofFlat (read : RuleSet.ofFlat records = .ok rules) :
    List.Forall₂ Rule.Upgrades records rules :=
  (forall₂_of_forEachIndexed read).imp fun _ _ ⟨_, read⟩ => Rule.upgrades_of_ofFlat read

/-- **Literals keep their value.**  A flat document that is accepted is read as one rule for each of
its records, with the conditions and the updates of the record.  A value that is nothing, a truth
value, an integer, or another number that is zero or from `10 ^ -5` up to `10 ^ 16` is upgraded to
an expression that equals it, wherever it is evaluated.  And the rules compile exactly when the
values of the records all are such literals, or texts of expressions. -/
theorem upgraded_literals_keep_their_value
    (accepted : DesignNode.ofDocument (.array records) = .ok node) :
    ∃ rules, RuleSet.ofDesign node = .ok rules ∧ List.Forall₂ Rule.Upgrades records rules ∧
      (∀ record ∈ records, ∀ v ∈ record.flatExpressions, v.IsLiteral → ∃ (e : Expr) (w : Value),
        Expr.parse v.asExpression = .ok e ∧ (∀ scope, (e.eval scope).collected = (.ok w, [])) ∧
          Value.binary .eq w v = .ok (.bool true)) ∧
      ((∃ compiled, rules.compile = .ok compiled) ↔ ∀ record ∈ records,
        ∀ v ∈ record.flatExpressions, v.IsLiteral ∨ ∃ s, v = .string s ∧ IsExpression s) := by
  obtain ⟨rules, read, rfl⟩ := map_eq_ok_iff.1 accepted
  have upgrades := forall₂_upgrades_of_ofFlat read
  refine ⟨rules, ofDesign_toDesign rules, upgrades, fun _ _ v _ literal => literal.exists_value, ?_⟩
  rw [exists_compile_iff]
  clear read accepted
  induction upgrades with
  | nil => simp
  | cons upgrade _ ih => rw [List.forall_mem_cons, List.forall_mem_cons, upgrade.parses_iff, ih]

/-- The number that is written `-2.5`. -/
def minusTwoAndAHalf : Binary64 :=
  ⟨true, 5 * 2 ^ 1073, by decide +kernel⟩

/-- A record with literals beside an expression. -/
def literalRecord : Value :=
  .object [("event", .string "press"), ("origin", .string "b"),
    ("conditions", .array [.bool true, .string "$x"]),
    ("updates", .object [("$a", .number (.float minusTwoAndAHalf)), ("$b", .null)])]

/-- The literals of the record become texts, and the number is the value of its text. -/
theorem literal_record_keeps_its_values : ∃ node rules,
    DesignNode.ofDocument (.array [literalRecord]) = .ok node ∧
      RuleSet.ofDesign node = .ok rules ∧
      rules.map Rule.conditions = [["true", "$x"]] ∧
      rules.map Rule.updates = [[("$a", "-2.5"), ("$b", "null")]] ∧
      (∃ compiled, rules.compile = .ok compiled) ∧
      ∃ (e : Expr) (w : Value), Expr.parse "-2.5" = .ok e ∧
        (∀ scope, (e.eval scope).collected = (.ok w, [])) ∧
        Value.binary .eq w (.number (.float minusTwoAndAHalf)) = .ok (.bool true) := by
  obtain ⟨rules, taken, upgrades, keep, compiles⟩ :=
    @upgraded_literals_keep_their_value [literalRecord] _ rfl
  obtain ⟨rule, _, upgrade, more, rfl⟩ := List.forall₂_cons_left_iff.1 upgrades
  cases more
  have values : literalRecord.flatExpressions =
      [.bool true, .string "$x", .number (.float minusTwoAndAHalf), .null] := rfl
  have plain : (Value.number (.float minusTwoAndAHalf)).IsLiteral := by
    refine .number ?_
    rw [Number.IsPlain]
    decide +kernel
  have text : (Value.number (.float minusTwoAndAHalf)).asExpression = "-2.5" := by decide +kernel
  obtain ⟨e, w, parsed, value, same⟩ :=
    keep literalRecord List.mem_cons_self _ (by simp [values]) plain
  refine ⟨_, _, rfl, taken, ?_, ?_, compiles.2 ?_, e, w, text ▸ parsed, value, same⟩
  · rw [List.map_singleton, upgrade.conditions]
    rfl
  · rw [List.map_singleton, upgrade.updates, ← text]
    rfl
  · rw [List.forall_mem_singleton, values]
    simp only [List.forall_mem_cons]
    exact ⟨.inl (.bool true), .inr ⟨_, rfl, .state "$x", by decide +kernel⟩, .inl plain, .inl .null,
      List.forall_mem_nil _⟩

/-- The number that is written `1e+300`. -/
def tenToThe300 : Binary64 :=
  ⟨false, Binary64.roundUnits (10 ^ 300 * Binary64.one) 1,
    Binary64.representable_roundUnits (by decide +kernel)⟩

/-- A record with no expression in it but this number. -/
def remoteRecord : Value :=
  .object [("event", .string "press"), ("origin", .string "b"),
    ("updates", .object [("$a", .number (.float tenToThe300))])]

/-- The text of a number with an exponent is no expression, and its rules do not compile. -/
theorem exponent_is_not_an_expression : ∃ node rules,
    DesignNode.ofDocument (.array [remoteRecord]) = .ok node ∧
      RuleSet.ofDesign node = .ok rules ∧
      remoteRecord.flatExpressions = [.number (.float tenToThe300)] ∧
      rules.map Rule.updates = [[("$a", "1e+300")]] ∧ ¬ IsExpression "1e+300" ∧
      ¬ ∃ compiled, rules.compile = .ok compiled := by
  have exponent : ¬ (Number.float tenToThe300).IsPlain := by
    rw [Number.IsPlain]
    decide +kernel
  have text : (Value.number (.float tenToThe300)).asExpression = "1e+300" := by decide +kernel
  have fails : ¬ IsExpression "1e+300" := by
    rw [← text, Value.asExpression_number]
    exact fun parses => exponent ((Number.exists_parse_text_iff _).1 parses)
  let rules : RuleSet :=
    [.ofParts "b" [] [("$a", (Value.number (.float tenToThe300)).asExpression)]]
  have updates : rules.map Rule.updates = [[("$a", "1e+300")]] := by
    rw [List.map_singleton, Rule.updates_ofParts, text]
  refine ⟨rules.toDesign, rules, rfl, ofDesign_toDesign rules, rfl, updates, fails, ?_⟩
  rw [exists_compile_iff, List.forall_mem_singleton]
  intro parses
  have update := parses.updates
  rw [List.singleton_inj.1 updates, List.forall_mem_singleton] at update
  exact fails update

end RuleSet

end Reflex
