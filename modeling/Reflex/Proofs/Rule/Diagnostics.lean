import Reflex.Proofs.Expr.Faults
import Reflex.Proofs.Rule.Compiled

/-!
# What compilation reports

Rules compile as a whole or not at all.  When they do not, every expression that does not parse is
reported once, with its place: rule by rule, the conditions of a rule before its updates, and each
in the order of writing, however conditions and updates alternate.  A condition is counted among
all the conditions of its rule.

* `Rule.occurrences` lists the expressions of a rule as they were written, and
  `RuleSet.occurrences` those of all rules in the order of the report.
* `Occurrence.Reported` says what a diagnostic says of an expression, and `CompiledRule.StandsFor`
  what a compiled rule has of its rule.
* `RuleSet.compiles_all_or_nothing` is the result.
-/

namespace Reflex

/-! ## Expressions in their places -/

/-- An expression of a rule with its place. -/
structure Occurrence where
  /-- The position of the rule. -/
  rule : Nat
  place : ExpressionPlace
  source : String
deriving DecidableEq

namespace Occurrence

/-- Whether the expression is a condition. -/
def isCondition (o : Occurrence) : Bool :=
  match o.place with
  | .condition _ => true
  | .update _ => false

/-- Whether the expression does not parse. -/
def isFaulty (o : Occurrence) : Bool :=
  !(Expr.parse o.source).isOk

/-- A diagnostic reports an expression: it names its place and holds its parse error. -/
structure Reported (o : Occurrence) (d : Diagnostic) : Prop where
  rule : d.rule = o.rule
  place : d.place = o.place
  error : Expr.parse o.source = .error d.error

end Occurrence

/-- The expressions among the children of a rule, in the order of writing. A condition is told by
the number of conditions before it, of which there are `n` to begin with. -/
def Rule.occurrencesFrom (index n : Nat) : List RuleChild → List Occurrence
  | [] => []
  | .condition source :: children =>
    ⟨index, .condition n, source⟩ :: occurrencesFrom index (n + 1) children
  | .update name source :: children =>
    ⟨index, .update name, source⟩ :: occurrencesFrom index n children

/-- The expressions of a rule, in the order of writing. -/
def Rule.occurrences (index : Nat) (rule : Rule) : List Occurrence :=
  occurrencesFrom index 0 rule.children

/-- The expressions of rules in the order of a report: rule by rule, the conditions of a rule before
its updates. -/
def RuleSet.occurrences (rules : RuleSet) : List Occurrence :=
  rules.zipIdx.flatMap fun (rule, index) =>
    (rule.occurrences index).filter (·.isCondition) ++
      (rule.occurrences index).filter (!·.isCondition)

/-! ## Diagnostics -/

/-- The diagnostic of an expression, unless it parses. -/
def Occurrence.diagnostic? (o : Occurrence) : Option Diagnostic :=
  match Expr.parse o.source with
  | .ok _ => none
  | .error e => some ⟨o.rule, o.place, e⟩

/-- Of the expressions that do not parse each is reported once. -/
lemma Occurrence.reported_filterMap (os : List Occurrence) :
    List.Forall₂ Reported (os.filter isFaulty) (os.filterMap diagnostic?) := by
  induction os with
  | nil => exact .nil
  | cons o os ih =>
    cases parsed : Expr.parse o.source with
    | ok e =>
      have parses : ¬o.isFaulty = true := by simp [isFaulty, parsed, Except.isOk, Except.toBool]
      have silent : o.diagnostic? = none := by rw [diagnostic?, parsed]
      rwa [List.filter_cons_of_neg parses, List.filterMap_cons_none silent]
    | error e =>
      have faulty : o.isFaulty = true := by simp [isFaulty, parsed, Except.isOk, Except.toBool]
      have told : o.diagnostic? = some ⟨o.rule, o.place, e⟩ := by rw [diagnostic?, parsed]
      rw [List.filter_cons_of_pos faulty, List.filterMap_cons_some told]
      exact .cons ⟨rfl, rfl, parsed⟩ ih

namespace Rule

variable {index : Nat} {rule : Rule}

/-- The conditions among children, with their positions. -/
lemma filter_isCondition_occurrencesFrom (rule : Rule) (n : Nat) (children : List RuleChild) :
    (occurrencesFrom index n children).filter (·.isCondition) =
      ((Rule.mk rule.origin children).conditions.zipIdx n).map fun (source, i) =>
        ⟨index, .condition i, source⟩ := by
  induction children generalizing n with
  | nil => rfl
  | cons child children ih =>
    cases child with
    | condition source =>
      rw [occurrencesFrom, List.filter_cons_of_pos rfl, ih]
      rfl
    | update name source =>
      rw [occurrencesFrom, List.filter_cons_of_neg Bool.false_ne_true, ih]
      rfl

/-- The updates among children. -/
lemma filter_not_isCondition_occurrencesFrom (rule : Rule) (n : Nat)
    (children : List RuleChild) :
    (occurrencesFrom index n children).filter (!·.isCondition) =
      (Rule.mk rule.origin children).updates.map fun (name, source) =>
        ⟨index, .update name, source⟩ := by
  induction children generalizing n with
  | nil => rfl
  | cons child children ih =>
    cases child with
    | condition source =>
      rw [occurrencesFrom, List.filter_cons_of_neg Bool.false_ne_true, ih]
      rfl
    | update name source =>
      rw [occurrencesFrom, List.filter_cons_of_pos rfl, ih]
      rfl

/-- The diagnostics of a rule are those of its conditions and then those of its updates. -/
lemma diagnostics_eq_filterMap (index : Nat) (rule : Rule) : rule.diagnostics index =
    ((rule.occurrences index).filter (·.isCondition) ++
      (rule.occurrences index).filter (!·.isCondition)).filterMap Occurrence.diagnostic? := by
  rw [occurrences, filter_isCondition_occurrencesFrom rule,
    filter_not_isCondition_occurrencesFrom rule, List.filterMap_append,
    List.filterMap_map, List.filterMap_map, diagnostics, Diagnostic.collect, Diagnostic.collect,
    parsedConditions, parsedUpdates, List.filterMap_map, List.filterMap_map]
  congr 1
  · refine List.filterMap_congr fun entry _ => ?_
    simp only [Function.comp_apply, Formula.parse, Occurrence.diagnostic?]
    cases Expr.parse entry.1 <;> rfl
  · refine List.filterMap_congr fun update _ => ?_
    simp only [Function.comp_apply, Formula.parse, Occurrence.diagnostic?]
    cases Expr.parse update.2 <;> rfl

end Rule

/-- What is reported of rules are the expressions that do not parse, one after the other. -/
lemma RuleSet.reported_diagnostics (rules : RuleSet) :
    List.Forall₂ Occurrence.Reported (rules.occurrences.filter Occurrence.isFaulty)
      rules.diagnostics := by
  have all : rules.diagnostics = rules.occurrences.filterMap Occurrence.diagnostic? := by
    rw [diagnostics, occurrences, List.filterMap_flatMap]
    exact List.flatMap_congr fun entry _ => Rule.diagnostics_eq_filterMap entry.2 entry.1
  rw [all]
  exact Occurrence.reported_filterMap rules.occurrences

/-! ## Compiled rules -/

/-- A compiled rule has the position and the origin of its rule and the conditions and updates of
its rule, parsed, in the order of writing. -/
structure CompiledRule.StandsFor (c : CompiledRule) (index : Nat) (rule : Rule) : Prop where
  index : c.index = index
  origin : c.origin = .ofOrigin rule.origin
  conditions : List.Forall₂ (fun source f => Formula.parse source = .ok f) rule.conditions
    c.conditions
  updates : List.Forall₂ (fun update u => u.1 = update.1 ∧ Formula.parse update.2 = .ok u.2)
    rule.updates c.updates

/-- Where every step succeeds, the results stand in the order of the steps. -/
lemma forall₂_filterMap_toOption {α β ε : Type} {f : α → Except ε β} {as : List α}
    (succeed : ∀ a ∈ as, ∃ b, f a = .ok b) :
    List.Forall₂ (fun a b => f a = .ok b) as (as.filterMap fun a => (f a).toOption) := by
  induction as with
  | nil => exact .nil
  | cons a as ih =>
    obtain ⟨⟨b, first⟩, others⟩ := List.forall_mem_cons.1 succeed
    have kept : (f a).toOption = some b := by rw [first]; rfl
    rw [List.filterMap_cons_some (f := fun a => (f a).toOption) kept]
    exact .cons first (ih others)

lemma Rule.standsFor_compile {rule : Rule} (parses : rule.Parses) (index : Nat) :
    (rule.compile index).StandsFor index rule := by
  refine ⟨rfl, rfl, ?_, ?_⟩
  · have conditions : (rule.compile index).conditions =
        rule.conditions.filterMap fun source => (Formula.parse source).toOption := by
      rw [compile, parsedConditions, List.filterMap_map]
      conv_rhs => rw [← List.zipIdx_map_fst 0 rule.conditions, List.filterMap_map]
      rfl
    rw [conditions]
    exact forall₂_filterMap_toOption fun source mem =>
      exists_formula_iff.2 (parses.conditions source mem)
  · have updates : (rule.compile index).updates = rule.updates.filterMap fun update =>
        ((Formula.parse update.2).map (update.1, ·)).toOption := by
      rw [compile, parsedUpdates, List.filterMap_map]
      rfl
    have each : List.Forall₂ (fun update u => (Formula.parse update.2).map (update.1, ·) = .ok u)
        rule.updates (rule.compile index).updates := by
      rw [updates]
      refine forall₂_filterMap_toOption fun update mem => ?_
      obtain ⟨f, parsed⟩ := exists_formula_iff.2 (parses.updates update mem)
      exact ⟨_, map_eq_ok_iff.2 ⟨f, parsed, rfl⟩⟩
    refine each.imp fun update u ok => ?_
    obtain ⟨f, parsed, rfl⟩ := map_eq_ok_iff.1 ok
    exact ⟨rfl, parsed⟩

namespace RuleSet

/-- **Compilation is all or nothing and reports everything.**  Rules compile exactly when all of
their expressions parse.  Then each rule has its compiled rule, in order, and whatever a compiled
expression is evaluated in, its faults are no parse errors.  Otherwise the expressions that do not
parse are reported, each once and in the order of the report. -/
theorem compiles_all_or_nothing (rules : RuleSet) :
    ((∃ compiled, rules.compile = .ok compiled) ↔ ∀ rule ∈ rules, rule.Parses) ∧
    (∀ compiled, rules.compile = .ok compiled →
      compiled.length = rules.length ∧
      (∀ (index : Nat) (rule : Rule), rules[index]? = some rule →
        ∃ c, compiled[index]? = some c ∧ c.StandsFor index rule) ∧
      ∀ c ∈ compiled, ∀ f ∈ c.conditions ++ c.updates.map (·.2), ∀ (scope : Scope) (e : EvalError),
        (f.eval scope).collected.1 = .error e → ∀ p : ParseError, e.message ≠ p.message) ∧
    (∀ e, rules.compile = .error e → ∃ ds, e = .compile ds ∧ ds ≠ [] ∧
      List.Forall₂ Occurrence.Reported (rules.occurrences.filter Occurrence.isFaulty) ds) := by
  refine ⟨exists_compile_iff, fun compiled compiles => ?_, fun e fails => ?_⟩
  · obtain ⟨parse, rfl⟩ := compile_eq_ok_iff.1 compiles
    refine ⟨by simp, fun index rule found => ?_, fun c _ f _ scope e fails p => ?_⟩
    · have there : rules.zipIdx[index]? = some (rule, index) := by simp [found]
      refine ⟨rule.compile index, by rw [List.getElem?_map, there]; rfl, ?_⟩
      exact Rule.standsFor_compile (parse rule (List.mem_of_getElem? found)) index
    · exact (Formula.genuine_of_eval fails).message_ne p
  · rw [compile] at fails
    split at fails
    · cases fails
    · rename_i reports
      cases fails
      exact ⟨_, rfl, by simpa using reports, rules.reported_diagnostics⟩

/-- A rule in which conditions and updates alternate. -/
def alternating (second last : String) : RuleSet :=
  [⟨"btn", [.update "$a" "$c", .condition "$ok", .update "$b" second, .condition last]⟩]

/-- The rule compiles when its expressions parse, even if one of them has no value.  Otherwise the
last condition is reported as the second one, and before the update that stands in front of it. -/
theorem compiles_alternating :
    (∃ c, (alternating "nope" "!$ok").compile = .ok [c] ∧
      (∃ rule, (alternating "nope" "!$ok")[0]? = some rule ∧ c.StandsFor 0 rule) ∧
      ∃ f ∈ c.conditions ++ c.updates.map (·.2),
        (f.eval ⟨.standard, [], []⟩).collected.1 = .error (.unknownIdentifier "nope") ∧
        ∀ p : ParseError, (EvalError.unknownIdentifier "nope").message ≠ p.message) ∧
    ∃ e ds, (alternating "(" "!").compile = .error e ∧ e = .compile ds ∧
      List.Forall₂ Occurrence.Reported [⟨0, .condition 1, "!"⟩, ⟨0, .update "$b", "("⟩] ds := by
  constructor
  · obtain ⟨-, whole, -⟩ := compiles_all_or_nothing (alternating "nope" "!$ok")
    have compiles : (alternating "nope" "!$ok").compile =
        .ok [((alternating "nope" "!$ok")[0]).compile 0] := by decide +kernel
    obtain ⟨-, each, faults⟩ := whole _ compiles
    obtain ⟨c, there, stands⟩ := each 0 _ rfl
    cases there
    have parsed : Formula.parse "nope" = .ok ⟨"nope", .ident "nope"⟩ := by decide +kernel
    have mem : (⟨"nope", .ident "nope"⟩ : Formula) ∈
        (((alternating "nope" "!$ok")[0]).compile 0).updates.map (·.2) := by
      have listed : ("$b", "nope") ∈ ((alternating "nope" "!$ok")[0]).updates := by
        simp [alternating, Rule.updates]
      refine List.mem_map.2 ⟨("$b", _), List.mem_filterMap.2
        ⟨(.update "$b", (Formula.parse "nope").map ("$b", ·)), ?_, ?_⟩, rfl⟩
      · exact List.mem_map.2 ⟨_, listed, rfl⟩
      · rw [parsed]
        rfl
    have both := List.mem_append_right
      (((alternating "nope" "!$ok")[0]).compile 0).conditions mem
    exact ⟨_, compiles, ⟨_, rfl, stands⟩, _, both, rfl,
      faults _ (List.mem_singleton_self _) _ both ⟨.standard, [], []⟩ _ rfl⟩
  · obtain ⟨-, -, nothing⟩ := compiles_all_or_nothing (alternating "(" "!")
    have fails : (alternating "(" "!").compile =
        .error (.compile (alternating "(" "!").diagnostics) := by decide +kernel
    obtain ⟨ds, same, -, reported⟩ := nothing _ fails
    have faulty : (alternating "(" "!").occurrences.filter Occurrence.isFaulty =
        [⟨0, .condition 1, "!"⟩, ⟨0, .update "$b", "("⟩] := by decide +kernel
    exact ⟨_, ds, fails, same, faulty ▸ reported⟩

end RuleSet

end Reflex
