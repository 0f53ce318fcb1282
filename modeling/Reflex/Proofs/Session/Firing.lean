import Reflex.Proofs.Rule.References
import Reflex.Proofs.State.Patch
import Reflex.Session.Firing

/-!
# Choosing and firing a rule by what it reads

Rules that read certain names only are chosen alike in two scopes that agree on these names, and
their updates come to the same patch.  That patch sets the targets of the rule and nothing else.

* `CompiledRule.select_congr` is about the choice of a rule.
* `CompiledRule.patch_congr` is about the patch, and `CompiledRule.mem_targets_of_patch` about its
  keys.
* `CompiledRule.select_events` and `CompiledRule.patch_events` are about the events that are asked
  for: those of every evaluated formula, in order, the last of which may have failed.
-/

namespace Reflex

namespace Formula

variable {names : String → Prop} {a b : Scope} {f : Formula}

lemma eval_congr (agree : Scope.Agree names a b) (reads : ∀ name, f.expr.Reads name → names name) :
    f.eval a = f.eval b :=
  f.expr.eval_congr (agree.mono reads)

lemma holds_congr (agree : Scope.Agree names a b)
    (reads : ∀ name, f.expr.Reads name → names name) : f.holds a = f.holds b := by
  rw [holds, holds, eval_congr agree reads]

end Formula

namespace CompiledRule

variable {names targets : String → Prop} {a b : Scope} {rule : CompiledRule}

lemma allHold_congr (agree : Scope.Agree names a b) {conditions : List Formula}
    (reads : ∀ f ∈ conditions, ∀ name, f.expr.Reads name → names name) :
    allHold a conditions = allHold b conditions := by
  induction conditions with
  | nil => rfl
  | cons condition conditions ih =>
    obtain ⟨here, there⟩ := List.forall_mem_cons.1 reads
    rw [allHold, allHold, Formula.holds_congr agree here, ih there]

lemma applies_congr (agree : Scope.Agree names a b) (within : rule.Within names targets)
    (origin : String) : rule.applies a origin = rule.applies b origin := by
  rw [applies, applies, allHold_congr agree within.conditions]

/-- The same rule is chosen, and the same events are asked for on the way. -/
theorem select_congr (agree : Scope.Agree names a b) (origin : String)
    {rules : List CompiledRule} (within : ∀ rule ∈ rules, rule.Within names targets) :
    select a origin rules = select b origin rules := by
  induction rules with
  | nil => rfl
  | cons rule rules ih =>
    obtain ⟨here, there⟩ := List.forall_mem_cons.1 within
    rw [select, select, applies_congr agree here, ih there]

lemma mem_of_select {scope : Scope} {origin : String} {rules : List CompiledRule}
    (selected : (select scope origin rules).1 = some rule) : rule ∈ rules := by
  induction rules with
  | nil => cases selected
  | cons rule' rules ih =>
    rw [select] at selected
    split at selected
    · cases selected
      exact List.mem_cons_self
    · exact List.mem_cons_of_mem _ (ih selected)

lemma newValues_congr (agree : Scope.Agree names a b) {updates : List (String × Formula)}
    (reads : ∀ u ∈ updates, ∀ name, u.2.expr.Reads name → names name) :
    newValues a updates = newValues b updates := by
  induction updates with
  | nil => rfl
  | cons update updates ih =>
    obtain ⟨here, there⟩ := List.forall_mem_cons.1 reads
    rw [newValues, newValues, Formula.eval_congr agree here, ih there]

/-- A rule comes to the same patch, and asks for the same events. -/
theorem patch_congr (agree : Scope.Agree names a b) (within : rule.Within names targets) :
    rule.patch a = rule.patch b := by
  rw [patch, patch, newValues_congr agree within.updates]

/-! ## The keys of a patch -/

lemma mem_updates_of_newValues {scope : Scope} {updates : List (String × Formula)}
    {values : List (String × Value)} (done : (newValues scope updates).1 = .ok values)
    {key : String} (mem : key ∈ values.map (·.1)) : key ∈ updates.map (·.1) := by
  induction updates generalizing values with
  | nil =>
    cases done
    exact mem
  | cons update updates ih =>
    obtain ⟨name, formula⟩ := update
    rw [newValues] at done
    split at done
    · cases done
    · cases rest : newValues scope updates with
      | mk result more =>
        rw [rest] at done ih
        cases result with
        | error e => cases done
        | ok values' =>
          cases done
          rw [List.map_cons, List.mem_cons] at mem ⊢
          exact mem.imp_right (ih rfl)

lemma mem_keys_assigning {values : List (String × Value)} {key : String} :
    key ∈ (assigning values).keys ↔ key ∈ values.map (·.1) :=
  (Ordered.mem_keys_foldl_put _ _ values).trans List.mem_map.symm

/-- The patch of a rule sets targets of the rule. -/
lemma mem_targets_of_patch {scope : Scope} (within : rule.Within names targets) {p : Patch}
    (done : (rule.patch scope).1 = .ok p) {key : String} (mem : key ∈ p.keys) : targets key := by
  rw [patch] at done
  cases evaluated : newValues scope rule.updates with
  | mk result events =>
    rw [evaluated] at done
    cases result with
    | error e => cases done
    | ok values =>
      cases done
      have listed : key ∈ rule.updates.map (·.1) :=
        mem_updates_of_newValues (congrArg Prod.fst evaluated) (mem_keys_assigning.1 mem)
      obtain ⟨update, update_mem, rfl⟩ := List.mem_map.1 listed
      exact within.targets update update_mem

end CompiledRule

/-! ## The events that are asked for -/

/-- The events that the evaluation of a formula asks for, whether it comes to a value or fails. -/
def Formula.asks (scope : Scope) (f : Formula) : List Event :=
  (f.eval scope).collected.2

lemma Formula.collected_holds (scope : Scope) (f : Formula) :
    (f.holds scope).collected = ((f.eval scope).collected.1.map Value.truthy, f.asks scope) := by
  rw [asks, holds, Eval.collected, bind_pure_comp, ExceptT.run_map, StateT.run_map]
  rfl

namespace CompiledRule

variable {scope : Scope}

/-- The conditions of a rule that are evaluated, which are those up to the first that does not
hold. -/
def examined (scope : Scope) : List Formula → List Formula
  | [] => []
  | condition :: conditions =>
    match (condition.holds scope).collected.1 with
    | .ok true => condition :: examined scope conditions
    | _ => [condition]

/-- The conditions that are evaluated on the way to the first rule that applies. -/
def considered (scope : Scope) (origin : String) : List CompiledRule → List Formula
  | [] => []
  | rule :: rules =>
    if rule.origin.accepts origin then
      examined scope rule.conditions ++
        if (allHold scope rule.conditions).1 then [] else considered scope origin rules
    else considered scope origin rules

/-- The new values that are evaluated, which are those up to the first that fails. -/
def computed (scope : Scope) : List (String × Formula) → List Formula
  | [] => []
  | (_, formula) :: updates =>
    match (formula.eval scope).collected.1 with
    | .ok _ => formula :: computed scope updates
    | .error _ => [formula]

lemma allHold_events (conditions : List Formula) :
    (allHold scope conditions).2 = (examined scope conditions).flatMap (Formula.asks scope) := by
  induction conditions with
  | nil => rfl
  | cons condition conditions ih =>
    have asks : (condition.holds scope).collected.2 = condition.asks scope := by
      rw [Formula.collected_holds]
    rw [allHold, examined]
    cases evaluated : (condition.holds scope).collected with
    | mk result events =>
      obtain rfl : events = condition.asks scope := by rw [← asks, evaluated]
      cases result with
      | error e => simp
      | ok holds =>
        cases holds with
        | false => simp
        | true => simp [ih]

/-- The choice of a rule asks for what the evaluated conditions ask for. -/
theorem select_events (origin : String) (rules : List CompiledRule) :
    (select scope origin rules).2 =
      (considered scope origin rules).flatMap (Formula.asks scope) := by
  induction rules with
  | nil => rfl
  | cons rule rules ih =>
    rw [select, considered, applies]
    by_cases accepts : rule.origin.accepts origin
    · rw [if_pos accepts, if_pos accepts, List.flatMap_append, ← allHold_events]
      cases allHold scope rule.conditions with
      | mk holds events => cases holds <;> simp [ih]
    · rw [if_neg accepts, if_neg accepts, ← ih]
      simp

lemma newValues_events (updates : List (String × Formula)) :
    (newValues scope updates).2 = (computed scope updates).flatMap (Formula.asks scope) := by
  induction updates with
  | nil => rfl
  | cons update updates ih =>
    obtain ⟨name, formula⟩ := update
    have asks : (formula.eval scope).collected.2 = formula.asks scope := rfl
    rw [newValues, computed]
    cases evaluated : (formula.eval scope).collected with
    | mk result events =>
      obtain rfl : events = formula.asks scope := by rw [← asks, evaluated]
      cases result <;> simp [ih]

/-- The updates of a rule ask for what the evaluated new values ask for. -/
theorem patch_events (rule : CompiledRule) :
    (rule.patch scope).2 = (computed scope rule.updates).flatMap (Formula.asks scope) :=
  newValues_events rule.updates

lemma exists_update_of_mem_computed {f : Formula} {updates : List (String × Formula)}
    (mem : f ∈ computed scope updates) : ∃ update ∈ updates, update.2 = f := by
  induction updates with
  | nil => cases mem
  | cons update updates ih =>
    rw [computed] at mem
    split at mem
    · rcases List.mem_cons.1 mem with rfl | later
      · exact ⟨update, List.mem_cons_self, rfl⟩
      · obtain ⟨update', mem', same⟩ := ih later
        exact ⟨update', List.mem_cons_of_mem _ mem', same⟩
    · obtain rfl := List.mem_singleton.1 mem
      exact ⟨update, List.mem_cons_self, rfl⟩

/-- A rule of which no update asks for an event asks for none. -/
lemma patch_events_of_silent {rule : CompiledRule}
    (silent : ∀ update ∈ rule.updates, update.2.asks scope = []) : (rule.patch scope).2 = [] := by
  rw [patch_events, List.flatMap_eq_nil_iff]
  intro f computed
  obtain ⟨update, mem, rfl⟩ := exists_update_of_mem_computed computed
  exact silent update mem

end CompiledRule

end Reflex
