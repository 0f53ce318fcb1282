import Reflex.Proofs.Session.Cycles
import Reflex.Proofs.Session.Settings
import Reflex.Proofs.State.Merge

/-!
# The order of the updates of a rule

All updates of a rule are evaluated in the same scope and come to one patch, in which the last value
of each state variable stands and which has its keys in order.  The order in which the updates are
written therefore matters only among updates of the same state variable, provided that none of them
asks for events.

* `CompiledRule.Reordered` is about rules with the same updates in another order.
* `CompiledRule.patch_eq_ok_iff` says which patch a rule comes to, and
  `CompiledRule.lookup_assigning` what it holds.
* `Session.order_of_updates_is_irrelevant` is the result.
-/

namespace Reflex

namespace Formula

variable {scope : Scope} {f : Formula}

/-- The value that a formula comes to, or `null` if it fails. -/
def value (scope : Scope) (f : Formula) : Value :=
  ((f.eval scope).collected.1.toOption).getD .null

/-- Whether a formula comes to a value. -/
def Succeeds (scope : Scope) (f : Formula) : Prop :=
  ∃ v, (f.eval scope).collected.1 = .ok v

lemma eval_of_succeeds (succeeds : f.Succeeds scope) :
    (f.eval scope).collected.1 = .ok (f.value scope) := by
  obtain ⟨v, evaluated⟩ := succeeds
  rw [value, evaluated]
  rfl

end Formula

namespace CompiledRule

variable {scope : Scope} {origin : String} {rule rule' : CompiledRule}
  {updates : List (String × Formula)} {values : List (String × Value)}

/-- The second rule is the first one with its updates in another order, in which the updates of each
state variable still stand as they did. -/
structure Reordered (rule rule' : CompiledRule) : Prop where
  index : rule'.index = rule.index
  origin : rule'.origin = rule.origin
  conditions : rule'.conditions = rule.conditions
  perm : rule'.updates.Perm rule.updates
  targets : ∀ name, rule'.updates.filter (·.1 == name) = rule.updates.filter (·.1 == name)

/-- The updates of a rule have values if each of them has one. -/
lemma newValues_eq_ok_iff : (newValues scope updates).1 = .ok values ↔
    (∀ update ∈ updates, update.2.Succeeds scope) ∧
      values = updates.map fun update => (update.1, update.2.value scope) := by
  induction updates generalizing values with
  | nil => simp [newValues, eq_comm]
  | cons update updates ih =>
    obtain ⟨name, formula⟩ := update
    rw [newValues, List.forall_mem_cons]
    cases evaluated : (formula.eval scope).collected with
    | mk result events =>
      cases result with
      | error e => simp [Formula.Succeeds, evaluated]
      | ok v =>
        have succeeds : formula.Succeeds scope := ⟨v, by rw [evaluated]⟩
        have value : formula.value scope = v := by
          rw [Formula.value, evaluated]
          rfl
        simp only [map_eq_ok_iff, ih, List.map_cons, value, succeeds, true_and]
        constructor
        · rintro ⟨values', ⟨rest, rfl⟩, rfl⟩
          exact ⟨rest, rfl⟩
        · rintro ⟨rest, rfl⟩
          exact ⟨_, ⟨rest, rfl⟩, rfl⟩

lemma sorted_assigning (values : List (String × Value)) :
    (assigning values).keys.Pairwise (· < ·) :=
  Ordered.sorted_foldl_put _ _ values

/-- Among the values for one key the last one is assigned. -/
lemma lookup_assigning (values : List (String × Value)) (key : String) :
    (assigning values).lookup key =
      (values.filter (·.1 == key)).getLast?.map fun entry => .assign entry.2 :=
  Ordered.lookup_foldl_put _ _ values key

/-- A rule comes to a patch if each of its updates has a value. -/
lemma patch_eq_ok_iff {patch : Patch} : (rule.patch scope).1 = .ok patch ↔
    (∀ update ∈ rule.updates, update.2.Succeeds scope) ∧
      patch = assigning (rule.updates.map fun update => (update.1, update.2.value scope)) := by
  have computed : (rule.patch scope).1 = (newValues scope rule.updates).1.map assigning := rfl
  simp only [computed, map_eq_ok_iff, newValues_eq_ok_iff]
  constructor
  · rintro ⟨values, ⟨succeed, rfl⟩, rfl⟩
    exact ⟨succeed, rfl⟩
  · rintro ⟨succeed, rfl⟩
    exact ⟨_, ⟨succeed, rfl⟩, rfl⟩

/-- What is assigned to a state variable is the value of its last update. -/
lemma lookup_of_patch {patch : Patch} (computed : (rule.patch scope).1 = .ok patch) (key : String) :
    patch.lookup key = (rule.updates.filter (·.1 == key)).getLast?.map fun update =>
      .assign (update.2.value scope) := by
  obtain ⟨-, rfl⟩ := patch_eq_ok_iff.1 computed
  rw [lookup_assigning, List.filter_map, List.getLast?_map, Option.map_map]
  rfl

namespace Reordered

lemma symm (reordered : rule.Reordered rule') : rule'.Reordered rule where
  index := reordered.index.symm
  origin := reordered.origin.symm
  conditions := reordered.conditions.symm
  perm := reordered.perm.symm
  targets name := (reordered.targets name).symm

lemma applies (reordered : rule.Reordered rule') :
    rule'.applies scope origin = rule.applies scope origin := by
  rw [CompiledRule.applies, CompiledRule.applies, reordered.origin, reordered.conditions]

/-- Rules with the same updates in another order come to the same patch. -/
lemma patch_eq_ok (reordered : rule.Reordered rule') {patch : Patch}
    (computed : (rule.patch scope).1 = .ok patch) : (rule'.patch scope).1 = .ok patch := by
  obtain ⟨succeed, sorted⟩ := patch_eq_ok_iff.1 computed
  have computed' : (rule'.patch scope).1 =
      .ok (assigning (rule'.updates.map fun update => (update.1, update.2.value scope))) :=
    patch_eq_ok_iff.2 ⟨fun update mem => succeed update (reordered.perm.mem_iff.1 mem), rfl⟩
  rw [computed']
  refine congrArg Except.ok (Ordered.eq_of_lookup_eq (sorted_assigning _) ?_ fun key => ?_)
  · rw [sorted]
    exact sorted_assigning _
  · rw [lookup_of_patch computed', lookup_of_patch computed, reordered.targets key]

/-- A rule with the same updates in another order is selected where the first one is. -/
lemma select (reordered : rule.Reordered rule') (scope : Scope) (origin : String)
    (before after : List CompiledRule) :
    (CompiledRule.select scope origin (before ++ rule' :: after)).2 =
      (CompiledRule.select scope origin (before ++ rule :: after)).2 ∧
    ((CompiledRule.select scope origin (before ++ rule' :: after)).1 =
        (CompiledRule.select scope origin (before ++ rule :: after)).1 ∨
      (CompiledRule.select scope origin (before ++ rule :: after)).1 = some rule ∧
        (CompiledRule.select scope origin (before ++ rule' :: after)).1 = some rule') := by
  induction before with
  | nil =>
    rw [List.nil_append, List.nil_append, CompiledRule.select, CompiledRule.select,
      reordered.applies]
    cases rule.applies scope origin with
    | mk holds events =>
      cases holds with
      | true => exact ⟨rfl, .inr ⟨rfl, rfl⟩⟩
      | false => exact ⟨rfl, .inl rfl⟩
  | cons first before ih =>
    rw [List.cons_append, List.cons_append, CompiledRule.select, CompiledRule.select]
    cases first.applies scope origin with
    | mk holds events =>
      cases holds with
      | true => exact ⟨rfl, .inl rfl⟩
      | false => exact ⟨congrArg (events ++ ·) ih.1, ih.2⟩

end Reordered

end CompiledRule

namespace Session

variable {react : Reaction} {event : Event} {data : Fields} {s : Session}
  {rule rule' : CompiledRule} {before after : List CompiledRule}

/-- Until the patch is applied, a cycle does the same whatever the order of the updates. -/
lemma firing_of_reordered (reordered : rule.Reordered rule')
    (silent : ∀ update ∈ rule.updates, update.2.asks (s.scope data) = []) :
    s.firing (before ++ rule' :: after) event data rule' =
      s.firing (before ++ rule :: after) event data rule := by
  have silent' : ∀ update ∈ rule'.updates, update.2.asks (s.scope data) = [] :=
    fun update mem => silent update (reordered.perm.mem_iff.1 mem)
  rw [firing, firing, considering, considering, (reordered.select _ _ before after).1,
    CompiledRule.patch_events_of_silent silent, CompiledRule.patch_events_of_silent silent',
    reordered.index]

/-- A cycle comes to the same whatever the order of the updates, or it fails in either order and
leaves the same behind. -/
lemma cycle_of_reordered (reordered : rule.Reordered rule')
    (silent : ∀ update ∈ rule.updates, update.2.asks (s.scope data) = []) :
    let cycled := cycle react (before ++ rule :: after) event data s
    let cycled' := cycle react (before ++ rule' :: after) event data s
    cycled' = cycled ∨
      cycled'.2 = cycled.2 ∧ (∃ e, cycled.1 = .error e) ∧ ∃ e, cycled'.1 = .error e := by
  intro cycled cycled'
  obtain ⟨events, same | ⟨first, second⟩⟩ := reordered.select (s.scope data)
    event.origin before after
  · left
    have considered : s.considering (before ++ rule' :: after) event data =
        s.considering (before ++ rule :: after) event data := by
      rw [considering, considering, events]
    simp only [cycled, cycled', cycle_eq, same, considered]
  · have fired : s.firing (before ++ rule' :: after) event data rule' =
        s.firing (before ++ rule :: after) event data rule := firing_of_reordered reordered silent
    simp only [cycled, cycled', cycle_eq, first, second, fire_considering, fired, reordered.index]
    cases computed : (rule.patch (s.scope data)).1 with
    | ok patch =>
      left
      rw [reordered.patch_eq_ok computed]
    | error failure =>
      right
      cases computed' : (rule'.patch (s.scope data)).1 with
      | ok patch => cases computed.symm.trans (reordered.symm.patch_eq_ok computed')
      | error failure' => exact ⟨rfl, ⟨_, rfl⟩, _, rfl⟩

/-- What a rule makes of a state variable is what its last update of that variable alone makes of
it. -/
lemma get?_of_patch {patch : Patch} (computed : (rule.patch (s.scope data)).1 = .ok patch)
    {earlier later : List (String × Formula)} {name : String} {formula : Formula}
    (split : rule.updates = earlier ++ (name, formula) :: later) (last : name ∉ later.map Prod.fst)
    (d : Fields) : (Patch.apply d patch).get? name =
      (Patch.apply d [(name, .assign (formula.value (s.scope data)))]).get? name := by
  have sorted : patch.keys.Pairwise (· < ·) := by
    obtain ⟨-, rfl⟩ := CompiledRule.patch_eq_ok_iff.1 computed
    exact CompiledRule.sorted_assigning _
  have others : later.filter (·.1 == name) = [] := by
    refine List.filter_eq_nil_iff.2 fun update mem => ?_
    rw [beq_iff_eq]
    rintro rfl
    exact last (List.mem_map_of_mem mem)
  have found : patch.lookup name = some (.assign (formula.value (s.scope data))) := by
    rw [CompiledRule.lookup_of_patch computed, split, List.filter_append,
      List.filter_cons_of_pos (by simp), others]
    simp
  rw [Patch.get?_apply, Patch.nextAt?_of_nodup (sorted.imp ne_of_lt), found, Patch.apply_cons,
    Patch.apply_nil, Patch.get?_applyOp_self]

variable {rules : List CompiledRule}

/-- A cycle fails when an update of the selected rule does, wherever it stands. -/
lemma error_of_update
    (selected : (CompiledRule.select (s.scope data) event.origin rules).1 = some rule)
    (failing : ∃ update ∈ rule.updates, ¬ update.2.Succeeds (s.scope data)) :
    ∃ e, (cycle react rules event data s).1 = .error e := by
  obtain ⟨update, mem, fails⟩ := failing
  cases computed : (rule.patch (s.scope data)).1 with
  | ok patch => exact absurd ((CompiledRule.patch_eq_ok_iff.1 computed).1 update mem) fails
  | error failure =>
    rw [cycle_eq, selected]
    simp only [fire_considering, computed]
    exact ⟨_, rfl⟩

/-- A cycle that succeeds has made of the document what the patch of the selected rule makes of
it. -/
lemma document_of_cycle (unwatched : s.store.registrations = [])
    (selected : (CompiledRule.select (s.scope data) event.origin rules).1 = some rule)
    {done : Cycle} (succeeds : (cycle react rules event data s).1 = .ok done) :
    ∃ patch, (rule.patch (s.scope data)).1 = .ok patch ∧
      (cycle react rules event data s).2.store.document = Patch.apply s.store.document patch := by
  have ways := cycle_concludes react rules event data s
  rw [succeeds] at ways
  generalize (cycle react rules event data s).2 = t at ways
  cases ways with
  | unanswered nobody => cases selected.symm.trans nobody
  | @fires _ patch selected' computed admitted =>
    obtain rfl := Option.some.inj (selected.symm.trans selected')
    have unwatched' : (s.firing rules event data rule).store.registrations = [] :=
      unwatched_of_store_eq unwatched store_firing
    refine ⟨patch, computed, ?_⟩
    rw [update_of_alone unwatched', store_firing, if_neg (Nat.not_le.2 admitted), store_close,
      store_commit, store_firing]
    rfl

/-- **The order in which the updates of a rule are written does not matter.**  Let the updates of a
rule be put in another order, in which those of each state variable still stand as they did, and let
none of them ask for an event when it is evaluated.  Then a cycle fails in both orders or in
neither.  If it succeeds it gives the same account of itself, with the same changes, and in any case
the session that it leaves behind is the same, down to the order of the keys of the document.  If
the cycle selects that rule then it fails as soon as any of the updates fails.  If it succeeds,
then under each state variable that the rule sets there is what the last of its updates alone makes
of what was there before the cycle, and the updates before that one leave no trace. -/
theorem order_of_updates_is_irrelevant (unwatched : s.store.registrations = []) (react : Reaction)
    (event : Event) (data : Fields) (before after : List CompiledRule)
    (reordered : rule.Reordered rule')
    (silent : ∀ update ∈ rule.updates, update.2.asks (s.scope data) = []) :
    let rules := before ++ rule :: after
    let cycled := cycle react rules event data s
    let cycled' := cycle react (before ++ rule' :: after) event data s
    ((∃ e, cycled.1 = .error e) ↔ ∃ e, cycled'.1 = .error e) ∧
    (∀ done, cycled.1 = .ok done → cycled'.1 = .ok done) ∧
    cycled'.2 = cycled.2 ∧
    ((CompiledRule.select (s.scope data) event.origin rules).1 = some rule →
      ((∃ update ∈ rule.updates, ¬ update.2.Succeeds (s.scope data)) → ∃ e, cycled.1 = .error e) ∧
      ∀ done, cycled.1 = .ok done → ∀ earlier name formula later,
        rule.updates = earlier ++ (name, formula) :: later → name ∉ later.map Prod.fst →
        ∃ v, (formula.eval (s.scope data)).collected.1 = .ok v ∧
          cycled.2.store.document.get? name =
            (Patch.apply s.store.document [(name, .assign v)]).get? name) := by
  intro rules cycled cycled'
  have alike : cycled' = cycled ∨
      cycled'.2 = cycled.2 ∧ (∃ e, cycled.1 = .error e) ∧ ∃ e, cycled'.1 = .error e :=
    cycle_of_reordered reordered silent
  refine ⟨?_, fun done succeeds => ?_, ?_, fun selected => ?_⟩
  · rcases alike with same | ⟨-, failed, failed'⟩
    · rw [same]
    · exact iff_of_true failed failed'
  · rcases alike with same | ⟨-, ⟨e, failed⟩, -⟩
    · rw [same, succeeds]
    · cases succeeds.symm.trans failed
  · rcases alike with same | ⟨left, -⟩
    · rw [same]
    · exact left
  refine ⟨error_of_update selected, fun done succeeds earlier name formula later split last => ?_⟩
  obtain ⟨patch, computed, document⟩ := document_of_cycle unwatched selected succeeds
  have value : formula.Succeeds (s.scope data) :=
    (CompiledRule.patch_eq_ok_iff.1 computed).1 (name, formula) (by simp [split])
  exact ⟨formula.value (s.scope data), Formula.eval_of_succeeds value,
    document ▸ get?_of_patch computed split last s.store.document⟩

/-- A rule that sets the user twice, and something else in between. -/
def userRule : Rule :=
  .ofParts "form" [] [("$user", "#old"), ("$seen", "true"), ("$user", "#new")]

/-- This rule, compiled. -/
def userFirst : CompiledRule :=
  userRule.compile 0

/-- The same rule with the other variable in front. -/
def seenFirst : CompiledRule :=
  (Rule.ofParts "form" [] [("$seen", "true"), ("$user", "#old"), ("$user", "#new")]).compile 0

/-- A session with a user, under this rule. -/
def userSession : Session :=
  .ofParts ⟨[("$user", .object [("on", .bool true)])], [], [], 0, 64, "8.state", .holding none⟩
    (.ofProgram (.ofParsed [userRule] (by decide +kernel)) .standard 1000 32)

/-- The data of an event with a user as it was and one as it is. -/
def userData : Fields :=
  [("old", .object [("name", .string "ann")]), ("new", .object [("on", .bool false)])]

/-- It makes no difference which variable is in front, and the name that is given to the user first
leaves no trace. -/
theorem user_first_or_seen_first :
    let cycled := cycle (fun _ t => t) [userFirst] ⟨"form", "send"⟩ userData userSession
    let cycled' := cycle (fun _ t => t) [seenFirst] ⟨"form", "send"⟩ userData userSession
    cycled'.1 = .ok ⟨⟨"form", "send"⟩, some 0, ["$seen", "$user"]⟩ ∧ cycled'.2 = cycled.2 ∧
      cycled'.2.store.document.get? "$user" =
        (Patch.apply userSession.store.document
          [("$user", .assign (.object [("on", .bool false)]))]).get? "$user" := by
  intro cycled cycled'
  have updates : userFirst.updates = [("$user", ⟨"#old", .field "old"⟩),
      ("$seen", ⟨"true", .literal (.bool true)⟩), ("$user", ⟨"#new", .field "new"⟩)] := by
    decide +kernel
  have updates' : seenFirst.updates = [("$seen", ⟨"true", .literal (.bool true)⟩),
      ("$user", ⟨"#old", .field "old"⟩), ("$user", ⟨"#new", .field "new"⟩)] := by decide +kernel
  have reordered : userFirst.Reordered seenFirst := by
    refine ⟨rfl, rfl, rfl, ?_, fun name => ?_⟩
    · rw [updates, updates']
      exact .swap ..
    · rw [updates, updates']
      by_cases seen : name = "$seen"
      · subst seen
        rfl
      · simp [List.filter_cons, Ne.symm seen]
  have silent : ∀ update ∈ userFirst.updates, update.2.asks (userSession.scope userData) = [] := by
    rw [updates]
    simp only [List.forall_mem_cons]
    exact ⟨rfl, rfl, rfl, List.forall_mem_nil _⟩
  have succeeds :
      (cycle (fun _ t => t) [userFirst] ⟨"form", "send"⟩ userData userSession).1 =
        .ok ⟨⟨"form", "send"⟩, some 0, ["$seen", "$user"]⟩ := by decide +kernel
  have selected : (CompiledRule.select (userSession.scope userData) "form" [userFirst]).1 =
      some userFirst := rfl
  obtain ⟨-, alike, left, once⟩ := order_of_updates_is_irrelevant (s := userSession) rfl
    (fun _ t => t) ⟨"form", "send"⟩ userData [] [] reordered silent
  obtain ⟨v, evaluated, document⟩ := (once selected).2 _ succeeds
    [("$user", ⟨"#old", .field "old"⟩), ("$seen", ⟨"true", .literal (.bool true)⟩)]
    "$user" ⟨"#new", .field "new"⟩ [] updates List.not_mem_nil
  cases evaluated
  exact ⟨alike _ succeeds, left,
    (congrArg (fun t => t.store.document.get? "$user") left).trans document⟩

end Session

end Reflex
