import Reflex.Proofs.Expr.Paths
import Reflex.Proofs.Rule.Canonical
import Reflex.Proofs.Rule.Compiled
import Reflex.Proofs.Session.Updates

/-!
# Which targets expressions can read

The review of a rule document asks of a target that it begin with a dollar sign and hold no point.
Expressions write a state variable as a dollar sign with a word of ASCII letters, digits and
underscores behind it.  A target of this form that is loaded without a warning can be read once its
rule has fired; another target can be loaded without a warning all the same, and then no expression
reads it.

* `IsVariable` is the form of the state variables that expressions write, and
  `Expr.parse_eq_state_iff` says so.
* `Rule.Clear` says what the review asks of a rule, and `RuleSet.review_eq_nil_iff` that it asks
  nothing else.
* `Session.get?_of_fired` is about the state variable that a rule has set.
* `LoadedRules.clear_targets_are_read` is the result, and `LoadedRules.clear_target_unread` is a
  target that is not read.
-/

namespace Reflex

/-! ## State variables in expressions -/

/-- Whether a text is a dollar sign with a word behind it. -/
def IsVariable (target : String) : Prop :=
  ∃ word : List Char, word ≠ [] ∧ (∀ c ∈ word, Text.isName c) ∧
    target = String.ofList ('$' :: word)

/-- The state variables among the tokens of a text have this form. -/
lemma isVariable_of_cut {offset : Nat} {afterDot : Bool} {cs : List Char} {tokens : Tokens}
    (h : Tokens.cut offset afterDot cs = .ok tokens) :
    ∀ t ∈ tokens.list, ∀ name, t.kind = .state name → IsVariable name := by
  fun_induction Tokens.cut offset afterDot cs generalizing tokens with
  | case1 offset afterDot =>
    cases h
    simp
  | case2 offset afterDot c cs blank ih => exact ih h
  | case3 offset afterDot c cs _ fault failed => cases h
  | case4 offset afterDot c cs _ l cutOff flaw failed => cases h
  | case5 offset afterDot c cs _ l cutOff more read ih =>
    cases h
    refine List.forall_mem_cons.2 ⟨fun name isKind => ?_, ih read⟩
    change l.kind = .state name at isKind
    rcases lexeme_name cutOff with other | ⟨rfl, nonempty, -, kind⟩ | ⟨-, kind⟩
    · rw [isKind] at other
      cases other
    · refine ⟨cs.takeWhile Text.isName, nonempty, fun c mem => List.mem_takeWhile_imp mem, ?_⟩
      rw [← TokenKind.state.inj (kind.symm.trans isKind), ← List.singleton_append,
        String.ofList_append]
    · rw [isKind] at kind
      cases kind

namespace Expr

variable {source target name : String} {e : Expr}

lemma isVariable_of_state (parsed : Expr.parse source = .ok e) (mem : .state name ∈ e.leaves) :
    IsVariable name := by
  obtain ⟨tokens, tokenizes, t, listed, kind⟩ := exists_token_of_parse parsed mem rfl
  exact isVariable_of_cut tokenizes t listed name kind

/-- A text is parsed to the state variable of that very name if it has the form of one. -/
theorem parse_eq_state_iff : Expr.parse target = .ok (.state target) ↔ IsVariable target := by
  constructor
  · intro parsed
    exact isVariable_of_state parsed List.mem_cons_self
  · rintro ⟨word, nonempty, named, rfl⟩
    have parsed := Path.parse_text nonempty named (List.forall_mem_nil _) (List.forall_mem_nil _)
    rwa [Path.text, List.intercalate_singleton] at parsed

/-- No expression reads a name that begins with a dollar sign but has not this form. -/
lemma not_reads (parsed : Expr.parse source = .ok e) (sign : name.toList.head? = some '$')
    (other : ¬ IsVariable name) : ¬ e.Reads name := by
  rintro (state | ident)
  · exact other (isVariable_of_state parsed state)
  · exact ident_head parsed ident sign

end Expr

/-! ## What the review asks of a rule -/

/-- Whether a rule has neither a flaw nor a warning. -/
structure Rule.Clear (rule : Rule) : Prop where
  origin : rule.origin ≠ ""
  signed : ∀ update ∈ rule.updates, update.1.toList.head? = some '$'
  undotted : ∀ update ∈ rule.updates, '.' ∉ update.1.toList
  once : (rule.updates.map Prod.fst).Nodup

lemma RuleWarning.ofTargets_eq_nil_iff {rule : Nat} {seen names : List String} :
    ofTargets rule seen names = [] ↔
      (∀ name ∈ names, (name = "" ∨ name.toList.head? = some '$') ∧ name ∉ seen) ∧ names.Nodup := by
  induction names generalizing seen with
  | nil => simp [ofTargets]
  | cons name names ih =>
    have signed : (if name.isEmpty || name.toList.head? == some '$' then []
        else [RuleWarning.bareTarget rule name]) = [] ↔
        name = "" ∨ name.toList.head? = some '$' := by
      simp [or_iff_not_imp_left]
    have fresh : (if seen.contains name then [RuleWarning.repeatedTarget rule name] else []) = [] ↔
        name ∉ seen := by
      simp
    have apart : (∀ n ∈ names, (n = "" ∨ n.toList.head? = some '$') ∧ n ∉ name :: seen) ↔
        (∀ n ∈ names, (n = "" ∨ n.toList.head? = some '$') ∧ n ∉ seen) ∧ name ∉ names := by
      constructor
      · intro h
        exact ⟨fun n mem => ⟨(h n mem).1, fun early => (h n mem).2 (.tail _ early)⟩,
          fun mem => (h name mem).2 List.mem_cons_self⟩
      · rintro ⟨h, other⟩ n mem
        refine ⟨(h n mem).1, fun early => ?_⟩
        rcases List.mem_cons.1 early with rfl | early
        · exact other mem
        · exact (h n mem).2 early
    rw [ofTargets, List.append_eq_nil_iff, List.append_eq_nil_iff, ih, signed, fresh, apart,
      List.forall_mem_cons, List.nodup_cons]
    tauto

lemma RuleFlaw.ofTarget?_eq_none_iff {rule : Nat} {name : String} :
    ofTarget? rule name = none ↔ Text.trim name.toList ≠ [] ∧ '.' ∉ name.toList := by
  by_cases blank : Text.trim name.toList = []
  · simp [ofTarget?, blank]
  · simp [ofTarget?, blank]

/-- A text that begins with a dollar sign is no white space. -/
lemma trim_ne_nil_of_dollar {cs : List Char} (sign : cs.head? = some '$') : Text.trim cs ≠ [] := by
  obtain ⟨cs, rfl⟩ := List.head?_eq_some_iff.1 sign
  rw [Text.trim, List.dropWhile_cons_of_neg (by decide), Text.trimEnd, Text.dropEndWhile, ne_eq,
    List.reverse_eq_nil_iff, List.dropWhile_eq_nil_iff]
  intro blank
  exact absurd (blank '$' (by simp)) (by decide)

/-- Rules pass their review without a warning exactly when each of them is clear. -/
lemma RuleSet.review_eq_nil_iff {rules : RuleSet} :
    rules.flaws = [] ∧ rules.warnings = [] ↔ ∀ rule ∈ rules, rule.Clear := by
  have flaws : rules.flaws = [] ↔ ∀ rule ∈ rules, ∀ update ∈ rule.updates,
      Text.trim update.1.toList ≠ [] ∧ '.' ∉ update.1.toList := by
    simp only [RuleSet.flaws, List.flatMap_eq_nil_iff, List.filterMap_eq_nil_iff,
      RuleFlaw.ofTarget?_eq_none_iff]
    exact forall_mem_zipIdx_iff (p := fun rule : Rule => ∀ update ∈ rule.updates,
      Text.trim update.1.toList ≠ [] ∧ '.' ∉ update.1.toList)
  have warnings : rules.warnings = [] ↔ ∀ rule ∈ rules, rule.origin ≠ "" ∧
      (∀ update ∈ rule.updates, update.1 = "" ∨ update.1.toList.head? = some '$') ∧
      (rule.updates.map Prod.fst).Nodup := by
    have each (rule : Rule) (index : Nat) : (if rule.origin.isEmpty then
        [RuleWarning.emptyOrigin index] else []) ++
          RuleWarning.ofTargets index [] (rule.updates.map (·.1)) = [] ↔ rule.origin ≠ "" ∧
        (∀ update ∈ rule.updates, update.1 = "" ∨ update.1.toList.head? = some '$') ∧
        (rule.updates.map Prod.fst).Nodup := by
      rw [List.append_eq_nil_iff, RuleWarning.ofTargets_eq_nil_iff]
      simp
    simp only [RuleSet.warnings, List.flatMap_eq_nil_iff, each]
    exact forall_mem_zipIdx_iff (p := fun rule : Rule => rule.origin ≠ "" ∧
      (∀ update ∈ rule.updates, update.1 = "" ∨ update.1.toList.head? = some '$') ∧
      (rule.updates.map Prod.fst).Nodup)
  rw [flaws, warnings]
  constructor
  · rintro ⟨flawless, unwarned⟩ rule mem
    obtain ⟨origin, signed, once⟩ := unwarned rule mem
    refine ⟨origin, fun update listed => (signed update listed).resolve_left ?_,
      fun update listed => (flawless rule mem update listed).2, once⟩
    intro empty
    refine (flawless rule mem update listed).1 ?_
    rw [empty]
    rfl
  · intro clear
    exact ⟨fun rule mem update listed => ⟨trim_ne_nil_of_dollar ((clear rule mem).signed _ listed),
      (clear rule mem).undotted _ listed⟩, fun rule mem => ⟨(clear rule mem).origin,
        fun update listed => .inr ((clear rule mem).signed _ listed), (clear rule mem).once⟩⟩

/-! ## What a fired rule leaves in the document -/

namespace Session

variable {react : Reaction} {event : Event} {data : Fields} {s t : Session}
  {rule : CompiledRule} {compiled : List CompiledRule} {key : String} {changes : NameSet}

/-- Whether the listeners of a session leave what is under a key as they find it. -/
def Undisturbed (react : Reaction) (key : String) (s : Session) : Prop :=
  ∀ r ∈ s.store.registrations, ∀ t : Session,
    (react r.listener t).store.document.get? key = t.store.document.get? key

lemma get?_notify (undisturbed : s.Undisturbed react key) :
    (s.notify react changes).store.document.get? key = s.store.document.get? key := by
  rw [notify]
  refine List.foldlRecOn (motive := fun t : Session =>
    t.store.document.get? key = s.store.document.get? key) _ _ rfl fun t same r mem => ?_
  have invoked (entry : Entry) : (invoke react r.listener entry t).store.document.get? key =
      s.store.document.get? key :=
    (undisturbed r (List.mem_of_mem_filter mem) _).trans same
  rw [tell]
  split
  · exact same
  · split
    · exact invoked _
    · split
      · exact invoked _
      · exact same

/-- Under a state variable that a rule has set is what the last update of the variable makes of what
was there, as long as no listener changes it. -/
lemma get?_of_fired {done : Cycle} (cycled : cycle react compiled event data s = (.ok done, t))
    (undisturbed : s.Undisturbed react key) {index : Nat} (fired : done.fired? = some index) :
    ∃ rule ∈ compiled, rule.index = index ∧
      ∀ earlier formula later, rule.updates = earlier ++ (key, formula) :: later →
        key ∉ later.map Prod.fst → ∃ v, (formula.eval (s.scope data)).collected.1 = .ok v ∧
          t.store.document.get? key = (PatchOp.assign v).next? (s.store.document.get? key) := by
  cases concludes_of_cycle_eq cycled with
  | unanswered nobody => cases fired
  | @fires rule patch selected computed admitted =>
    refine ⟨rule, CompiledRule.mem_of_select selected, Option.some.inj fired,
      fun earlier formula later split last => ?_⟩
    have succeeds : formula.Succeeds (s.scope data) :=
      (CompiledRule.patch_eq_ok_iff.1 computed).1 (key, formula) (by simp [split])
    refine ⟨_, Formula.eval_of_succeeds succeeds, ?_⟩
    have same : (s.firing compiled event data rule).store = s.store := store_firing
    have undisturbed' :
        ((s.firing compiled event data rule).commit patch).Undisturbed react key := by
      rw [Undisturbed, store_commit, same]
      exact undisturbed
    rw [update_of_admitted (by rwa [same]), store_close, Store.close, get?_notify undisturbed',
      store_commit, same, Store.commit, get?_of_patch computed split last, Patch.apply_cons,
      Patch.apply_nil, Patch.get?_applyOp_self]

end Session

namespace LoadedRules

variable {document : Value} {loaded : LoadedRules}

/-- A flat document of clear rules is loaded without a warning. -/
lemma ofDocument_of_clear {records : List Value} {rules : RuleSet}
    (read : RuleSet.ofFlat records = .ok rules) (clear : ∀ rule ∈ rules, rule.Clear) :
    ofDocument (.array records) = .ok ⟨rules, true, []⟩ := by
  obtain ⟨flawless, unwarned⟩ := RuleSet.review_eq_nil_iff.2 clear
  rw [ofDocument_of_ofFlat read, reviewed_eq_ok_iff, unwarned]
  exact ⟨flawless, rfl⟩

/-- **A target without a warning is read, if it is a name that expressions write.**  Let a document
be loaded without warnings.  Each of its targets begins with a dollar sign, holds no point and is
set once by its rule.  As an expression it is parsed to the state variable of that very name if and
only if it is a dollar sign with a word behind it; any other target is read by no expression at all.
A target that is parsed so is read in every cycle after one in which its rule fired, as long as
neither the event data nor a listener get in the way: the expression then has the value that the
update came to, or if that is an object, the object that it was merged into. -/
theorem clear_targets_are_read (accepted : ofDocument document = .ok loaded)
    (unwarned : loaded.warnings = []) {index : Nat} {rule : Rule}
    (found : loaded.rules[index]? = some rule) {target source : String}
    (listed : (target, source) ∈ rule.updates) :
    (target.toList.head? = some '$' ∧ '.' ∉ target.toList ∧
      (rule.updates.map Prod.fst).count target = 1) ∧
    (Expr.parse target = .ok (.state target) ↔ IsVariable target) ∧
    (¬ IsVariable target →
      ∀ source e, Expr.parse source = .ok e → ¬ e.Reads target) ∧
    (IsVariable target → ∀ compiled, loaded.rules.compile = .ok compiled →
      ∃ e formula, Expr.parse target = .ok e ∧ Formula.parse source = .ok formula ∧
        ∀ react event data s t done, Session.cycle react compiled event data s = (.ok done, t) →
          done.fired? = some index → s.Undisturbed react target →
            ∃ v w, (formula.eval (s.scope data)).collected.1 = .ok v ∧
              (PatchOp.assign v).next? (s.store.document.get? target) = some w ∧
              (v.fields? = none → w = v) ∧
              ∀ data' : Fields, data'.get? target = none →
                (e.eval (t.scope data')).collected = (.ok w, [])) := by
  have mem : rule ∈ loaded.rules := List.mem_of_getElem? found
  have clear : rule.Clear := by
    obtain ⟨flawless, same⟩ := reviewed_of_ofDocument accepted
    rw [same] at unwarned
    exact RuleSet.review_eq_nil_iff.1 ⟨flawless, unwarned⟩ rule mem
  have sign := clear.signed _ listed
  refine ⟨⟨sign, clear.undotted _ listed, ?_⟩, Expr.parse_eq_state_iff,
    fun other source e parsed => Expr.not_reads parsed sign other,
    fun isVariable compiled compiles => ?_⟩
  · exact List.count_eq_one_of_mem clear.once (List.mem_map_of_mem listed)
  obtain ⟨parses, -⟩ := RuleSet.compile_eq_ok_iff.1 compiles
  obtain ⟨formula, parsed⟩ := exists_formula_iff.2 ((parses rule mem).updates _ listed)
  refine ⟨.state target, formula, Expr.parse_eq_state_iff.2 isVariable, parsed, ?_⟩
  intro react event data s t done cycled fired undisturbed
  obtain ⟨r, inForce, rfl, sets⟩ := Session.get?_of_fired cycled undisturbed fired
  obtain ⟨earlier, later, split⟩ := List.append_of_mem listed
  have last : target ∉ later.map Prod.fst := by
    have once := clear.once
    rw [split, List.map_append, List.map_cons] at once
    exact (List.nodup_cons.1 (List.nodup_append'.1 once).2.1).1
  obtain ⟨earlier', later', split', last'⟩ :=
    @Rule.exists_update_split rule r.index _ _ _ _ _ split parsed last
  have same : r = rule.compile r.index := RuleSet.eq_compile_of_mem compiles inForce found
  obtain ⟨v, evaluated, document⟩ :=
    sets _ _ _ ((congrArg CompiledRule.updates same).trans split') last'
  obtain ⟨w, assigned⟩ := PatchOp.exists_next?_assign v (s.store.document.get? target)
  refine ⟨v, w, evaluated, assigned, fun plain => ?_, fun data' absent => ?_⟩
  · rw [PatchOp.next?_assign_of_fields?_eq_none plain] at assigned
    exact (Option.some.inj assigned).symm
  · rw [assigned] at document
    have value : (t.scope data').lookup target = some w := by
      rw [Scope.lookup, Session.scope]
      simp only [absent, document]
      rfl
    rw [Expr.eval, value]
    rfl

/-- A rule that keeps what is said. -/
def echo : Rule :=
  .ofParts "mike" [] [("$said", "#words")]

/-- A session under this rule. -/
def echoSession : Session :=
  .ofParts ⟨[], [], [], 0, 64, "4.state", .holding none⟩
    (.ofProgram (.ofParsed [echo] (by decide +kernel)) .standard 1000 32)

/-- What is kept is read in the next cycle, which has other data. -/
theorem echo_is_read :
    let document : Value :=
      .array [.object [("origin", .string "mike"),
        ("updates", .object [("$said", .string "#words")])]]
    let cycled := Session.cycle (fun _ t => t) [echo.compile 0] ⟨"mike", "speak"⟩
      [("words", .string "hi")] echoSession
    ofDocument document = .ok ⟨[echo], true, []⟩ ∧
      ∃ e, Expr.parse "$said" = .ok e ∧ ∀ data' : Fields, data'.get? "$said" = none →
        (e.eval (cycled.2.scope data')).collected = (.ok (.string "hi"), []) := by
  intro document cycled
  have clear : ∀ r ∈ [echo], r.Clear := List.forall_mem_singleton.2
    ⟨by decide, List.forall_mem_singleton.2 rfl, List.forall_mem_singleton.2 (by decide),
      List.nodup_singleton _⟩
  have accepted : ofDocument document = .ok ⟨[echo], true, []⟩ := ofDocument_of_clear rfl clear
  have compiles : RuleSet.compile [echo] = .ok [echo.compile 0] := by decide +kernel
  have isVariable : IsVariable "$said" :=
    ⟨['s', 'a', 'i', 'd'], List.cons_ne_nil _ _, List.all_eq_true.1 rfl, by decide⟩
  have found : [echo][0]? = some echo := rfl
  obtain ⟨-, -, -, reads⟩ := clear_targets_are_read accepted rfl found
    (List.mem_cons_self : ("$said", "#words") ∈ echo.updates)
  obtain ⟨e, formula, parses, parsed, reads⟩ := reads isVariable _ compiles
  obtain rfl : ⟨"#words", .field "words"⟩ = formula := by
    have words : Formula.parse "#words" = .ok ⟨"#words", .field "words"⟩ := by decide +kernel
    exact Except.ok.inj (words.symm.trans parsed)
  have succeeds : (Session.cycle (fun _ t => t) [echo.compile 0] ⟨"mike", "speak"⟩
      [("words", .string "hi")] echoSession).1 =
        .ok ⟨⟨"mike", "speak"⟩, some 0, ["$said"]⟩ := by
    decide +kernel
  have undisturbed : echoSession.Undisturbed (fun _ t => t) "$said" := fun _ _ _ => rfl
  obtain ⟨v, w, evaluated, -, plain, reads⟩ :=
    reads _ _ _ _ _ _ (Prod.ext succeeds rfl) rfl undisturbed
  cases evaluated
  obtain rfl := plain rfl
  exact ⟨accepted, e, parses, reads⟩

/-- A rule with a target that is loaded without a warning and cannot be read. -/
theorem clear_target_unread : ¬ ∀ document loaded, ofDocument document = .ok loaded →
    loaded.warnings = [] → ∀ rule ∈ loaded.rules, ∀ update ∈ rule.updates,
      Expr.parse update.1 = .ok (.state update.1) := by
  intro read
  let rule : Rule := .ofParts "b" [] [("$é", "1")]
  have clear : ∀ r ∈ [rule], r.Clear := List.forall_mem_singleton.2
    ⟨by decide, List.forall_mem_singleton.2 rfl, List.forall_mem_singleton.2 (by decide),
      List.nodup_singleton _⟩
  have accepted : ofDocument (.array [.object [("origin", .string "b"),
      ("updates", .object [("$é", .string "1")])]]) = .ok ⟨[rule], true, []⟩ :=
    ofDocument_of_clear rfl clear
  obtain ⟨word, -, named, same⟩ := Expr.parse_eq_state_iff.1
    (read _ _ accepted rfl rule List.mem_cons_self ("$é", "1") List.mem_cons_self)
  obtain rfl : 'é' :: [] = word := (List.cons.inj (String.ofList_injective same)).2
  exact absurd (named 'é' List.mem_cons_self) (by decide)

end LoadedRules

end Reflex
