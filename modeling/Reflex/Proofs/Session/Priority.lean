import Mathlib.Order.Bounds.Basic
import Reflex.Proofs.Session.Atomicity
import Reflex.Proofs.Session.Queue
import Reflex.Proofs.Session.Selection
import Reflex.Proofs.Session.Settings

/-!
# Priority among rules

A cycle selects the first rule that answers its event, and what it queues by itself is what was
asked for on the way to that rule and by its updates.  Rules that come later have no part in it: as
long as each cycle finds a rule to fire, a dispatch is the same under rules that others were added
behind.  `Session.priority_is_stable` is the result.

* `CompiledRule.evaluated` lists the formulas that a cycle evaluates, and
  `Session.chosen_since_cycle` and `Session.asked_of_cycle` say which rule it selects and what it
  queues.
* `Session.Undergoes` is about the cycles of a dispatch, and `Session.cycle_append`,
  `Session.Answered.append` and `Session.Ends.append` about rules that are added behind the others.
-/

namespace Reflex

/-- The rule that an entry says was selected. -/
def Entry.selected? : Entry → Option Nat
  | .selected rule => some rule
  | _ => none

namespace Program

variable {program : Program} {rule : CompiledRule} {i : Nat}

lemma index_of_getElem? (place : program.rules[i]? = some rule) : rule.index = i := by
  rw [program.rules_eq, List.getElem?_map, List.getElem?_zipIdx, Nat.zero_add, Option.map_map,
    Option.map_eq_some_iff] at place
  obtain ⟨source, -, rfl⟩ := place
  rfl

/-- The first rule of a kind is the one at the least position. -/
lemma index_find?_eq_some_iff (program : Program) (p : CompiledRule → Bool) :
    (program.rules.find? p).map CompiledRule.index = some i ↔
      IsLeast {i | ∃ rule, program.rules[i]? = some rule ∧ p rule} i := by
  have first {j : Nat} (found : (program.rules.find? p).map CompiledRule.index = some j) :
      IsLeast {i | ∃ rule, program.rules[i]? = some rule ∧ p rule} j := by
    obtain ⟨rule, first, rfl⟩ := Option.map_eq_some_iff.1 found
    obtain ⟨holds, k, bound, here, earlier⟩ := List.find?_eq_some_iff_getElem.1 first
    have place : program.rules[k]? = some rule := by rw [List.getElem?_eq_getElem bound, here]
    obtain rfl := index_of_getElem? place
    refine ⟨⟨rule, place, holds⟩, fun k ⟨rule', place', holds'⟩ => ?_⟩
    by_contra before
    obtain ⟨bound', here'⟩ := List.getElem?_eq_some_iff.1 place'
    have fails := earlier k (Nat.not_le.1 before)
    rw [here', holds'] at fails
    cases fails
  refine ⟨first, fun least => ?_⟩
  obtain ⟨rule, place, holds⟩ := least.1
  cases found : program.rules.find? p with
  | none =>
    have fails := List.find?_eq_none.1 found rule (List.mem_of_getElem? place)
    exact absurd holds fails
  | some rule' =>
    have same : rule'.index = i := (first (by rw [found, Option.map_some])).unique least
    rw [Option.map_some, same]

/-- Where rules are added behind others the compiled rules are, too. -/
lemma exists_rules_append {extended : Program} {more : RuleSet}
    (longer : extended.source = program.source ++ more) :
    ∃ added, extended.rules = program.rules ++ added := by
  rw [rules_eq, rules_eq, longer, List.zipIdx_append, List.map_append]
  exact ⟨_, rfl⟩

end Program

namespace CompiledRule

variable {scope : Scope} {origin : String} {rule : CompiledRule} {rules : List CompiledRule}

/-- The formulas that a cycle evaluates which comes to an end.  Of the rules that accept the origin,
up to the first that answers or all of them where none does, these are the conditions up to the
first that is not met, which is one of them; and then the new values of the rule that answers. -/
def evaluated (scope : Scope) (origin : String) (rules : List CompiledRule) : List Formula :=
  (((reached scope origin rules).filter (·.origin.accepts origin)).flatMap fun rule =>
      rule.conditions.take ((rule.conditions.takeWhile (Formula.isMet scope)).length + 1)) ++
    (rules.find? (·.answers scope origin)).toList.flatMap fun rule => rule.updates.map (·.2)

/-- Where all new values are computed all of them were evaluated. -/
lemma computed_of_newValues {updates : List (String × Formula)} {values : List (String × Value)}
    (done : (newValues scope updates).1 = .ok values) :
    computed scope updates = updates.map (·.2) := by
  induction updates generalizing values with
  | nil => rfl
  | cons update updates ih =>
    obtain ⟨name, formula⟩ := update
    rw [newValues] at done
    rw [computed, List.map_cons]
    cases evaluated : (formula.eval scope).collected with
    | mk result events =>
      rw [evaluated] at done
      cases result with
      | error e => cases done
      | ok v =>
        obtain ⟨values', rest, -⟩ := map_eq_ok_iff.1 done
        simp only [ih rest]

lemma evaluated_of_unanswered (nobody : (select scope origin rules).1 = none) :
    evaluated scope origin rules = considered scope origin rules := by
  rw [select_eq_find?] at nobody
  rw [evaluated, nobody, considered_eq_flatMap]
  simp only [examined_eq_take]
  exact List.append_nil _

lemma evaluated_of_selected {patch : Patch} (selected : (select scope origin rules).1 = some rule)
    (patched : (rule.patch scope).1 = .ok patch) :
    evaluated scope origin rules =
      considered scope origin rules ++ computed scope rule.updates := by
  obtain ⟨values, done, -⟩ := map_eq_ok_iff.1 patched
  rw [select_eq_find?] at selected
  rw [evaluated, selected, considered_eq_flatMap, computed_of_newValues done]
  simp only [examined_eq_take, Option.toList_some, List.flatMap_singleton]

end CompiledRule

namespace Session

variable {react : Reaction} {rules more : List CompiledRule} {rule : CompiledRule}
  {event event' : Event} {data data' : Fields} {s t u last : Session} {outermost : Bool}
  {done : Cycle} {outcome : Outcome} {patch : Patch} {n : Nat}
  {result : Except EngineError Outcome}

/-! ## What a cycle writes -/

lemma journal_considering : (s.considering rules event data).journal =
    (((CompiledRule.considered (s.scope data) event.origin rules).flatMap
      (Formula.asks (s.scope data))).map .queued).reverse ++ s.journal := by
  rw [considering, CompiledRule.select_events]
  exact (runs_queueAll _ s).journal

lemma journal_firing
    (selected : (CompiledRule.select (s.scope data) event.origin rules).1 = some rule) :
    (s.firing rules event data rule).journal =
      (opening rules event.origin (s.scope data)).reverse ++ s.journal := by
  rw [firing, (runs_queueAll _ _).journal, journal_record, journal_considering,
    CompiledRule.patch_events, opening, selected]
  simp

lemma filterMap_queued_eq (events : List Event) :
    (events.map Entry.queued).filterMap Entry.queued? = events := by
  rw [List.filterMap_map]
  exact List.filterMap_some

lemma findSome?_queued_eq (events : List Event) :
    (events.map Entry.queued).findSome? Entry.selected? = none := by
  rw [List.findSome?_eq_none_iff]
  intro entry mem
  obtain ⟨event, -, rfl⟩ := List.mem_map.1 mem
  rfl

lemma findSome?_opening (es : List Entry)
    (selected : (CompiledRule.select (s.scope data) event.origin rules).1 = some rule) :
    (opening rules event.origin (s.scope data) ++ es).findSome? Entry.selected? =
      some rule.index := by
  rw [opening, selected, List.append_assoc, List.findSome?_append, findSome?_queued_eq]
  rfl

/-- The first rule that a cycle puts on record as selected is the first that answers. -/
lemma chosen_since_cycle (orderly : Orderly react) (rules : List CompiledRule) (event : Event)
    (data : Fields) (s : Session) :
    (s.since (cycle react rules event data s).2).findSome? Entry.selected? =
      (rules.find? (·.answers (s.scope data) event.origin)).map CompiledRule.index := by
  rw [← CompiledRule.select_eq_find?]
  cases concluded : cycle react rules event data s with
  | mk result t =>
    cases concludes_of_cycle_eq concluded with
    | unanswered nobody =>
      rw [nobody, since_eq journal_considering, findSome?_queued_eq]
      rfl
    | @fails rule name cause selected failed =>
      have written := findSome?_opening [] selected
      rw [List.append_nil] at written
      rw [selected, since_eq (journal_firing selected), written]
      rfl
    | @refused rule patch selected computed full =>
      have written := findSome?_opening [] selected
      rw [List.append_nil] at written
      rw [selected, since_eq (journal_firing selected), written]
      rfl
    | @fires rule patch selected computed admitted =>
      obtain ⟨es, run⟩ := leads_update orderly patch (s.firing rules event data rule)
      have written := run.journal
      rw [journal_firing selected, ← List.append_assoc, ← List.reverse_append] at written
      rw [selected, since_eq written, findSome?_opening es selected]
      rfl

lemma fired_of_cycle (succeeds : cycle react rules event data s = (.ok done, t)) :
    done.fired? =
      (rules.find? (·.answers (s.scope data) event.origin)).map CompiledRule.index := by
  rw [← CompiledRule.select_eq_find?]
  cases concludes_of_cycle_eq succeeds with
  | unanswered nobody => rw [nobody, Option.map_none]
  | fires selected computed admitted => rw [selected, Option.map_some]

/-! ## Cycles without a listener -/

lemma log_suffix_of_leads (leads : Leads s t) : s.log <:+ t.log := by
  obtain ⟨es, run⟩ := leads
  rw [log, log, run.journal, List.filter_append]
  exact List.suffix_append _ _

lemma log_invoke_ne (orderly : Orderly react) {name : String} {entry : Entry}
    (logged : entry.isLogged) : (invoke react name entry s).log ≠ s.log := by
  intro same
  obtain ⟨told, during⟩ := log_suffix_of_leads (orderly name (s.record entry))
  have before : (s.record entry).log = entry :: s.log := List.filter_cons_of_pos logged
  have after : (invoke react name entry s).log =
      .returned name :: (react name (s.record entry)).log := List.filter_cons_of_pos rfl
  rw [after, ← during, before] at same
  have lengths := congrArg List.length same
  simp only [List.length_cons, List.length_append] at lengths
  omega

lemma tell_of_log_eq (orderly : Orderly react) {r : Registration}
    (silent : (tell react r s).log = s.log) : tell react r s = s := by
  rw [tell] at silent ⊢
  split at silent
  · rfl
  · split at silent
    · exact absurd silent (log_invoke_ne orderly rfl)
    · split at silent
      · exact absurd silent (log_invoke_ne orderly rfl)
      · simp [*]

/-- Where no listener has run nothing has happened. -/
lemma notify_of_log_eq (orderly : Orderly react) {changes : NameSet}
    (silent : (s.notify react changes).log = s.log) : s.notify react changes = s := by
  rw [notify] at silent ⊢
  generalize s.store.registrations.filter (fun r => changes.meets r.names) = told at silent ⊢
  induction told with
  | nil => rfl
  | cons r told ih =>
    rw [List.foldl_cons] at silent ⊢
    have rest : (tell react r s).log <:+
        (told.foldl (fun t r => tell react r t) (tell react r s)).log :=
      log_suffix_of_leads
        (List.foldlRecOn told _ (.refl _) fun t before r _ => before.trans (leads_tell orderly r t))
    have first : s.log <:+ (tell react r s).log := log_suffix_of_leads (leads_tell orderly r s)
    rw [silent] at rest
    have same : tell react r s = s := tell_of_log_eq orderly (rest.eq_of_length_le first.length_le)
    rw [same] at silent ⊢
    exact ih silent

/-- An update of which nobody is told applies the patch and does nothing else. -/
lemma update_of_silent (orderly : Orderly react) (admitted : s.store.depth < s.store.maxDepth)
    (silent : (s.update react patch).2.log = s.log) :
    (s.update react patch).2 = (s.commit patch).close := by
  rw [update_of_admitted admitted] at silent ⊢
  have nobody : (s.commit patch).notify react (s.store.changesOf patch) = s.commit patch :=
    notify_of_log_eq orderly silent
  rw [nobody]

lemma exists_journal_close_commit (patch : Patch) (s : Session) :
    ∃ first last : Entry, first.Encloses last ∧
      (s.commit patch).close.journal = last :: first :: s.journal :=
  ⟨_, _, .update _ _ _ _, rfl⟩

lemma filterMap_opening
    (selected : (CompiledRule.select (s.scope data) event.origin rules).1 = some rule) :
    (opening rules event.origin (s.scope data)).filterMap Entry.queued? =
      (CompiledRule.considered (s.scope data) event.origin rules).flatMap
        (Formula.asks (s.scope data)) ++
      (CompiledRule.computed (s.scope data) rule.updates).flatMap
        (Formula.asks (s.scope data)) := by
  rw [opening, selected, List.filterMap_append, filterMap_queued_eq]
  exact congrArg _ (filterMap_queued_eq _)

/-- A cycle that comes to an end without that any listener runs has queued what the formulas that
it evaluated have asked for, and nothing else. -/
lemma asked_of_cycle (orderly : Orderly react)
    (succeeds : cycle react rules event data s = (.ok done, t)) (silent : t.log = s.log) :
    let scope := s.scope data
    let asked := (CompiledRule.evaluated scope event.origin rules).flatMap (Formula.asks scope)
    (s.since t).filterMap Entry.queued? = asked ∧ t.engine = (s.queueAll asked).engine := by
  intro scope asked
  cases concludes_of_cycle_eq succeeds with
  | unanswered nobody =>
    have same : asked = (CompiledRule.considered scope event.origin rules).flatMap
        (Formula.asks scope) := by
      rw [← CompiledRule.evaluated_of_unanswered nobody]
    rw [since_eq journal_considering, filterMap_queued_eq, same, considering,
      CompiledRule.select_events]
    exact ⟨rfl, rfl⟩
  | @fires rule patch selected computed admitted =>
    have same : asked =
        (CompiledRule.considered scope event.origin rules).flatMap (Formula.asks scope) ++
          (CompiledRule.computed scope rule.updates).flatMap (Formula.asks scope) := by
      rw [← List.flatMap_append, ← CompiledRule.evaluated_of_selected selected computed]
    have admitted' : (s.firing rules event data rule).store.depth <
        (s.firing rules event data rule).store.maxDepth := by
      rw [store_firing]
      exact admitted
    rw [update_of_silent orderly admitted' (silent.trans log_firing.symm)]
    constructor
    · obtain ⟨first, last, encloses, written⟩ :=
        exists_journal_close_commit patch (s.firing rules event data rule)
      obtain ⟨first_none, last_none⟩ := encloses.queued?_eq_none
      have whole : ((s.firing rules event data rule).commit patch).close.journal =
          (opening rules event.origin (s.scope data) ++ [first, last]).reverse ++ s.journal := by
        rw [written, journal_firing selected, List.reverse_append, List.append_assoc]
        rfl
      have neither : [first, last].filterMap Entry.queued? = [] := by simp [first_none, last_none]
      rw [since_eq whole, List.filterMap_append, neither, List.append_nil,
        filterMap_opening selected]
      exact same.symm
    · rw [engine_close, engine_commit, firing, engine_queueAll, engine_record, considering,
        engine_queueAll, engine_queueAll, same, List.foldl_append, CompiledRule.select_events,
        CompiledRule.patch_events]

/-! ## Rules behind the others -/

/-- A cycle that finds a rule is the same when there are rules behind the others. -/
lemma cycle_append
    (selected : (CompiledRule.select (s.scope data) event.origin rules).1 = some rule)
    (more : List CompiledRule) :
    cycle react (rules ++ more) event data s = cycle react rules event data s := by
  rw [cycle, cycle, CompiledRule.select_append selected]

lemma cycle_append_of_fired (succeeds : cycle react rules event data s = (.ok done, t))
    (fired : done.fired? ≠ none) (more : List CompiledRule) :
    cycle react (rules ++ more) event data s = (.ok done, t) := by
  cases concludes_of_cycle_eq succeeds with
  | unanswered nobody => exact absurd rfl fired
  | fires selected computed admitted => rw [cycle_append selected, succeeds]

lemma cycle_append_of_error {e : EngineError}
    (failed : cycle react rules event data s = (.error e, t)) (more : List CompiledRule) :
    cycle react (rules ++ more) event data s = (.error e, t) := by
  cases concludes_of_cycle_eq failed with
  | fails selected failure => rw [cycle_append selected, failed]
  | refused selected computed full => rw [cycle_append selected, failed]

/-- Cycles that each fired a rule are the same when there are rules behind the others. -/
lemma Answered.append
    (answered : Answered react rules outermost event data s outcome event' data' u)
    (fired : ∀ done ∈ outcome, done.fired? ≠ none) (more : List CompiledRule) :
    Answered react (rules ++ more) outermost event data s outcome event' data' u := by
  induction answered with
  | nil event data s => exact .nil event data s
  | cons succeeds next rest ih =>
    obtain ⟨first, later⟩ := List.forall_mem_cons.1 fired
    exact .cons (cycle_append_of_fired succeeds first more) next (ih later)

/-- A cycle comes to an end, and is one of the first `n` that begin with `event`. -/
def Occurs (react : Reaction) (rules : List CompiledRule) (outermost : Bool) (event : Event)
    (data : Fields) (s : Session) (n : Nat) (done : Cycle) : Prop :=
  ∃ before event' data' u t, before.length < n ∧
    Answered react rules outermost event data s before event' data' u ∧
    cycle react rules event' data' u = (.ok done, t)

lemma Occurs.mono {m : Nat} (occurs : Occurs react rules outermost event data s n done)
    (le : n ≤ m) : Occurs react rules outermost event data s m done := by
  obtain ⟨before, event', data', u, t, earlier, answered, succeeds⟩ := occurs
  exact ⟨before, event', data', u, t, earlier.trans_le le, answered, succeeds⟩

lemma Answered.occurs
    (answered : Answered react rules outermost event data s outcome event' data' u)
    (mem : done ∈ outcome) : Occurs react rules outermost event data s outcome.length done := by
  induction answered with
  | nil => cases mem
  | @cons event _ _ data _ s t u first outcome engine succeeds next rest ih =>
    rcases List.mem_cons.1 mem with rfl | later
    · exact ⟨[], event, data, s, t, Nat.succ_pos _, .nil event data s, succeeds⟩
    · obtain ⟨before, event', data', u', t', earlier, answered, succeeds'⟩ := ih later
      exact ⟨first :: before, event', data', u', t', Nat.succ_lt_succ earlier,
        .cons succeeds next answered, succeeds'⟩

/-- Cycles that come to an end of themselves, and each of which fired a rule or failed, are the same
when there are rules behind the others. -/
lemma Ends.append (ends : Ends react rules outermost event data s n result last)
    (fired : ∀ done, Occurs react rules outermost event data s n done → done.fired? ≠ none)
    (more : List CompiledRule) :
    Ends react (rules ++ more) outermost event data s n result last := by
  cases ends with
  | @exhausted before event' data' u t final answered succeeds empty =>
    have earlier : ∀ done ∈ before, done.fired? ≠ none := fun done mem =>
      fired done ((answered.occurs mem).mono (Nat.le_succ _))
    have fires : final.fired? ≠ none :=
      fired final ⟨before, event', data', u, t, Nat.lt_succ_self _, answered, succeeds⟩
    exact .exhausted (answered.append earlier more) (cycle_append_of_fired succeeds fires more)
      empty
  | @fails before event' data' u t e answered failed =>
    have earlier : ∀ done ∈ before, done.fired? ≠ none := fun done mem =>
      fired done ((answered.occurs mem).mono (Nat.le_succ _))
    exact .fails (answered.append earlier more) (cycle_append_of_error failed more)

/-! ## Dispatches -/

/-- A cycle of the dispatch of an event comes to an end. -/
def Undergoes (react : Reaction) (event : Event) (data : Fields) (s : Session) (done : Cycle) :
    Prop :=
  s.engine.frames.length < s.engine.maxNesting ∧
    Occurs react s.engine.program.rules s.engine.isIdle event data (s.enter event data)
      s.engine.maxCycles done

/-- The cycles of a dispatch that succeeds are those of which it gives an account. -/
lemma undergoes_iff_mem (succeeds : s.dispatch react event data = (.ok outcome, t)) :
    s.Undergoes react event data done ↔ done ∈ outcome := by
  have admitted := admitted_of_dispatch_eq_ok succeeds
  rw [dispatch_eq admitted] at succeeds
  obtain ⟨ended, rfl⟩ := Prod.mk.inj succeeds
  constructor
  · rintro ⟨-, before, event', data', u, t, earlier, answered, completes⟩
    obtain ⟨left, enough⟩ : ∃ left, s.engine.maxCycles = before.length + (left + 1) :=
      ⟨s.engine.maxCycles - (before.length + 1), by omega⟩
    rw [enough, drain_of_answered answered, drain, completes] at ended
    obtain ⟨rest, ended', rfl⟩ := map_eq_ok_iff.1 ended
    refine List.mem_append_right before ?_
    dsimp only at ended'
    split at ended'
    · cases ended'
      exact List.mem_singleton_self done
    · obtain ⟨rest', -, rfl⟩ := map_eq_ok_iff.1 ended'
      exact List.mem_cons_self
  · intro mem
    refine ⟨admitted, ?_⟩
    obtain ⟨n, result, last, within, ends⟩ | ⟨before, event', data', u, length, answered⟩ :=
      ends_or_answered react s.engine.program.rules s.engine.isIdle s.engine.maxCycles event data
        (s.enter event data)
    · rw [ends.drain within] at ended
      cases ends with
      | @exhausted before event' data' u t final answered completes empty =>
        cases ended
        rcases List.mem_append.1 mem with earlier | latest
        · exact (answered.occurs earlier).mono ((Nat.le_succ _).trans within)
        · obtain rfl := List.mem_singleton.1 latest
          exact ⟨before, event', data', u, t, within, answered, completes⟩
      | fails answered failed => cases ended
    · have cut := drain_of_answered answered 0
      rw [Nat.add_zero, length] at cut
      rw [cut] at ended
      cases ended

lemma unseen_replace (program : Program) : Engine.Unseen (Engine.replace program) where
  library _ := rfl
  frames _ := rfl
  staged _ := rfl
  last _ := rfl
  withFrames _ _ := rfl
  withStaged _ _ := rfl
  withLast _ _ := rfl

/-- A dispatch without listeners in which each cycle fires a rule or fails is the same when there
are rules behind the others. -/
lemma dispatch_replace_append {extended : Program} (unwatched : s.store.registrations = [])
    (longer : extended.rules = s.engine.program.rules ++ more)
    (fired : ∀ done, s.Undergoes react event data done → done.fired? ≠ none) :
    (s.mapEngine (.replace extended)).dispatch react event data =
      ((s.dispatch react event data).1,
        (s.dispatch react event data).2.mapEngine (.replace extended)) := by
  have unseen := unseen_replace extended
  by_cases admitted : s.engine.frames.length < s.engine.maxNesting
  · have admitted' : (s.mapEngine (.replace extended)).engine.frames.length <
        (s.mapEngine (.replace extended)).engine.maxNesting := admitted
    have begun : (s.enter event data).store.registrations = [] := unwatched
    have fired' : ∀ done, Occurs react s.engine.program.rules s.engine.isIdle event data
        (s.enter event data) s.engine.maxCycles done → done.fired? ≠ none :=
      fun done occurs => fired done ⟨admitted, occurs⟩
    have rules : (s.mapEngine (.replace extended)).engine.program.rules =
      s.engine.program.rules ++ more := longer
    have idle : (s.mapEngine (.replace extended)).engine.isIdle = s.engine.isIdle := rfl
    have limit : (s.mapEngine (.replace extended)).engine.maxCycles = s.engine.maxCycles := rfl
    rw [dispatch_eq admitted, dispatch_eq admitted', enter_mapEngine unseen, rules, idle, limit]
    obtain ⟨n, result, last, within, ends⟩ | ⟨before, event', data', u, length, answered⟩ :=
      ends_or_answered react s.engine.program.rules s.engine.isIdle s.engine.maxCycles event data
        (s.enter event data)
    · have fires := fun done occurs => fired' done (Occurs.mono occurs within)
      have ends' := (ends.append fires more).mapEngine unseen begun
      rw [ends.drain within, ends'.drain within]
      exact congrArg _ (leave_mapEngine unseen)
    · have fires : ∀ done ∈ before, done.fired? ≠ none :=
        fun done mem => fired' done (length ▸ answered.occurs mem)
      have answered' := (answered.append fires more).mapEngine unseen begun
      have cut := drain_of_answered answered 0
      have cut' := drain_of_answered answered' 0
      rw [Nat.add_zero, length] at cut cut'
      rw [cut, cut']
      exact congrArg _ (leave_mapEngine unseen)
  · have full := Nat.not_lt.1 admitted
    have refused : s.dispatch react event data =
        (.error (.nestingTooDeep s.engine.maxNesting), s) := if_pos full
    rw [refused]
    exact if_pos full

/-- **Priority is stable.**  A cycle puts on record as selected the rule at the least position that
accepts the origin of the event and whose conditions all come to values that count as true, if there
is one, and if the cycle comes to an end it says that it has fired this rule.  If no listener runs
in the meantime, it has queued what its formulas ask for: the conditions that it evaluates on the
way to that rule, or through all rules where there is none, and the updates of that rule.  So if
each cycle of a dispatch without listeners that comes to an end fires a rule, then the dispatch has
the same result when other rules follow these, with the same document, the same events waiting and
the same record after it. -/
theorem priority_is_stable (orderly : Orderly react) (program : Program) :
    (∀ (s : Session) (event : Event) (data : Fields),
      let cycled := cycle react program.rules event data s
      let scope := s.scope data
      let chosen? := (s.since cycled.2).findSome? Entry.selected?
      (∀ i, chosen? = some i ↔
        IsLeast {i | ∃ rule, program.rules[i]? = some rule ∧ rule.answers scope event.origin} i) ∧
      ∀ done, cycled.1 = .ok done →
        done.fired? = chosen? ∧
        (cycled.2.log = s.log →
          let asked := (CompiledRule.evaluated scope event.origin program.rules).flatMap
            (Formula.asks scope)
          (s.since cycled.2).filterMap Entry.queued? = asked ∧
          cycled.2.engine = (s.queueAll asked).engine)) ∧
    ∀ (s : Session) (event : Event) (data : Fields) (more : RuleSet) (extended : Program),
      s.engine.program = program → s.store.registrations = [] →
      extended.source = program.source ++ more →
      (∀ done, s.Undergoes react event data done → done.fired? ≠ none) →
      let dispatched := s.dispatch react event data
      let dispatched' := (s.mapEngine (.replace extended)).dispatch react event data
      dispatched'.1 = dispatched.1 ∧
      dispatched'.2.store.document = dispatched.2.store.document ∧
      dispatched'.2.engine.frames = dispatched.2.engine.frames ∧
      dispatched'.2.engine.staged = dispatched.2.engine.staged ∧
      dispatched'.2.engine.last = dispatched.2.engine.last := by
  constructor
  · intro s event data cycled scope chosen?
    have chosen : chosen? =
        (program.rules.find? (·.answers scope event.origin)).map CompiledRule.index :=
      chosen_since_cycle orderly program.rules event data s
    refine ⟨fun i => ?_, fun done succeeds => ⟨?_, fun silent => ?_⟩⟩
    · rw [chosen]
      exact program.index_find?_eq_some_iff _
    · rw [chosen]
      exact fired_of_cycle (Prod.ext succeeds rfl)
    · exact asked_of_cycle orderly (Prod.ext succeeds rfl) silent
  · rintro s event data more extended rfl unwatched longer fired dispatched dispatched'
    obtain ⟨added, rules⟩ := Program.exists_rules_append longer
    have same : dispatched' = (dispatched.1, dispatched.2.mapEngine (.replace extended)) :=
      dispatch_replace_append unwatched rules fired
    rw [same]
    exact ⟨rfl, rfl, rfl, rfl, rfl⟩

/-- Rules of which the first asks for an event in a condition that is not met, the second has a
condition that fails, and the others set a state variable each. -/
def tierRules : RuleSet :=
  [.ofParts "door" ["queue('bell', 'ring') and false"] [], .ofParts "*" ["nope"] [],
    .ofParts "door" [] [("$open", "true")], .ofParts "bell" [] [("$rung", "true")]]

/-- These rules, compiled. -/
def tier : Program :=
  .ofParsed tierRules (by decide +kernel)

/-- These rules with one behind them that answers everything. -/
def lowerTierRules : RuleSet :=
  tierRules ++ [Rule.ofParts "*" [] [("$late", "true")]]

/-- The longer list of rules, compiled. -/
def lowerTier : Program :=
  .ofParsed lowerTierRules (by decide +kernel)

/-- A session under the first of these rules. -/
def tierSession : Session :=
  .ofParts ⟨[], [], [], 0, 64, "6.state", .holding none⟩ (.ofProgram tier .standard 1000 32)

/-- The third rule is selected, with the event queued that the first one asks for, and the rule
behind them all is never fired. -/
theorem tier_keeps_priority :
    let react := Session.react 1
    let cycled := cycle react tier.rules ⟨"door", "knock"⟩ [] tierSession
    let dispatched := tierSession.dispatch react ⟨"door", "knock"⟩ []
    let dispatched' :=
      (tierSession.mapEngine (.replace lowerTier)).dispatch react ⟨"door", "knock"⟩ []
    (tierSession.since cycled.2).findSome? Entry.selected? = some 2 ∧
    IsLeast {i | ∃ rule, tier.rules[i]? = some rule ∧
      rule.answers (tierSession.scope []) "door"} 2 ∧
    cycled.2.engine = (tierSession.queue ⟨"bell", "ring"⟩).engine ∧
    dispatched.1 = .ok [⟨⟨"door", "knock"⟩, some 2, ["$open"]⟩,
      ⟨⟨"bell", "ring"⟩, some 3, ["$rung"]⟩] ∧
    dispatched'.1 = dispatched.1 ∧
    dispatched'.2.store.document = dispatched.2.store.document ∧
    dispatched'.2.engine.frames = dispatched.2.engine.frames ∧
    dispatched'.2.engine.staged = dispatched.2.engine.staged ∧
    dispatched'.2.engine.last = dispatched.2.engine.last := by
  obtain ⟨cycles, dispatches⟩ := priority_is_stable (orderly_react 1) tier
  obtain ⟨least, completes⟩ := cycles tierSession ⟨"door", "knock"⟩ []
  have first : (cycle (Session.react 1) tier.rules ⟨"door", "knock"⟩ [] tierSession).1 =
      .ok ⟨⟨"door", "knock"⟩, some 2, ["$open"]⟩ := by decide +kernel
  have silent : (cycle (Session.react 1) tier.rules ⟨"door", "knock"⟩ [] tierSession).2.log =
      tierSession.log := by decide +kernel
  have evaluated : (CompiledRule.evaluated (tierSession.scope []) "door" tier.rules).flatMap
      (Formula.asks (tierSession.scope [])) = [⟨"bell", "ring"⟩] := by decide +kernel
  have ended : (tierSession.dispatch (Session.react 1) ⟨"door", "knock"⟩ []).1 =
      .ok [⟨⟨"door", "knock"⟩, some 2, ["$open"]⟩, ⟨⟨"bell", "ring"⟩, some 3, ["$rung"]⟩] := by
    decide +kernel
  obtain ⟨chosen, asked⟩ := completes _ first
  obtain ⟨-, queued⟩ := asked silent
  rw [evaluated] at queued
  have fired : ∀ done, tierSession.Undergoes (Session.react 1) ⟨"door", "knock"⟩ [] done →
      done.fired? ≠ none := by
    intro done undergone
    have mem := (undergoes_iff_mem (Prod.ext ended rfl)).1 undergone
    simp only [List.mem_cons, List.not_mem_nil, or_false] at mem
    rcases mem with rfl | rfl <;> exact Option.some_ne_none _
  have inForce : tierSession.engine.program = tier := rfl
  have longer : lowerTier.source = tier.source ++ [Rule.ofParts "*" [] [("$late", "true")]] := rfl
  have same := dispatches tierSession ⟨"door", "knock"⟩ [] _ lowerTier inForce rfl longer fired
  exact ⟨chosen.symm, (least 2).1 chosen.symm, queued, ended, same⟩

end Session

end Reflex
