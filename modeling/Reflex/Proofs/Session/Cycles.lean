import Reflex.Proofs.Result
import Reflex.Proofs.Session.Basic
import Reflex.Proofs.Session.Firing

/-!
# How cycles end

A cycle goes through the rules, evaluates the updates of the rule that it selects and applies them
as one patch.  It comes to an end in one of four ways, which `Session.Concludes` lists with what
each leaves behind, so that nothing else need look into a cycle.  Until the patch is applied a cycle
does nothing but queue events: `Session.considering` and `Session.firing` are the session at the two
moments before.

* `Session.cycle_concludes` says that these four ways are all.
* `Session.Answered` is about cycles that succeed one after the other, and `Session.Ends` about
  cycles that come to an end of themselves, be it with a success or with a failure.
* `Session.ends_or_answered` says that cycles end so or go on, and `Session.drain_of_answered` takes
  the cycles that were gone through off a run of cycles.
* `CompiledRule.newValues_error_iff` says which update of a rule a failure is about.
-/

namespace Reflex

namespace CompiledRule

variable {scope : Scope}

/-- The evaluation of updates fails at the first of them that fails. -/
lemma newValues_error_iff {updates : List (String × Formula)} {name : String} {cause : EvalError} :
    (newValues scope updates).1 = .error (name, cause) ↔
      ∃ before formula after, updates = before ++ (name, formula) :: after ∧
        (∀ update ∈ before, ∃ v, (update.2.eval scope).collected.1 = .ok v) ∧
        (formula.eval scope).collected.1 = .error cause := by
  induction updates with
  | nil =>
    constructor
    · intro failed
      cases failed
    · rintro ⟨before, formula, after, split, -⟩
      simp at split
  | cons update updates ih =>
    obtain ⟨name', formula'⟩ := update
    rw [newValues]
    cases evaluated : (formula'.eval scope).collected with
    | mk result events =>
      cases result with
      | error cause' =>
        constructor
        · intro failed
          cases failed
          exact ⟨[], formula', updates, rfl, by simp, by rw [evaluated]⟩
        · rintro ⟨before, formula, after, split, succeed, failed⟩
          -- Were there an update before it, that would be the one that fails here.
          cases before with
          | nil =>
            cases split
            rw [evaluated] at failed
            cases failed
            rfl
          | cons first before =>
            obtain ⟨v, value⟩ := succeed first List.mem_cons_self
            cases split
            rw [evaluated] at value
            cases value
      | ok v =>
        simp only [map_eq_error_iff, ih]
        constructor
        · rintro ⟨before, formula, after, rfl, succeed, failed⟩
          exact ⟨(name', formula') :: before, formula, after, rfl,
            List.forall_mem_cons.2 ⟨⟨v, by rw [evaluated]⟩, succeed⟩, failed⟩
        · rintro ⟨before, formula, after, split, succeed, failed⟩
          cases before with
          | nil =>
            cases split
            rw [evaluated] at failed
            cases failed
          | cons first before =>
            obtain ⟨rfl, rfl⟩ := List.cons.inj split
            exact ⟨before, formula, after, rfl, (List.forall_mem_cons.1 succeed).2, failed⟩

end CompiledRule

namespace Session

variable {react : Reaction} {rules : List CompiledRule} {rule : CompiledRule} {event event' : Event}
  {data data' : Fields} {s t u last : Session} {outermost : Bool} {done : Outcome} {left n : Nat}
  {result : Except EngineError Outcome}

/-- The session when a cycle has gone through the rules. -/
def considering (rules : List CompiledRule) (event : Event) (data : Fields) (s : Session) :
    Session :=
  s.queueAll (CompiledRule.select (s.scope data) event.origin rules).2

/-- The session when a cycle has evaluated the updates of the rule that it selected. -/
def firing (rules : List CompiledRule) (event : Event) (data : Fields) (rule : CompiledRule)
    (s : Session) : Session :=
  ((s.considering rules event data).record (.selected rule.index)).queueAll
    (rule.patch (s.scope data)).2

lemma store_considering : (s.considering rules event data).store = s.store :=
  store_queueAll

@[simp] lemma store_firing : (s.firing rules event data rule).store = s.store := by
  rw [firing, store_queueAll, store_record, store_considering]

/-- The ways in which a cycle ends. -/
inductive Concludes (react : Reaction) (rules : List CompiledRule) (event : Event) (data : Fields)
    (s : Session) : Except EngineError Cycle → Session → Prop
  /-- No rule applies. -/
  | unanswered (nobody : (CompiledRule.select (s.scope data) event.origin rules).1 = none) :
      Concludes react rules event data s (.ok ⟨event, none, []⟩) (s.considering rules event data)
  /-- An update of the rule fails. -/
  | fails {rule : CompiledRule} {name : String} {cause : EvalError}
      (selected : (CompiledRule.select (s.scope data) event.origin rules).1 = some rule)
      (failed : (rule.patch (s.scope data)).1 = .error (name, cause)) :
      Concludes react rules event data s (.error (.update rule.index name cause))
        (s.firing rules event data rule)
  /-- The patch is refused. -/
  | refused {rule : CompiledRule} {patch : Patch}
      (selected : (CompiledRule.select (s.scope data) event.origin rules).1 = some rule)
      (computed : (rule.patch (s.scope data)).1 = .ok patch)
      (full : s.store.maxDepth ≤ s.store.depth) :
      Concludes react rules event data s (.error (.store (.reentrancyLimit s.store.maxDepth)))
        (s.firing rules event data rule)
  /-- The patch is applied. -/
  | fires {rule : CompiledRule} {patch : Patch}
      (selected : (CompiledRule.select (s.scope data) event.origin rules).1 = some rule)
      (computed : (rule.patch (s.scope data)).1 = .ok patch)
      (admitted : s.store.depth < s.store.maxDepth) :
      Concludes react rules event data s (.ok ⟨event, some rule.index, s.store.changesOf patch⟩)
        ((s.firing rules event data rule).update react patch).2

/-- An update is refused when too many are under way, and then nothing happens. -/
lemma update_of_full {patch : Patch} (full : s.store.maxDepth ≤ s.store.depth) :
    s.update react patch = (.error (.reentrancyLimit s.store.maxDepth), s) :=
  if_pos full

/-- An update that is not refused says what it changes. -/
lemma update_of_admitted {patch : Patch} (admitted : s.store.depth < s.store.maxDepth) :
    s.update react patch = (.ok (s.store.changesOf patch),
      ((s.commit patch).notify react (s.store.changesOf patch)).close) :=
  if_neg (Nat.not_le.2 admitted)

lemma cycle_eq : cycle react rules event data s =
    match (CompiledRule.select (s.scope data) event.origin rules).1 with
    | none => (.ok ⟨event, none, []⟩, s.considering rules event data)
    | some rule => fire react event data rule (s.considering rules event data) :=
  rfl

lemma fire_considering : fire react event data rule (s.considering rules event data) =
    match (rule.patch (s.scope data)).1 with
    | .error (name, cause) =>
      (.error (.update rule.index name cause), s.firing rules event data rule)
    | .ok patch =>
      let (changes, u) := (s.firing rules event data rule).update react patch
      match changes with
      | .ok changes => (.ok ⟨event, some rule.index, changes⟩, u)
      | .error e => (.error (.store e), u) := by
  have same : (s.considering rules event data).scope data = s.scope data := scope_queueAll
  rewrite [fire, firing, same]
  cases rule.patch (s.scope data) with
  | mk result events => cases result <;> rfl

/-- A cycle ends in one of the four ways. -/
lemma cycle_concludes (react : Reaction) (rules : List CompiledRule) (event : Event)
    (data : Fields) (s : Session) :
    Concludes react rules event data s (cycle react rules event data s).1
      (cycle react rules event data s).2 := by
  rw [cycle_eq]
  cases selected : (CompiledRule.select (s.scope data) event.origin rules).1 with
  | none => exact .unanswered selected
  | some rule =>
    simp only [fire_considering]
    cases computed : (rule.patch (s.scope data)).1 with
    | error failure => exact .fails selected computed
    | ok patch =>
      have sameStore : (s.firing rules event data rule).store = s.store := store_firing
      rcases Nat.lt_or_ge s.store.depth s.store.maxDepth with admitted | full
      · have fires : Concludes react rules event data s _ _ := .fires selected computed admitted
        rw [← sameStore] at admitted
        simpa only [update_of_admitted admitted, sameStore] using fires
      · have refused : Concludes react rules event data s _ _ := .refused selected computed full
        rw [← sameStore] at full
        simpa only [update_of_full full, sameStore] using refused

lemma concludes_of_cycle_eq {ended : Except EngineError Cycle}
    (concluded : cycle react rules event data s = (ended, t)) :
    Concludes react rules event data s ended t := by
  have ways := cycle_concludes react rules event data s
  rwa [concluded] at ways

/-! ## Cycles one after the other -/

/-- Cycles that succeed, the first of which answers `event` in the session `s`.  After them the
event `event'` is to be answered. -/
inductive Answered (react : Reaction) (rules : List CompiledRule) (outermost : Bool) :
    Event → Fields → Session → Outcome → Event → Fields → Session → Prop
  | nil (event : Event) (data : Fields) (s : Session) :
      Answered react rules outermost event data s [] event data s
  | cons {event event' event'' : Event} {data data'' : Fields} {s t u : Session} {done : Cycle}
      {outcome : Outcome} {engine : Engine}
      (first : cycle react rules event data s = (.ok done, t))
      (next : (t.recordFired outermost done.fired?).engine.next = some (event', engine))
      (rest : Answered react rules outermost event' []
        ((t.recordFired outermost done.fired?).take event' engine) outcome event'' data'' u) :
      Answered react rules outermost event data s (done :: outcome) event'' data'' u

/-- What holds before cycles that succeed holds after them, if one cycle keeps it and it is about
the store alone. -/
lemma Answered.preserves {P : Session → Prop}
    (ofStore : ∀ {s t : Session}, P s → t.store = s.store → P t)
    (step : ∀ {event : Event} {data : Fields} {s t : Session} {final : Cycle}, P s →
      cycle react rules event data s = (.ok final, t) → P t)
    (answered : Answered react rules outermost event data s done event' data' u) (start : P s) :
    P u := by
  induction answered with
  | nil => exact start
  | cons succeeds next rest ih => exact ih (ofStore (step start succeeds) store_recordFired)

/-- Cycles come to an end of themselves, with a result.  The number counts the cycles, the one they
end with included. -/
inductive Ends (react : Reaction) (rules : List CompiledRule) (outermost : Bool) (event : Event)
    (data : Fields) (s : Session) : Nat → Except EngineError Outcome → Session → Prop
  /-- After a cycle no event is left. -/
  | exhausted {done : Outcome} {event' : Event} {data' : Fields} {u t : Session} {final : Cycle}
      (before : Answered react rules outermost event data s done event' data' u)
      (succeeds : cycle react rules event' data' u = (.ok final, t))
      (empty : (t.recordFired outermost final.fired?).engine.next = none) :
      Ends react rules outermost event data s (done.length + 1) (.ok (done ++ [final]))
        (t.recordFired outermost final.fired?)
  /-- A cycle fails. -/
  | fails {done : Outcome} {event' : Event} {data' : Fields} {u t : Session} {e : EngineError}
      (before : Answered react rules outermost event data s done event' data' u)
      (failed : cycle react rules event' data' u = (.error e, t)) :
      Ends react rules outermost event data s (done.length + 1) (.error e) t

/-- What is left of a run of cycles when some of them were gone through. -/
lemma drain_of_answered
    (before : Answered react rules outermost event data s done event' data' u) (left : Nat) :
    drain react rules outermost (done.length + left) event data s =
      let (rest, v) := drain react rules outermost left event' data' u
      (rest.map (done ++ ·), v) := by
  induction before with
  | nil event data s =>
    rw [List.length_nil, Nat.zero_add]
    cases drain react rules outermost left event data s with
    | mk rest v => cases rest <;> rfl
  | @cons event event' event'' data data'' s t u first outcome engine succeeds next rest ih =>
    have length : (first :: outcome).length + left = (outcome.length + left) + 1 := by
      rw [List.length_cons]
      omega
    rw [length, drain, succeeds]
    simp only [next, ih]
    cases drain react rules outermost left event'' data'' u with
    | mk rest v => cases rest <;> rfl

/-- Cycles end of themselves within a given number of them, or that number is gone through and an
event is left. -/
lemma ends_or_answered (react : Reaction) (rules : List CompiledRule) (outermost : Bool)
    (left : Nat) (event : Event) (data : Fields) (s : Session) :
    (∃ n result last, n ≤ left ∧ Ends react rules outermost event data s n result last) ∨
    ∃ done event' data' u, done.length = left ∧
      Answered react rules outermost event data s done event' data' u := by
  induction left generalizing event data s with
  | zero => exact .inr ⟨[], event, data, s, rfl, .nil event data s⟩
  | succ left ih =>
    have start : Answered react rules outermost event data s [] event data s := .nil event data s
    cases first : cycle react rules event data s with
    | mk outcome t =>
      cases outcome with
      | error e => exact .inl ⟨1, .error e, t, Nat.le_add_left 1 left, .fails start first⟩
      | ok final =>
        cases next : (t.recordFired outermost final.fired?).engine.next with
        | none =>
          exact .inl ⟨1, .ok [final], _, Nat.le_add_left 1 left, .exhausted start first next⟩
        | some taken =>
          obtain ⟨event', engine⟩ := taken
          -- The cycle goes in front of those that answer the event that is left.
          rcases ih event' [] ((t.recordFired outermost final.fired?).take event' engine) with
            ⟨n, result, last, bounded, ends⟩ | ⟨done, event'', data'', u, length, answered⟩
          · refine .inl ⟨n + 1, result.map (final :: ·), last, Nat.succ_le_succ bounded, ?_⟩
            cases ends with
            | exhausted before succeeds empty =>
              exact .exhausted (.cons first next before) succeeds empty
            | fails before failed => exact .fails (.cons first next before) failed
          · exact .inr ⟨final :: done, event'', data'', u, congrArg Nat.succ length,
              .cons first next answered⟩

/-- A run of cycles that may be as many as they are has their result. -/
lemma Ends.drain (ends : Ends react rules outermost event data s n result last)
    (enough : n ≤ left) : drain react rules outermost left event data s = (result, last) := by
  cases ends with
  | @exhausted done _ _ _ t final before succeeds empty =>
    obtain ⟨more, rfl⟩ : ∃ more, left = done.length + (more + 1) :=
      ⟨left - (done.length + 1), by omega⟩
    rw [drain_of_answered before, Session.drain, succeeds]
    simp only [empty]
    rfl
  | @fails done _ _ _ t e before failed =>
    obtain ⟨more, rfl⟩ : ∃ more, left = done.length + (more + 1) :=
      ⟨left - (done.length + 1), by omega⟩
    rw [drain_of_answered before, Session.drain, failed]
    rfl

/-- Cycles of which one fails come to an end with it, or before it when none is left. -/
lemma drain_error {left : Nat} {e : EngineError}
    (failed : drain react rules outermost left event data s = (.error e, t)) :
    ∃ outcome event' data' u, Answered react rules outermost event data s outcome event' data' u ∧
      (cycle react rules event' data' u = (.error e, t) ∨
        e = .unboundedCycle u.engine.maxCycles event' ∧ t = u) := by
  obtain ⟨n, result, last, within, ends⟩ | ⟨outcome, event', data', u, rfl, answered⟩ :=
    ends_or_answered react rules outermost left event data s
  · rw [ends.drain within] at failed
    cases failed
    cases ends with
    | fails before fails => exact ⟨_, _, _, _, before, .inl fails⟩
  · have cut := drain_of_answered answered 0
    rw [Nat.add_zero, failed] at cut
    cases cut
    exact ⟨outcome, event', data', t, answered, .inr ⟨rfl, rfl⟩⟩

end Session

end Reflex
