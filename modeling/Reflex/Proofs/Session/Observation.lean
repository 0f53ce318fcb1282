import Reflex.Proofs.Session.Abreast
import Reflex.Proofs.Session.Atomicity
import Reflex.Proofs.Session.Slot

/-!
# What failing writes and larger limits change

Nothing, apart from what shows them.  Whether a write succeeds is seen in the slot and nowhere else,
and limits that are not reached might as well be larger.

* `Session.SameStep` says what is the same in two steps.
* `Session.outcomes_unobservable` is about runs in which different writes succeed.
* `Session.limits_are_guards` is about runs under different limits.
-/

namespace Reflex

/-- The request that shows what the sessions differ in. -/
def Difference.look : Difference → Request
  | .outcomes => .slot
  | .limits => .limits

namespace Session

variable {d : Difference} {react : Reaction} {s t : Session} {request : Request}
  {requests requests' : List Request} {options options' : SessionOptions} {library : Library}
  {rules : RuleSet} {text? : Option String}

/-- What is seen of two steps is the same, apart from answers that show the difference, be they
given to a listener or not. -/
structure SameStep (d : Difference) (step step' : Answer × Session) : Prop where
  answer : step.1.Akin d step'.1
  document : step.2.store.document = step'.2.store.document
  changes : step.2.store.lastChanges = step'.2.store.lastChanges
  registrations : step.2.store.registrations = step'.2.store.registrations
  pending : step.2.engine.pending = step'.2.engine.pending
  last : step.2.engine.last = step'.2.engine.last
  log : List.Forall₂ (Entry.Akin d) step.2.log step'.2.log
  journal : List.Forall₂ (Entry.Akin d) step.2.journal step'.2.journal

lemma shows_ofUpdate (result : Except StoreError NameSet) : ¬ (Answer.ofUpdate result).Shows d := by
  cases d <;> cases result <;> exact id

lemma shows_ofDispatch (result : Except EngineError Outcome) :
    ¬ (Answer.ofDispatch result).Shows d := by
  cases d <;> cases result <;> exact id

lemma shows_replaceRules (rules : RuleSet) : ¬ (s.replaceRules rules).1.Shows d := by
  rw [replaceRules]
  split <;> cases d <;> exact id

/-- Only one request shows what the sessions differ in. -/
lemma eq_look_of_shows (seen : (s.perform react request).1.Shows d) : request = d.look := by
  cases request with
  | update v =>
    rw [perform] at seen
    split at seen
    · exact absurd seen (shows_ofUpdate _)
    · cases d <;> cases seen
  | apply patch => exact absurd seen (shows_ofUpdate _)
  | define name default => exact absurd seen (shows_ofUpdate _)
  | assign text data commit => cases commit <;> cases d <;> cases seen
  | dispatch event data => exact absurd seen (shows_ofDispatch _)
  | init => exact absurd seen (shows_ofDispatch _)
  | replaceRules rules => exact absurd seen (shows_replaceRules rules)
  | replaceDocument document =>
    rw [perform] at seen
    split at seen
    · exact absurd seen (shows_replaceRules _)
    · cases d <;> cases seen
  | _ => cases d <;> cases seen <;> rfl

/-- Whether an entry is of the log does not depend on what the sessions differ in. -/
lemma isLogged_of_akin {entry entry' : Entry} (like : entry.Akin d entry') :
    entry.isLogged = entry'.isLogged := by
  cases like <;> rfl

lemma Akin.log (h : s.Akin d t) : List.Forall₂ (Entry.Akin d) s.log t.log :=
  List.rel_filter (fun _ _ like => Bool.eq_iff_iff.1 (isLogged_of_akin like)) h.journal

lemma Akin.sameStep (h : s.Akin d t) {answer answer' : Answer} (like : answer.Akin d answer') :
    SameStep d (answer, s) (answer', t) where
  answer := like
  document := h.store.document
  changes := h.store.lastChanges
  registrations := h.store.registrations
  pending := h.engine.pending
  last := h.engine.last
  log := h.log
  journal := h.journal

/-- The same holds of runs, the listeners of which have as many runs left. -/
lemma akin_run (like : Request.AllAkin d requests requests') (h : s.Akin d t)
    (free : d = .limits → ∀ step ∈ s.run requests, step.1.isCeiling = false ∧
      ∀ entry ∈ step.2.journal, entry.isCeiling = false) :
    List.Forall₂ (fun a b => a.1.Akin d b.1 ∧ a.2.Akin d b.2) (s.run requests)
      (t.run requests') := by
  rw [run, run, ← like.totalRuns]
  exact akin_runWith (orderly_react _) (follows_react d _) like h free

/-! ## Writes -/

lemma akin_withOutages (s : Session) (outages outages' : Nat → Bool) :
    (s.withOutages outages).Akin .outcomes (s.withOutages outages') where
  store := ⟨rfl, rfl, rfl, rfl, rfl, rfl, trivial⟩
  engine := ⟨rfl, rfl, rfl, rfl, rfl, rfl, rfl, rfl⟩
  listeners := List.forall₂_same.2 fun _ _ => ⟨rfl, rfl, rfl, .same .outcomes _, rfl⟩
  journal := List.forall₂_same.2 fun _ _ => .same _

/-- **Whether writes succeed is seen in the slot only.**  Requests are made of a session in two
runs.  Any writes may fail of themselves in either run, and where one run switches writes off the
other may switch them on, be it in the script of a listener.  Then each request has the same answer
in both runs, unless it looks at the slot; the documents, the changes, the registrations, the events
that wait and the latest dispatch are the same after each; and so is all that was written into the
journals, the log of the listeners among it. -/
theorem outcomes_unobservable (s : Session) (outages outages' : Nat → Bool)
    (like : Request.AllAkin .outcomes requests requests') :
    List.Forall₂ (SameStep .outcomes) ((s.withOutages outages).run requests)
        ((s.withOutages outages').run requests') ∧
      ∀ react t request, (perform react t request).1.Shows .outcomes → request = .slot := by
  refine ⟨?_, fun react t request => eq_look_of_shows⟩
  have runs := akin_run like (akin_withOutages s outages outages') fun limits => nomatch limits
  exact runs.imp fun _ _ steps => steps.2.sameStep steps.1

/-- The requests of a session that registers a saver, where the saver may switch writes off or on,
as may be done afterwards. -/
def switchingRequests (off on : Bool) : List Request :=
  [.observe "saver" ["a"] .callback [.apply [("b", .set .null)], .failWrites off, .slot] 1,
    .apply [("a", .set (.bool true))], .failWrites on, .apply [("a", .set .null)], .slot]

/-- In one run every write but one succeeds, in the other none does, and only the slots tell. -/
theorem switching_unobserved :
    let runs := (freshSession.withOutages (· == 1)).run (switchingRequests false false)
    let fails := (freshSession.withOutages fun _ => true).run (switchingRequests true true)
    List.Forall₂ (SameStep .outcomes) runs fails ∧
      runs.map (·.2.store.slot.writes) = [0, 1, 1, 2, 2] ∧
      fails.map (·.2.store.slot.writes) = [0, 0, 0, 0, 0] := by
  intro runs fails
  have like : Request.AllAkin .outcomes (switchingRequests false false)
      (switchingRequests true true) :=
    .cons (.observe _ _ _ _ (.cons (.same _) (.cons (.failWrites rfl _ _) (.same _ _))))
      (.cons (.same _) (.cons (.failWrites rfl _ _) (.same _ _)))
  obtain ⟨same, -⟩ := outcomes_unobservable freshSession (· == 1) (fun _ => true) like
  exact ⟨same, rfl, rfl⟩

/-! ## Limits -/

lemma akin_opened (key : options'.key = options.key)
    (cycles : options.maxCycles ≤ options'.maxCycles)
    (nesting : options.maxNesting ≤ options'.maxNesting)
    (updates : options.maxUpdateDepth ≤ options'.maxUpdateDepth) (library : Library)
    (program : Program) (text? : Option String) (document : Fields) (outages : Nat → Bool) :
    ((opened options library program text? document).withOutages outages).Akin .limits
      ((opened options' library program text? document).withOutages outages) where
  store := ⟨rfl, rfl, rfl, rfl, updates, key.symm, rfl⟩
  engine := ⟨rfl, rfl, rfl, cycles, nesting, rfl, rfl, rfl⟩
  listeners := .nil
  journal := .nil

/-- **Limits are guards and nothing else.**  Two sessions are started alike, but for the limits on
cycles, on dispatches and on updates, each of which is at least as large in the second.  Requests
are made of the first, where no request of them, nor any that a listener makes, is refused because
of a limit.  Then the second session goes through the same: every request has the same answer,
unless it looks at the limits; the documents, the changes, the slots, the events that wait and the
latest dispatch are the same after each; and so is all that was written into the journals, the log
of the listeners among it. -/
theorem limits_are_guards (started : start options library rules text? = .ok s)
    (key : options'.key = options.key) (cycles : options.maxCycles ≤ options'.maxCycles)
    (nesting : options.maxNesting ≤ options'.maxNesting)
    (updates : options.maxUpdateDepth ≤ options'.maxUpdateDepth) (outages : Nat → Bool)
    (requests : List Request)
    (free : ∀ step ∈ (s.withOutages outages).run requests, step.1.isCeiling = false ∧
      ∀ entry ∈ step.2.journal, entry.isCeiling = false) :
    ∃ t, start options' library rules text? = .ok t ∧
      List.Forall₂ (fun step step' => SameStep .limits step step' ∧
          step.2.store.slot = step'.2.store.slot)
        ((s.withOutages outages).run requests) ((t.withOutages outages).run requests) ∧
      ∀ react u request, (perform react u request).1.Shows .limits → request = .limits := by
  obtain ⟨document, program, stored, compiled, rfl⟩ := start_eq_ok_iff.1 started
  have started' : start options' library rules text? =
      .ok (opened options' library program text? document) :=
    start_eq_ok_iff.2 ⟨document, program, key ▸ stored, compiled, rfl⟩
  have akin := akin_opened key cycles nesting updates library program text? document outages
  have runs := akin_run (.same .limits requests) akin fun _ => free
  refine ⟨_, started', runs.imp fun _ _ steps => ?_, fun react u request => eq_look_of_shows⟩
  exact ⟨steps.2.sameStep steps.1, steps.2.store.slot⟩

/-- Requests of which the second makes a listener update and dispatch in the middle of an update. -/
def nestingRequests : List Request :=
  [.observe "view" ["a"] .callback [.apply [("b", .set .null)], .dispatch ⟨"b", "click"⟩ []] 1,
    .apply [("a", .set (.bool true))], .limits]

/-- Where two updates, one dispatch and one cycle are enough, the usual limits change nothing but
the answer that shows them. -/
theorem nesting_within_limits :
    let tight : SessionOptions := ⟨1, 1, 2, "4.state"⟩
    ∃ s t, start tight .standard [] none = .ok s ∧ start .default .standard [] none = .ok t ∧
      List.Forall₂ (fun step step' => SameStep .limits step step' ∧
          step.2.store.slot = step'.2.store.slot)
        ((s.withOutages fun _ => false).run nestingRequests)
        ((t.withOutages fun _ => false).run nestingRequests) := by
  intro tight
  let s := opened tight .standard ⟨[], [], rfl⟩ none []
  have started : start tight .standard [] none = .ok s := rfl
  have observed : ((s.withOutages fun _ => false).run nestingRequests).all (fun step =>
      !step.1.isCeiling && step.2.journal.all fun entry => !entry.isCeiling) = true := by
    decide +kernel
  have free : ∀ step ∈ (s.withOutages fun _ => false).run nestingRequests,
      step.1.isCeiling = false ∧ ∀ entry ∈ step.2.journal, entry.isCeiling = false := by
    simpa using observed
  have key : SessionOptions.default.key = tight.key := rfl
  have cycles : tight.maxCycles ≤ SessionOptions.default.maxCycles := by decide
  have nesting : tight.maxNesting ≤ SessionOptions.default.maxNesting := by decide
  have updates : tight.maxUpdateDepth ≤ SessionOptions.default.maxUpdateDepth := by decide
  obtain ⟨t, started', same, -⟩ :=
    limits_are_guards started key cycles nesting updates (fun _ => false) nestingRequests free
  exact ⟨s, t, started, started', same⟩

end Session

end Reflex
