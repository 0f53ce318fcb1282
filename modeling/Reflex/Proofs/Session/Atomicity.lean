import Reflex.Proofs.Session.Cycles
import Reflex.Proofs.Session.Requests

/-!
# Failures leave nothing half done

An update or a dispatch that is refused changes nothing at all.  A dispatch that fails in one of its
cycles changes nothing in that cycle: what the cycles before it did remains, and what was still
queued for it is dropped along with its frame.  `Session.failures_are_atomic` is the result.
-/

namespace Reflex

/-- Whether an entry says what a listener was told or did. -/
def Entry.isLogged : Entry → Bool
  | .notified _ _ | .rendered _ | .answered _ _ | .returned _ => true
  | _ => false

/-- Whether a dispatch fails so in one of its cycles. -/
def EngineError.isOfCycle : EngineError → Bool
  | .update _ _ _ | .store _ => true
  | _ => false

/-- The rules of a program say at which position they stand. -/
lemma Program.getElem?_index (program : Program) {rule : CompiledRule}
    (mem : rule ∈ program.rules) : program.rules[rule.index]? = some rule := by
  rw [program.rules_eq] at mem ⊢
  obtain ⟨⟨source, index⟩, listed, rfl⟩ := List.mem_map.1 mem
  have place := List.mem_zipIdx_iff_getElem?.1 listed
  simp [Rule.compile, place]

/-- The reason for which the store refuses a request. -/
def Answer.refusal? : Answer → Option StoreError
  | .storeRefused e => some e
  | .assigned _ _ (some (.error e)) => some e
  | _ => none

namespace Session

variable {react : Reaction} {rules : List CompiledRule} {rule : CompiledRule} {event event' : Event}
  {data data' : Fields} {s t u : Session} {outermost : Bool} {patch : Patch}

/-- What listeners were told and did. -/
def log (s : Session) : List Entry :=
  s.journal.filter Entry.isLogged

/-- Why a cycle fails: an update of the rule that it selected fails, being the first of them that
does, or the patch of that rule is refused. -/
inductive FailsBy (rules : List CompiledRule) (event : Event) (data : Fields) (s : Session) :
    EngineError → Prop
  | update {rule : CompiledRule} {before after : List (String × Formula)} {name : String}
      {formula : Formula} {cause : EvalError}
      (selected : (CompiledRule.select (s.scope data) event.origin rules).1 = some rule)
      (updates : rule.updates = before ++ (name, formula) :: after)
      (succeed : ∀ update ∈ before, ∃ v, (update.2.eval (s.scope data)).collected.1 = .ok v)
      (failed : (formula.eval (s.scope data)).collected.1 = .error cause) :
      FailsBy rules event data s (.update rule.index name cause)
  | refusal {rule : CompiledRule} {patch : Patch}
      (selected : (CompiledRule.select (s.scope data) event.origin rules).1 = some rule)
      (computed : (rule.patch (s.scope data)).1 = .ok patch)
      (full : s.store.maxDepth ≤ s.store.depth) :
      FailsBy rules event data s (.store (.reentrancyLimit s.store.maxDepth))

/-! ## Refusals -/

lemma update_of_error {e : StoreError} (refused : (s.update react patch).1 = .error e) :
    e = .reentrancyLimit s.store.maxDepth ∧ (s.update react patch).2 = s := by
  rcases Nat.lt_or_ge s.store.depth s.store.maxDepth with admitted | full
  · rw [update_of_admitted admitted] at refused
    cases refused
  · rw [update_of_full full] at refused ⊢
    cases refused
    exact ⟨rfl, rfl⟩

lemma answerUpdate_of_refusal {e : StoreError}
    (refused : (s.answerUpdate react patch).1.refusal? = some e) :
    (s.answerUpdate react patch).2 = s := by
  rw [answerUpdate] at refused ⊢
  cases updated : (s.update react patch).1 with
  | ok changes => simp [updated, Answer.ofUpdate, Answer.refusal?] at refused
  | error e => exact (update_of_error updated).2

lemma refusal?_ofDispatch (outcome : Except EngineError Outcome) :
    (Answer.ofDispatch outcome).refusal? = none := by
  cases outcome <;> rfl

lemma refusal?_replaceRules (rules : RuleSet) (s : Session) :
    (s.replaceRules rules).1.refusal? = none := by
  rw [replaceRules]
  split <;> rfl

/-- A request that the store refuses changes nothing. -/
lemma perform_of_refusal {request : Request} {e : StoreError}
    (refused : (s.perform react request).1.refusal? = some e) :
    (s.perform react request).2 = s := by
  cases request with
  | update v =>
    rw [perform] at refused ⊢
    split at refused
    · exact answerUpdate_of_refusal refused
    · rfl
  | apply patch => exact answerUpdate_of_refusal refused
  | define name default => exact answerUpdate_of_refusal refused
  | assign text data commit =>
    cases commit with
    | false => rfl
    | true =>
      simp only [perform, assign, if_true] at refused ⊢
      cases updated : (s.update react (s.store.patchOf text data)).1 with
      | ok changes => simp [updated, Answer.refusal?] at refused
      | error e => exact (update_of_error updated).2
  | dispatch event data => simp [perform, answerDispatch, refusal?_ofDispatch] at refused
  | init => simp [perform, answerDispatch, refusal?_ofDispatch] at refused
  | replaceRules rules => simp [perform, refusal?_replaceRules] at refused
  | replaceDocument document =>
    rw [perform] at refused
    split at refused
    · rw [refusal?_replaceRules] at refused
      cases refused
    · cases refused
  | _ => cases refused

/-! ## A cycle that fails -/

lemma failsBy_of_cycle {e : EngineError} (failed : cycle react rules event data s = (.error e, t)) :
    FailsBy rules event data s e ∧ ∃ rule, t = s.firing rules event data rule := by
  cases concludes_of_cycle_eq failed with
  | @fails rule name cause selected failure =>
    obtain ⟨before, formula, after, updates, succeed, stuck⟩ :=
      CompiledRule.newValues_error_iff.1 (map_eq_error_iff.1 failure)
    exact ⟨.update selected updates succeed stuck, rule, rfl⟩
  | @refused rule patch selected computed full => exact ⟨.refusal selected computed full, rule, rfl⟩

lemma log_queueAll (events : List Event) (s : Session) : (s.queueAll events).log = s.log := by
  rw [log, (runs_queueAll events s).journal, List.filter_append]
  simp [log, Entry.isLogged]

lemma listeners_queueAll (events : List Event) (s : Session) :
    (s.queueAll events).listeners = s.listeners := by
  induction events generalizing s with
  | nil => rfl
  | cons event events ih => exact ih (s.queue event)

lemma log_firing : (s.firing rules event data rule).log = s.log := by
  rw [firing, log_queueAll, log, journal_record, List.filter_cons_of_neg (by simp [Entry.isLogged])]
  exact log_queueAll _ s

lemma listeners_firing : (s.firing rules event data rule).listeners = s.listeners := by
  rw [firing, listeners_queueAll]
  exact listeners_queueAll _ s

lemma foldl_queue {engine : Engine} {frame : List Event} {frames : List (List Event)}
    (busy : engine.frames = frame :: frames) (events : List Event) :
    events.foldl (fun engine event => engine.queue event) engine =
      { engine with frames := (events.reverse ++ frame) :: frames } := by
  induction events generalizing engine frame with
  | nil => simp [← busy]
  | cons event events ih =>
    have queued : engine.queue event = { engine with frames := (event :: frame) :: frames } := by
      rw [Engine.queue, busy]
    rw [List.foldl_cons, queued, ih rfl]
    simp

/-- Events that a cycle queues are dropped with the frame of its dispatch. -/
lemma engine_leave_firing {frame : List Event} {frames : List (List Event)}
    (busy : s.engine.frames = frame :: frames) :
    (s.firing rules event data rule).leave.engine = { s.engine with frames } := by
  rw [leave, engine_record, firing, engine_queueAll, engine_record, considering, engine_queueAll,
    foldl_queue busy, foldl_queue rfl]
  rfl

/-- Cycles that succeed one after the other are a run of the session. -/
lemma Answered.runs (orderly : Orderly react) {outcome : Outcome}
    (h : Answered react rules outermost event data s outcome event' data' u) :
    ∃ es, Runs true s es u := by
  induction h with
  | nil event data s => exact ⟨[], .done true s⟩
  | @cons event event' _ data _ s t _ done _ engine first next _ ih =>
    obtain ⟨es, run⟩ := runs_cycle orderly rules event data s
    rw [first] at run
    obtain ⟨fs, rest⟩ := ih
    exact ⟨_, (run.toTaking.andThen (.quiet true (.recordFired t outermost done.fired?))).andThen
      (.andThen (.take next) rest)⟩

/-! ## Dispatches that fail -/

lemma ne_nestingTooDeep_of_drain {left limit : Nat} {e : EngineError}
    (failed : drain react rules outermost left event data s = (.error e, t)) :
    e ≠ .nestingTooDeep limit := by
  obtain ⟨_, _, _, _, -, failed | ⟨rfl, -⟩⟩ := drain_error failed
  · obtain ⟨by_, -⟩ := failsBy_of_cycle failed
    rintro rfl
    cases by_
  · exact EngineError.noConfusion

lemma dispatch_of_nestingTooDeep {limit : Nat}
    (refused : (s.dispatch react event data).1 = .error (.nestingTooDeep limit)) :
    (s.dispatch react event data).2 = s := by
  rw [dispatch] at refused ⊢
  split
  · rfl
  · rename_i admitted
    rw [if_neg admitted] at refused
    exact absurd rfl (ne_nestingTooDeep_of_drain (Prod.ext refused rfl))

/-- A dispatch that fails in a cycle changes nothing in that cycle. -/
lemma dispatch_of_failsInCycle (orderly : Orderly react) {e : EngineError}
    (failed : s.dispatch react event data = (.error e, t)) (inCycle : e.isOfCycle) :
    ∃ outcome event' data' u own,
      Answered react s.engine.program.rules s.engine.isIdle event data (s.enter event data) outcome
        event' data' u ∧
      FailsBy s.engine.program.rules event' data' u e ∧
      t.store = u.store ∧ t.listeners = u.listeners ∧ t.log = u.log ∧
      u.engine.frames = own :: s.engine.frames ∧
      t.engine = { u.engine with frames := s.engine.frames } := by
  rw [dispatch] at failed
  split at failed
  · cases failed
    cases inCycle
  · cases drained : drain react s.engine.program.rules s.engine.isIdle s.engine.maxCycles event data
        (s.enter event data) with
    | mk result v =>
      rw [drained] at failed
      obtain ⟨rfl, rfl⟩ := Prod.mk.inj failed
      obtain ⟨outcome, event', data', u, answered, cycled | ⟨rfl, -⟩⟩ := drain_error drained
      · obtain ⟨reason, rule, rfl⟩ := failsBy_of_cycle cycled
        obtain ⟨es, run⟩ := answered.runs orderly
        obtain ⟨own, -, busy, -⟩ := run.waiting.busy _ _ Runs.frames_enter
        refine ⟨outcome, event', data', u, own, answered, reason, store_firing, listeners_firing, ?_,
          busy, engine_leave_firing busy⟩
        rw [log, leave, journal_record, List.filter_cons_of_neg (by simp [Entry.isLogged])]
        exact log_firing
      · cases inCycle

/-- **Failures are atomic.**  An update that is refused changes nothing, and neither does any
request that the store refuses, be it for the depth of updates or for a value that is no object, or
a dispatch that is refused for the depth of dispatches; the journal, too, is as it was, so that
nobody was told anything.  When a dispatch fails because an update of a rule fails or is refused,
the cycles before that one did all that they did, and the failing cycle did nothing: the store, the
listeners and the log are those of the moment `u` at which it began, and so is the engine, but for
the frame of the dispatch, which is dropped.  The failure names the rule that the cycle selected, by
its position, and the target of the first update of that rule that fails (`FailsBy`). -/
theorem failures_are_atomic (orderly : Orderly react) :
    (∀ (s : Session) (patch : Patch) (e : StoreError), (s.update react patch).1 = .error e →
      e = .reentrancyLimit s.store.maxDepth ∧ (s.update react patch).2 = s) ∧
    (∀ (s : Session) (request : Request) (e : StoreError),
      (s.perform react request).1.refusal? = some e → (s.perform react request).2 = s) ∧
    (∀ (s : Session) (event : Event) (data : Fields) (limit : Nat),
      (s.dispatch react event data).1 = .error (.nestingTooDeep limit) →
      (s.dispatch react event data).2 = s) ∧
    (∀ (s t : Session) (event : Event) (data : Fields) (e : EngineError),
      s.dispatch react event data = (.error e, t) → e.isOfCycle →
      ∃ outcome event' data' u own,
        Answered react s.engine.program.rules s.engine.isIdle event data (s.enter event data)
          outcome event' data' u ∧
        FailsBy s.engine.program.rules event' data' u e ∧
        t.store = u.store ∧ t.listeners = u.listeners ∧ t.log = u.log ∧
        u.engine.frames = own :: s.engine.frames ∧
        t.engine = { u.engine with frames := s.engine.frames }) ∧
    ∀ (s : Session), ∀ rule ∈ s.engine.program.rules,
      s.engine.program.rules[rule.index]? = some rule :=
  ⟨fun _ _ _ => update_of_error, fun _ _ _ => perform_of_refusal,
    fun _ _ _ _ => dispatch_of_nestingTooDeep, fun _ _ _ _ _ => dispatch_of_failsInCycle orderly,
    fun s _ mem => s.engine.program.getElem?_index mem⟩

/-- Rules of which the first sets `$a` and calls for the second, which cannot set `$b`. -/
def fuseRules : RuleSet :=
  [.ofParts "start" [] [("$a", "queue('boom', 'tick')")], .ofParts "boom" [] [("$b", "nope")]]

/-- These rules, compiled. -/
def fuse : Program :=
  .ofParsed fuseRules (by decide +kernel)

/-- A session under these rules, with limits on updates and dispatches. -/
def fuseSession (maxUpdateDepth maxNesting : Nat) : Session :=
  .ofParts ⟨[], [], [], 0, maxUpdateDepth, "4.state", .holding none⟩
    (.ofProgram fuse .standard 1000 maxNesting)

/-- What the first cycle set stays set when the second fails; and where nothing is allowed nothing
happens. -/
theorem fuse_keeps_first_cycle :
    let closed := fuseSession 0 0
    let blown := (fuseSession 64 32).dispatch (Session.react 1) ⟨"start", "press"⟩ []
    (closed.update (Session.react 1) []).2 = closed ∧
    (closed.perform (Session.react 1) (.update .null)).2 = closed ∧
    (closed.dispatch (Session.react 1) ⟨"start", "press"⟩ []).2 = closed ∧
    blown.1 = .error (.update 1 "$b" (.unknownIdentifier "nope")) ∧
    (∃ outcome event' data' u,
      Answered (Session.react 1) fuse.rules true ⟨"start", "press"⟩ []
        ((fuseSession 64 32).enter ⟨"start", "press"⟩ []) outcome event' data' u ∧
      FailsBy fuse.rules event' data' u (.update 1 "$b" (.unknownIdentifier "nope")) ∧
      blown.2.store = u.store) ∧
    blown.2.store.document.get? "$a" = some (.bool true) ∧ blown.2.engine.pending = 0 := by
  intro closed blown
  obtain ⟨update, request, dispatched, failed, -⟩ := failures_are_atomic (orderly_react 1)
  have answer : blown.1 = .error (.update 1 "$b" (.unknownIdentifier "nope")) := by decide +kernel
  obtain ⟨outcome, event', data', u, -, answered, reason, store, -⟩ :=
    failed (fuseSession 64 32) blown.2 _ _ _ (Prod.ext answer rfl) rfl
  exact ⟨(update closed [] _ rfl).2, request closed (.update .null) (.patchType "null") rfl,
    dispatched closed _ _ 0 rfl, answer, ⟨outcome, event', data', u, answered, reason, store⟩,
    by decide +kernel, by decide +kernel⟩

end Session

end Reflex
