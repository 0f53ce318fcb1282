import Reflex.Proofs.Session.Changes
import Reflex.Proofs.Session.Restart
import Reflex.Scenario.Judgment

/-!
# The steps of a scenario

A scenario dispatches its events one after the other in a session of its own, in which nobody is
registered.  `Session.Staged` is what every step preserves of such a session, and
`Session.exists_step` says what the record of a step is the record of.  So whatever is known of a
dispatch without listeners is known of every step of every scenario: `Case.no_silent_change` says
so of the changes that a step reports.

* `Case.wellFormed_of_ofDatum?` says that the event data of a scenario that was read from a file are
  well-formed.
-/

namespace Reflex

deriving instance DecidableEq for StepResult

/-! ## Event data -/

lemma Datum.wellFormed_of_object? {d : Datum} {fields : Fields} (read : d.object? = some fields) :
    fields.WellFormed := by
  cases d with
  | table entries =>
    obtain ⟨pairs, values, rfl⟩ := Option.map_eq_some_iff.1 read
    exact Fields.wellFormed_ofList (Datum.wellFormed_of_toFields? entries values)
  | _ => cases read

lemma Datum.exists_of_mem_list? {α : Type} {item? : Datum → Option α} {d : Datum} {items : List α}
    (read : d.list? item? = some items) {item : α} (mem : item ∈ items) :
    ∃ d, item? d = some item := by
  cases d with
  | array data =>
    rw [Datum.list?] at read
    induction data generalizing items with
    | nil =>
      cases read
      cases mem
    | cons d data ih =>
      rw [List.mapM_cons] at read
      obtain ⟨first, here, read⟩ := Option.bind_eq_some_iff.1 read
      obtain ⟨others, there, made⟩ := Option.bind_eq_some_iff.1 read
      cases made
      rcases List.mem_cons.1 mem with rfl | mem
      · exact ⟨d, here⟩
      · exact ih mem there
  | _ => cases read

/-- The data of a step that was read are well-formed. -/
lemma Step.wellFormed_of_ofDatum? {d : Datum} {step : Step} (read : ofDatum? d = some step) :
    step.data.WellFormed := by
  obtain ⟨fields, -, read⟩ := Option.bind_eq_some_iff.1 read
  split at read
  · rename_i origin event data
    have finish : ∀ fields : Fields, fields.WellFormed →
        (do return (⟨← origin.string?, ← event.string?, fields⟩ : Step)) = some step →
        step.data.WellFormed := by
      intro fields wellFormed read
      obtain ⟨origin, -, read⟩ := Option.bind_eq_some_iff.1 read
      obtain ⟨event, -, made⟩ := Option.bind_eq_some_iff.1 read
      cases made
      exact wellFormed
    cases data with
    | none => exact finish [] ⟨List.nodup_nil, trivial⟩ read
    | some d =>
      obtain ⟨fields, given, read⟩ := Option.bind_eq_some_iff.1 read
      exact finish fields (Datum.wellFormed_of_object? given) read
  · cases read

/-- An item of a list that may be left out was read from a datum. -/
lemma exists_of_mem_listOrNil {α : Type} {item? : Datum → Option α} {d? : Option Datum}
    {items : List α} (read : listOrNil item? d? = some items) {item : α} (mem : item ∈ items) :
    ∃ d, item? d = some item := by
  cases d? with
  | none =>
    cases read
    cases mem
  | some d => exact Datum.exists_of_mem_list? read mem

namespace Case

variable {d : Datum} {c : Case}

/-- The steps and the checks of a scenario are read from lists that may be left out. -/
lemma exists_lists_of_ofDatum? (read : ofDatum? d = some c) : ∃ steps? checks?,
    listOrNil Step.ofDatum? steps? = some c.steps ∧
      listOrNil Check.ofDatum? checks? = some c.checks := by
  obtain ⟨fields, -, read⟩ := Option.bind_eq_some_iff.1 read
  split at read
  · rename_i about config state rules steps checks
    obtain ⟨about, -, read⟩ := Option.bind_eq_some_iff.1 read
    obtain ⟨limits, -, read⟩ := Option.bind_eq_some_iff.1 read
    have finish : ∀ state : Fields,
        (do
          let rules ← listOrNil ruleOfDatum? rules
          let steps ← listOrNil Step.ofDatum? steps
          let checks ← listOrNil Check.ofDatum? checks
          return (⟨about.1, about.2, limits, state, rules, steps, checks⟩ : Case)) = some c →
        listOrNil Step.ofDatum? steps = some c.steps ∧
          listOrNil Check.ofDatum? checks = some c.checks := by
      intro state read
      obtain ⟨rules, -, read⟩ := Option.bind_eq_some_iff.1 read
      obtain ⟨steps, stepsRead, read⟩ := Option.bind_eq_some_iff.1 read
      obtain ⟨checks, checksRead, made⟩ := Option.bind_eq_some_iff.1 read
      cases made
      exact ⟨stepsRead, checksRead⟩
    cases state with
    | none => exact ⟨steps, checks, finish [] read⟩
    | some d =>
      obtain ⟨state, -, read⟩ := Option.bind_eq_some_iff.1 read
      exact ⟨steps, checks, finish state read⟩
  · cases read

/-- The event data of a scenario that was read are well-formed. -/
theorem wellFormed_of_ofDatum? (read : ofDatum? d = some c) :
    ∀ step ∈ c.steps, step.data.WellFormed := by
  obtain ⟨steps?, checks?, listed, -⟩ := exists_lists_of_ofDatum? read
  intro step mem
  obtain ⟨d', read⟩ := exists_of_mem_listOrNil listed mem
  exact Step.wellFormed_of_ofDatum? read

end Case

/-! ## Sessions of scenarios -/

namespace Session

variable {options : SessionOptions} {library : Library} {program : Program} {rules : RuleSet}
  {text? : Option String} {s : Session} {steps : List Step} {record : StepRecord}

/-- A session begins with a well-formed document. -/
lemma wellFormed_of_storedDocument {key : String} {document : Fields}
    (stored : Store.storedDocument key text? = .ok document) : document.WellFormed := by
  cases text? with
  | none =>
    cases stored
    exact ⟨List.nodup_nil, trivial⟩
  | some text =>
    rw [Store.storedDocument, Store.readDocument] at stored
    split at stored
    · rename_i fields read
      cases stored
      obtain ⟨d, -, read⟩ := bind_eq_ok_iff.1 read
      split at read
      · rename_i v stands
        cases read
        exact Datum.wellFormed_of_toValue? d stands
      · cases read
    · cases stored
    · cases stored

/-- A session between two steps of a scenario. -/
structure Staged (options : SessionOptions) (library : Library) (program : Program)
    (s : Session) : Prop where
  keeping : Keeping options library program s
  rests : Rests s
  wellFormed : s.store.document.WellFormed

namespace Staged

variable {event : Event} {data : Fields}

/-- A dispatch without listeners accounts for what it has made of the document, and the session is
staged for the next one. -/
lemma dispatchAlone (h : Staged options library program s) (event : Event)
    (given : data.WellFormed) :
    Staged options library program (s.dispatchAlone event data).2 ∧
      ∀ outcome, (s.dispatchAlone event data).1 = .ok outcome →
        outcome.AccountsFor program.source s.store.document
          (s.dispatchAlone event data).2.store.document := by
  have tracked := tracked_dispatch (fun _ => .refl) event data s
  rw [h.keeping.settings.1] at tracked
  obtain ⟨wellFormed, accounts⟩ :=
    tracked.accounts (tracked.alone h.keeping.alone).1 h.wellFormed given
  have same : Alternatives options library program s s :=
    ⟨rfl, h.keeping, h.keeping, h.rests, h.rests⟩
  exact ⟨⟨(same.dispatchAlone event data).2.left, h.rests.dispatchAlone, wellFormed⟩, accounts⟩

/-- Steps leave a session staged for the next one. -/
lemma runSteps (h : Staged options library program s)
    (given : ∀ step ∈ steps, step.data.WellFormed) :
    Staged options library program (s.runSteps steps).2 := by
  induction steps generalizing s with
  | nil => exact h
  | cons step steps ih =>
    obtain ⟨here, there⟩ := List.forall_mem_cons.1 given
    exact ih (h.dispatchAlone _ here).1 there

end Staged

/-- The record of a step is that of a dispatch in the session that the steps before it leave
behind. -/
lemma exists_step {k : Nat} {outcome : Outcome}
    (completed : (s.runSteps steps).1[k]?.map StepRecord.result = some (.completed outcome)) :
    ∃ step ∈ steps,
      (s.runSteps (steps.take k)).2.dispatchAlone ⟨step.origin, step.event⟩ step.data =
        (.ok outcome, (s.runSteps (steps.take (k + 1))).2) := by
  induction steps generalizing s k with
  | nil => cases completed
  | cons step steps ih =>
    cases k with
    | zero =>
      refine ⟨step, List.mem_cons_self, ?_⟩
      cases dispatched : s.dispatchAlone ⟨step.origin, step.event⟩ step.data with
      | mk result t =>
        simp only [runSteps, dispatched] at completed
        cases result with
        | error e => cases completed
        | ok outcome' =>
          cases completed
          simp only [List.take_succ_cons, List.take_zero, runSteps, dispatched]
    | succ k =>
      obtain ⟨step', mem, dispatched⟩ :=
        ih (s := (s.dispatchAlone ⟨step.origin, step.event⟩ step.data).2) completed
      exact ⟨step', List.mem_cons_of_mem step mem, dispatched⟩

end Session

namespace Case

variable {c : Case} {first : Session}

/-- The document that the first steps of a scenario leave behind, so many of them. -/
def documentAfter (c : Case) (first : Session) (steps : Nat) : Fields :=
  (first.runSteps (c.steps.take steps)).2.store.document

/-- A scenario starts with its rules, in a session that is staged for the first step. -/
lemma exists_staged_of_start (started : c.start = .ok first) : ∃ program,
    Session.Staged c.config.sessionOptions .standard program first ∧ program.source = c.rules := by
  rw [start] at started
  split at started
  · cases started
  · obtain ⟨document, program, stored, compiled, rfl⟩ :=
      Session.start_eq_ok_iff.1 (mapError_eq_ok_iff.1 started)
    exact ⟨program, ⟨Session.keeping_opened stored, ⟨rfl, rfl⟩,
      Session.wellFormed_of_storedDocument stored⟩, Program.source_of_ofRules compiled⟩

lemma run_eq (started : c.start = .ok first) :
    c.run = .ok ⟨(first.runSteps c.steps).1, (first.runSteps c.steps).2.store.document⟩ := by
  rw [run, started]
  rfl

end Case

lemma CaseRun.completed?_eq_some_iff {run : CaseRun} {k : Nat} {outcome : Outcome} :
    run.completed? k = some outcome ↔
      run.steps[k]?.map StepRecord.result = some (.completed outcome) := by
  rw [completed?]
  cases run.steps[k]?.map StepRecord.result with
  | none => simp
  | some result => cases result <;> simp

/-- A check for no changes passes when the step was completed and counts none. -/
lemma CaseRun.passed_noChanges_iff {run : CaseRun} {k : Nat} :
    (run.judge (.noChanges k)).passed ↔
      ∃ outcome, run.completed? k = some outcome ∧ outcome.changedKeys = [] := by
  rw [judge, Verdict.passed]
  cases run.completed? k <;> simp

namespace Case

/-- **Nothing changes in silence.**  A scenario is started and run, and a step of it is completed.
Every key under which the documents before and after the step differ is among the changes that the
step reports, and every key that it reports is set by an update of a rule that it reports as fired.
If a check for no changes passes, the document after the step equals the one before it.  The
documents are those that the steps so far leave behind, and the last of them is the one that the run
ends with.

The same holds of every dispatch of a session that succeeds, whatever the rules, the document, the
event data and the waiting events are, and whatever listeners do, as long as none of them brings
about an update while the dispatch is under way.  Documents and event data are maps, so neither they
nor an object in them repeats a key. -/
theorem no_silent_change :
    (∀ (c : Case) (first : Session) (run : CaseRun), c.start = .ok first → c.run = .ok run →
      (∀ step ∈ c.steps, step.data.WellFormed) →
      (∀ k outcome, run.completed? k = some outcome →
        outcome.AccountsFor c.rules (c.documentAfter first k) (c.documentAfter first (k + 1))) ∧
      (∀ k, (run.judge (.noChanges k)).passed →
        (Value.object (c.documentAfter first k)).same (.object (c.documentAfter first (k + 1)))) ∧
      c.documentAfter first c.steps.length = run.state) ∧
    ∀ (react : Reaction) (s t : Session) (event : Event) (data : Fields) (outcome : Outcome),
      Session.Orderly react → s.store.document.WellFormed → data.WellFormed →
      s.dispatch react event data = (.ok outcome, t) → Entry.sparesStore 0 (s.since t) →
      outcome.AccountsFor s.engine.program.source s.store.document t.store.document ∧
        (outcome.changedKeys = [] →
          (Value.object s.store.document).same (.object t.store.document)) := by
  constructor
  · intro c first run started ran given
    obtain ⟨program, staged, source⟩ := exists_staged_of_start started
    rw [run_eq started] at ran
    obtain rfl := Except.ok.inj ran
    have before : ∀ k, Session.Staged c.config.sessionOptions .standard program
        (first.runSteps (c.steps.take k)).2 := fun k =>
      staged.runSteps fun step mem => given step (List.mem_of_mem_take mem)
    have accounts : ∀ k outcome,
        (first.runSteps c.steps).1[k]?.map StepRecord.result = some (.completed outcome) →
        outcome.AccountsFor c.rules (c.documentAfter first k) (c.documentAfter first (k + 1)) := by
      intro k outcome completed
      obtain ⟨step, mem, dispatched⟩ := Session.exists_step completed
      obtain ⟨-, account⟩ :=
        (before k).dispatchAlone ⟨step.origin, step.event⟩ (given step mem)
      rw [dispatched, source] at account
      exact account outcome rfl
    refine ⟨fun k outcome completed => ?_, fun k passed => ?_, ?_⟩
    · exact accounts k outcome (CaseRun.completed?_eq_some_iff.1 completed)
    · obtain ⟨outcome, completed, nothing⟩ := CaseRun.passed_noChanges_iff.1 passed
      exact (accounts k outcome (CaseRun.completed?_eq_some_iff.1 completed)).same
        (before k).wellFormed (before (k + 1)).wellFormed nothing
    · rw [documentAfter, List.take_length]
  · intro react s t event data outcome orderly wellFormed given dispatched spares
    have tracked := Session.tracked_dispatch orderly event data s
    rw [dispatched] at tracked
    obtain ⟨wellFormed', accounts⟩ := tracked.accounts spares wellFormed given
    exact ⟨accounts outcome rfl, (accounts outcome rfl).same wellFormed wellFormed'⟩

/-- A scenario that sets `$a` twice, of which the second time changes nothing. -/
def setTwice : Case where
  id := "set-twice"
  description := ""
  limits := ⟨none, none, none⟩
  state := []
  rules := Session.copying.source
  steps := [⟨"set", "go", []⟩, ⟨"set", "go", []⟩]
  checks := [.noChanges 1]

/-- A session in which a listener reads `$a` when it is told of a change. -/
def readingView : Session :=
  (Session.opened .default .standard Session.copying none []).observe "view" ["$a"] .callback
    [.get "$a"] 1

/-- Setting `$a` is reported the first time and changes nothing the second time; and a listener that
reads it does not keep the dispatch from reporting it. -/
theorem setting_is_reported_once :
    let set : Outcome := [⟨⟨"set", "go"⟩, some 0, ["$a"]⟩]
    let after : Fields := [("$a", .bool true)]
    (∃ first run, setTwice.start = .ok first ∧ setTwice.run = .ok run ∧ run.state = after ∧
      run.completed? 0 = some set ∧ set.AccountsFor setTwice.rules [] after ∧
      (run.judge (.noChanges 1)).passed ∧ (Value.object after).same (.object run.state)) ∧
    (readingView.dispatch (Session.react 1) ⟨"set", "go"⟩ []).1 = .ok set ∧
      set.AccountsFor Session.copying.source [] after := by
  intro set after
  obtain ⟨scenarios, dispatches⟩ := no_silent_change
  constructor
  · let first := Session.opened .default .standard Session.copying (some "\x7b\x7d") []
    have started : setTwice.start = .ok first := by
      have text : (Value.object setTwice.state).compact = "\x7b\x7d" := rfl
      have checked : setTwice.config.check = .ok () := by decide
      rw [start, checked, text]
      exact mapError_eq_ok_iff.2 (Session.start_eq_ok_iff.2
        ⟨[], Session.copying, by decide +kernel, Session.copying.ofRules_source, rfl⟩)
    have records : (first.runSteps setTwice.steps).1.map StepRecord.result =
      [.completed set, .completed [⟨⟨"set", "go"⟩, some 0, []⟩]] := by decide +kernel
    have halfway : setTwice.documentAfter first 1 = after := by decide +kernel
    have final : setTwice.documentAfter first 2 = after := by decide +kernel
    let run : CaseRun :=
      ⟨(first.runSteps setTwice.steps).1, (first.runSteps setTwice.steps).2.store.document⟩
    have completed : ∀ k outcome,
        ((first.runSteps setTwice.steps).1.map StepRecord.result)[k]? = some (.completed outcome) →
          run.completed? k = some outcome := by
      intro k outcome listed
      rw [List.getElem?_map] at listed
      exact CaseRun.completed?_eq_some_iff.2 listed
    have given : ∀ step ∈ setTwice.steps, step.data.WellFormed := by
      simp [setTwice, Fields.WellFormed, Fields.WellFormedValues, Fields.names]
    obtain ⟨accounts, silent, -⟩ := scenarios setTwice first run started (run_eq started) given
    have account := accounts 0 set (completed 0 set (by rw [records]; rfl))
    have passed : (run.judge (.noChanges 1)).passed :=
      CaseRun.passed_noChanges_iff.2 ⟨_, completed 1 _ (by rw [records]; rfl), rfl⟩
    have same := silent 1 passed
    rw [halfway] at account same
    exact ⟨first, run, started, run_eq started, final, completed 0 set (by rw [records]; rfl),
      account, passed, same⟩
  · have reported : (readingView.dispatch (Session.react 1) ⟨"set", "go"⟩ []).1 = .ok set := by
      decide +kernel
    have document : (readingView.dispatch (Session.react 1) ⟨"set", "go"⟩ []).2.store.document =
      after := by decide +kernel
    have spares : Entry.sparesStore 0 (readingView.since
      (readingView.dispatch (Session.react 1) ⟨"set", "go"⟩ []).2) := by decide +kernel
    have empty : Fields.WellFormed [] := ⟨List.nodup_nil, trivial⟩
    obtain ⟨account, -⟩ := dispatches _ readingView _ ⟨"set", "go"⟩ [] set
      (Session.orderly_react 1) empty empty (Prod.ext reported rfl) spares
    rw [document] at account
    exact ⟨reported, account⟩

end Case

end Reflex
