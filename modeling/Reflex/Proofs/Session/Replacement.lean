import Reflex.Proofs.Session.Evaluation

/-!
# Replacing the rules

The rules in force and their references are kept apart from each other, and both can be replaced
while dispatches are under way.  `Session.dispatches_keep_their_rules` says that they are replaced
together or not at all, and that each dispatch goes to its end with the rules in force when it was
called.
-/

namespace Reflex.Session

variable {options : SessionOptions} {library : Library} {rules source : RuleSet}
  {text? : Option String} {first s t : Session} {m n : Moment} {react : Reaction} {e : LoadError}

/-! ## Replacements that are refused -/

lemma ofUpdate_ne_rulesRefused (changes : Except StoreError NameSet) :
    Answer.ofUpdate changes ≠ .rulesRefused e := by
  cases changes <;> exact Answer.noConfusion

lemma ofDispatch_ne_rulesRefused (outcome : Except EngineError Outcome) :
    Answer.ofDispatch outcome ≠ .rulesRefused e := by
  cases outcome <;> exact Answer.noConfusion

lemma replaceRules_of_error (refused : source.compile = .error e) (s : Session) :
    s.replaceRules source = (.rulesRefused e, s) := by
  rw [replaceRules, Program.ofRules_eq_error_iff.2 refused]

lemma replaceRules_of_rulesRefused (refused : (s.replaceRules source).1 = .rulesRefused e) :
    (s.replaceRules source).2 = s := by
  rw [replaceRules] at refused ⊢
  split
  · rfl
  · rename_i compiles
    rw [compiles] at refused
    cases refused

/-- A request changes nothing when the rules it asks for are refused. -/
lemma perform_of_rulesRefused {request : Request}
    (refused : (s.perform react request).1 = .rulesRefused e) :
    (s.perform react request).2 = s := by
  cases request with
  | update v =>
    rw [perform] at refused
    split at refused
    · exact absurd refused (ofUpdate_ne_rulesRefused _)
    · cases refused
  | apply patch => exact absurd refused (ofUpdate_ne_rulesRefused _)
  | define name default => exact absurd refused (ofUpdate_ne_rulesRefused _)
  | assign text data commit => cases commit <;> cases refused
  | dispatch event data => exact absurd refused (ofDispatch_ne_rulesRefused _)
  | init => exact absurd refused (ofDispatch_ne_rulesRefused _)
  | replaceRules rules => exact replaceRules_of_rulesRefused refused
  | replaceDocument document =>
    rw [perform] at refused ⊢
    split
    · rename_i rules read
      rw [read] at refused
      exact replaceRules_of_rulesRefused refused
    · rfl
  | _ => cases refused

/-- Rules that compile are put in force along with their references. -/
lemma replaceRules_of_compile {compiled : List CompiledRule}
    (compiles : source.compile = .ok compiled) (s : Session) :
    (s.replaceRules source).1 = .nothing ∧ (s.replaceRules source).2.engine.InForce source := by
  rw [replaceRules]
  cases program : Program.ofRules source with
  | error e => cases compiles.symm.trans (Program.ofRules_eq_error_iff.1 program)
  | ok program' => exact ⟨rfl, Engine.inForce_replace program⟩

/-! ## The rules in force at each moment -/

lemma inForce_of_quiet (h : Quiet s t) (before : s.engine.InForce source) :
    ∃ source', t.engine.InForce source' := by
  cases h with
  | replace program => exact ⟨program.source, program.compiled, rfl⟩
  | recordFired outermost fired? => exact ⟨source, inForce_recordFired before outermost fired?⟩
  | _ => exact ⟨source, before⟩

/-- At each moment the engine has stored the rules of some set and the references of the same. -/
lemma inForce_of_course (course : Course m n) (before : m.session.engine.InForce source) :
    ∃ source', n.session.engine.InForce source' := by
  induction course with
  | refl => exact ⟨source, before⟩
  | tail _ last ih =>
    obtain ⟨source', inForce⟩ := ih
    cases last with
    | quiet _ step => exact inForce_of_quiet step inForce
    | queue _ _ event => exact ⟨source', inForce.queue event⟩
    | take _ next => exact ⟨source', inForce.next next⟩
    | enter _ event data _ => exact ⟨source', inForce.enter event data⟩
    | leave => exact ⟨source', inForce.leave⟩
    | _ => exact ⟨source', inForce⟩

/-- **Dispatches keep their rules.**  Whatever listeners do, a request that is answered by a refusal
of rules changes nothing, and in particular neither the rules in force nor their references; rules
are refused exactly when they do not compile, and else they are in force along with their
references.  In a session that was started under the rules of a set, the engine has at every moment,
in the middle of listeners and dispatches too, stored the compiled rules of one set and the
references of the same set.  All that the session does, however requests and the scripts of
listeners replace the rules in the meantime, is served as `Serves` says: an accepted replacement,
and nothing else, puts other rules in force, and the cycles of a dispatch all go by the rules that
are in force when it is called, be it called by a request or inside of another dispatch. -/
theorem dispatches_keep_their_rules (started : start options library rules text? = .ok first) :
    (∀ (react : Reaction) (s : Session) (request : Request) (e : LoadError),
      (s.perform react request).1 = .rulesRefused e → (s.perform react request).2 = s) ∧
    (∀ (s : Session) (source : RuleSet),
      (∀ e, source.compile = .error e → s.replaceRules source = (.rulesRefused e, s)) ∧
      ∀ compiled, source.compile = .ok compiled →
        (s.replaceRules source).1 = .nothing ∧ (s.replaceRules source).2.engine.InForce source) ∧
    (∀ m, Course ⟨[], first⟩ m → ∃ source, m.session.engine.InForce source) ∧
    (∀ (depth : Nat) (work : Work) (a : RuleSet) (s t : Session), s.engine.InForce a →
      ((∃ b, Serves depth work a s b t) ↔ Does depth work s t) ∧
      ∀ b, Serves depth work a s b t → t.engine.InForce b) ∧
    ∀ requests, (∀ step ∈ first.run requests, Course ⟨[], first⟩ ⟨[], step.2⟩) ∧
      ∃ b t, Serves (Request.totalRuns requests) (.run requests (first.run requests)) rules first
        b t := by
  have begun := inForce_of_start started
  refine ⟨fun react s request e => perform_of_rulesRefused, fun s source => ⟨fun e refused =>
    replaceRules_of_error refused s, fun compiled compiles => replaceRules_of_compile compiles s⟩,
    fun m course => inForce_of_course course begun, fun depth work a s t before =>
    ⟨serves_iff_does before, fun b served => served.inForce before⟩, fun requests => ⟨?_, ?_⟩⟩
  · have stable := stable_course ⟨[], first⟩
    have lawful : Lawful (Course ⟨[], first⟩) (Session.react (Request.totalRuns requests)) :=
      lawful_react stable (fun _ _ _ _ _ _ _ _ => trivial) _
    exact fun step mem =>
      ((closed_passes stable lawful []).runWith (fun _ _ => trivial) first step mem .refl).course
  · have runs : Does (Request.totalRuns requests) (.run requests (first.run requests)) first
        (((first.run requests).map (·.2)).getLastD first) := ⟨rfl, rfl⟩
    obtain ⟨b, served⟩ := (serves_iff_does begun).2 runs
    exact ⟨b, _, served⟩

/-- Rules under which an event sets `$a` and calls for a second cycle, which sets `$b`. -/
def oldRules : RuleSet :=
  [.ofParts "start" [] [("$a", "queue('next', 'tick')")], .ofParts "next" [] [("$b", "true")]]

/-- Rules under which the second event sets `$c`. -/
def newRules : RuleSet :=
  [.ofParts "next" [] [("$c", "true")]]

/-- The old rules, compiled. -/
def oldProgram : Program :=
  .ofParsed oldRules (by decide +kernel)

/-- A session under the old rules. -/
def oldSession : Session :=
  .ofParts ⟨[], [], [], 0, 64, "4.state", .holding none⟩ (.ofProgram oldProgram .standard 1000 32)

/-- A listener that replaces the rules in the middle of the first cycle of a dispatch and then
dispatches the event of the second one. -/
def replacing : List Request := [
  .observe "replace" ["$a"] .callback [.replaceRules newRules, .dispatch ⟨"next", "press"⟩ []] 1,
  .dispatch ⟨"start", "press"⟩ []]

/-- The dispatch goes on to set `$b` by the old rules after the one inside of it has set `$c` by the
new ones, which are in force from then on. -/
theorem replacing_spares_dispatch :
    start .default .standard oldRules none = .ok oldSession ∧
      (∃ b t, Serves (Request.totalRuns replacing) (.run replacing (oldSession.run replacing))
        oldRules oldSession b t) ∧
      (oldSession.run replacing).map (fun step =>
        (step.2.store.document.names, step.2.engine.references)) =
        [([], ["$a", "$b"]), (["$a", "$c", "$b"], ["$c"])] := by
  have started : start .default .standard oldRules none = .ok oldSession :=
    start_eq_ok_iff.2 ⟨[], oldProgram, rfl, oldProgram.ofRules_source, rfl⟩
  obtain ⟨-, -, -, -, serves⟩ := dispatches_keep_their_rules started
  exact ⟨started, (serves replacing).2, by decide +kernel⟩

end Reflex.Session
