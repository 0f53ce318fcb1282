import Reflex.Proofs.Expr.Identity
import Reflex.Proofs.Result
import Reflex.Session.Dispatch

/-!
# What the operations of a session leave alone

Each operation of a session acts on its store, on its engine or on its journal.  The lemmas here
say so field by field, so that proofs need not open the operations.  Before them stands what a set
of rules and its program have to do with each other.
-/

namespace Reflex

deriving instance DecidableEq for StoreError, EngineError, DispatchRecord, Answer, Entry

namespace Program

variable {source : RuleSet} {program : Program} {e : LoadError}

/-- The program of a set of rules has that set as its source. -/
lemma source_of_ofRules (compiles : ofRules source = .ok program) : program.source = source := by
  unfold ofRules at compiles
  split at compiles <;> cases compiles
  rfl

/-- The rules of a program compile to it. -/
lemma ofRules_source (program : Program) : ofRules program.source = .ok program := by
  obtain ⟨source, rules, compiled⟩ := program
  rw [ofRules]
  split <;> rename_i h <;> cases h.symm.trans compiled
  rfl

/-- The rules of a program are those of its source, each with its position. -/
lemma rules_eq (program : Program) :
    program.rules = program.source.zipIdx.map fun (rule, index) => rule.compile index := by
  obtain ⟨source, rules, compiled⟩ := program
  rw [RuleSet.compile] at compiled
  split at compiled <;> cases compiled
  rfl

/-- The program of rules whose expressions all parse. -/
def ofParsed (source : RuleSet) (parse : source.diagnostics.isEmpty) : Program where
  source := source
  rules := source.zipIdx.map fun (rule, index) => rule.compile index
  compiled := by rw [RuleSet.compile, if_pos parse]

/-- A set of rules has no program exactly when it does not compile. -/
lemma ofRules_eq_error_iff : ofRules source = .error e ↔ source.compile = .error e := by
  unfold ofRules
  split <;> simp [*]

end Program

namespace Session

variable {s : Session} {entry : Entry} {event : Event} {events : List Event} {data : Fields}
  {patch : Patch}

@[simp] lemma store_record : (s.record entry).store = s.store := rfl

@[simp] lemma engine_record : (s.record entry).engine = s.engine := rfl

@[simp] lemma journal_record : (s.record entry).journal = entry :: s.journal := rfl

@[simp] lemma store_queue : (s.queue event).store = s.store := rfl

@[simp] lemma engine_queue : (s.queue event).engine = s.engine.queue event := rfl

@[simp] lemma store_queueAll : (s.queueAll events).store = s.store := by
  induction events generalizing s with
  | nil => rfl
  | cons event events ih => exact ih

@[simp] lemma engine_queueAll :
    (s.queueAll events).engine = events.foldl (fun engine event => engine.queue event) s.engine := by
  induction events generalizing s with
  | nil => rfl
  | cons event events ih => exact ih

lemma scope_queue : (s.queue event).scope data = s.scope data := by
  have library : (s.engine.queue event).library = s.engine.library := by
    rw [Engine.queue]
    split <;> rfl
  rw [scope, engine_queue, library]
  rfl

@[simp] lemma scope_queueAll : (s.queueAll events).scope data = s.scope data := by
  induction events generalizing s with
  | nil => rfl
  | cons event events ih => exact ih.trans scope_queue

@[simp] lemma store_recordFired {outermost : Bool} {fired? : Option Nat} :
    (s.recordFired outermost fired?).store = s.store := by
  cases outermost <;> rfl

lemma frames_recordFired (outermost : Bool) (fired? : Option Nat) (s : Session) :
    (s.recordFired outermost fired?).engine.frames = s.engine.frames := by
  cases outermost with
  | false => rfl
  | true => cases fired? <;> rfl

lemma library_recordFired (outermost : Bool) (fired? : Option Nat) (s : Session) :
    (s.recordFired outermost fired?).engine.library = s.engine.library := by
  cases outermost with
  | false => rfl
  | true => cases fired? <;> rfl

lemma library_enter : (s.enter event data).engine.library = s.engine.library := by
  rw [enter, engine_record, Engine.enter]
  split <;> rfl

/-- An event that is taken is the topmost of the innermost frame. -/
lemma next_eq_some_iff {engine engine' : Engine} : engine.next = some (event, engine') ↔
    ∃ frame frames, engine.frames = (event :: frame) :: frames ∧
      engine' = { engine with frames := frame :: frames } := by
  rw [Engine.next]
  constructor
  · intro next
    split at next
    · rename_i frame frames busy
      cases next
      exact ⟨frame, frames, busy, rfl⟩
    · cases next
  · rintro ⟨frame, frames, busy, rfl⟩
    simp [busy]

@[simp] lemma engine_commit : (s.commit patch).engine = s.engine := rfl

@[simp] lemma engine_close : s.close.engine = s.engine := rfl

@[simp] lemma store_commit : (s.commit patch).store = s.store.commit patch := rfl

@[simp] lemma store_close : s.close.store = s.store.close := rfl

/-- A session that has just been started with a document. -/
def opened (options : SessionOptions) (library : Library) (program : Program)
    (text? : Option String) (document : Fields) : Session :=
  ofParts ⟨document, [], [], 0, options.maxUpdateDepth, options.key, .holding text?⟩
    (.ofProgram program library options.maxCycles options.maxNesting)

/-- A session starts when the slot holds a document and the rules compile. -/
lemma start_eq_ok_iff {options : SessionOptions} {library : Library} {rules : RuleSet}
    {text? : Option String} : start options library rules text? = .ok s ↔
      ∃ document program, Store.storedDocument options.key text? = .ok document ∧
        Program.ofRules rules = .ok program ∧ s = opened options library program text? document := by
  rw [start, bind_eq_ok_iff]
  simp only [bind_eq_ok_iff, mapError_eq_ok_iff, Store.load, map_eq_ok_iff]
  constructor
  · rintro ⟨_, ⟨document, stored, rfl⟩, program, compiled, started⟩
    cases started
    exact ⟨document, program, stored, compiled, rfl⟩
  · rintro ⟨document, program, stored, compiled, rfl⟩
    exact ⟨_, ⟨document, stored, rfl⟩, program, compiled, rfl⟩

/-- Where nobody is registered nobody is told. -/
lemma notify_of_alone {react : Reaction} {changes : NameSet}
    (alone : s.store.registrations = []) : s.notify react changes = s := by
  rw [notify, alone]
  rfl

lemma update_of_alone {react : Reaction} (alone : s.store.registrations = []) :
    s.update react patch =
      if s.store.maxDepth ≤ s.store.depth then (.error (.reentrancyLimit s.store.maxDepth), s)
      else (.ok (s.store.changesOf patch), (s.commit patch).close) := by
  have silent : (s.commit patch).notify react (s.store.changesOf patch) = s.commit patch :=
    notify_of_alone alone
  simp only [update, silent]

end Session

end Reflex
