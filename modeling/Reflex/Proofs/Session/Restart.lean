import Reflex.Proofs.Session.Lockstep
import Reflex.Proofs.Session.Queue

/-!
# Restarts

A session that is closed after a dispatch and opened again from what its slot holds goes on as if it
had never been closed.  Of an engine at rest, nothing but the rules and the limits matters to later
dispatches, and these come back when the session is opened; the document comes back from the slot.
`Session.restart_invisible` says so of any number of dispatches with restarts between them.

* `Session.Keeping` is what holds of a session without listeners all along, and `Session.Twins`
  relates the session that was never closed to the one that was.
-/

namespace Reflex

/-- A text is read character by character. -/
lemma Json.read_ofList (cs : List Char) : read (String.ofList cs) = (do
    let r ← datum cs.length maxDepth cs
    if (skip r.rest).isEmpty then return r.value else .error .malformed) := by
  rw [read, String.toList_ofList, String.length_ofList]

/-- The text of the document stands for the document. -/
def Fields.ReadsBack (document : Fields) : Prop :=
  Json.readValue (Value.object document).compact = .ok (.object document)

namespace Session

/-- Dispatches events one after the other, where there are no listeners. -/
def dispatchAll : List (Event × Fields) → Session → List (Except EngineError Outcome) × Session
  | [], s => ([], s)
  | (event, data) :: requests, s =>
    let (outcome, t) := s.dispatchAlone event data
    let (outcomes, u) := dispatchAll requests t
    (outcome :: outcomes, u)

/-- Closes the session and opens it again from what its slot holds, if it is asked to. -/
def reopenIf (options : SessionOptions) (library : Library) (rules : RuleSet) (asked : Bool)
    (s : Session) : Except OpenError Session :=
  if asked then start options library rules s.store.slot.text? else .ok s

/-- Dispatches events one after the other, where there are no listeners.  The session is closed and
opened again before an event that `true` stands beside. -/
def dispatchAllReopening (options : SessionOptions) (library : Library) (rules : RuleSet) :
    List (Bool × Event × Fields) → Session →
      Except OpenError (List (Except EngineError Outcome) × Session)
  | [], s => .ok ([], s)
  | (reopening, event, data) :: requests, s => do
    let s ← s.reopenIf options library rules reopening
    let (outcome, t) := s.dispatchAlone event data
    let (outcomes, u) ← dispatchAllReopening options library rules requests t
    return (outcome :: outcomes, u)

/-- A session without listeners whose document can be told from its slot, which holds either its
text or the text it was read from. -/
structure Keeping (options : SessionOptions) (library : Library) (program : Program)
    (s : Session) : Prop where
  alone : s.store.registrations = []
  depth : s.store.depth = 0
  maxDepth : s.store.maxDepth = options.maxUpdateDepth
  key : s.store.key = options.key
  writing : s.store.slot.off = false ∧ ∀ attempt, s.store.slot.outages attempt = false
  stored : s.store.slot.text? = some s.store.text ∨
    Store.storedDocument options.key s.store.slot.text? = .ok s.store.document
  settings : s.engine.program = program ∧ s.engine.references = program.source.references ∧
    s.engine.library = library ∧ s.engine.maxCycles = options.maxCycles ∧
    s.engine.maxNesting = options.maxNesting

/-- Two sessions, each of which keeps its document, with the same engine and the same document. -/
structure Twins (options : SessionOptions) (library : Library) (program : Program)
    (s t : Session) : Prop where
  engine : s.engine = t.engine
  document : s.store.document = t.store.document
  left : Keeping options library program s
  right : Keeping options library program t

variable {options : SessionOptions} {library : Library} {program : Program} {rules : RuleSet}
  {s s' t t' : Session} {event : Event} {data : Fields} {patch : Patch}

namespace Keeping

lemma of_store_eq (h : Keeping options library program s) (store : s'.store = s.store)
    (settings : s'.engine.program = s.engine.program ∧
      s'.engine.references = s.engine.references ∧ s'.engine.library = s.engine.library ∧
      s'.engine.maxCycles = s.engine.maxCycles ∧ s'.engine.maxNesting = s.engine.maxNesting) :
    Keeping options library program s' where
  alone := store ▸ h.alone
  depth := store ▸ h.depth
  maxDepth := store ▸ h.maxDepth
  key := store ▸ h.key
  writing := store ▸ h.writing
  stored := store ▸ h.stored
  settings := by
    obtain ⟨hprogram, hreferences, hlibrary, hcycles, hnesting⟩ := settings
    rw [hprogram, hreferences, hlibrary, hcycles, hnesting]
    exact h.settings

/-- An update writes the text of the new document to the slot. -/
lemma close_commit (h : Keeping options library program s) :
    Keeping options library program (s.commit patch).close where
  alone := h.alone
  depth := h.depth
  maxDepth := h.maxDepth
  key := h.key
  writing := by simp [Store.close, Store.commit, Slot.write, Slot.failing, h.writing]
  stored := .inl (by simp [Store.close, Store.commit, Slot.write, Slot.failing, Store.text, h.writing])
  settings := h.settings

end Keeping

namespace Twins

lemma scope (h : Twins options library program s t) (data : Fields) :
    s.scope data = t.scope data := by
  rw [Session.scope, Session.scope, h.engine, h.document]

/-- Operations on the engines that are the same in both sessions keep them twins. -/
lemma of_store_eq (h : Twins options library program s t) (store : s'.store = s.store)
    (store' : t'.store = t.store) (engine : s'.engine = t'.engine)
    (settings : s'.engine.program = s.engine.program ∧
      s'.engine.references = s.engine.references ∧ s'.engine.library = s.engine.library ∧
      s'.engine.maxCycles = s.engine.maxCycles ∧ s'.engine.maxNesting = s.engine.maxNesting) :
    Twins options library program s' t' where
  engine := engine
  document := by rw [store, store', h.document]
  left := h.left.of_store_eq store settings
  right := h.right.of_store_eq store' (by rwa [← engine, ← h.engine])

lemma update (h : Twins options library program s t) (react : Reaction) :
    Steps (Twins options library program) (s.update react patch) (t.update react patch) := by
  rw [update_of_alone h.left.alone, update_of_alone h.right.alone, h.left.maxDepth,
    h.right.maxDepth, h.left.depth, h.right.depth]
  split
  · exact ⟨rfl, h⟩
  · have changes : s.store.changesOf patch = t.store.changesOf patch := by
      rw [Store.changesOf, Store.changesOf, h.document]
    have document : (s.commit patch).close.store.document =
        (t.commit patch).close.store.document := by
      simp [Store.close, Store.commit, h.document]
    exact ⟨congrArg Except.ok changes, h.engine, document, h.left.close_commit,
      h.right.close_commit⟩

/-- Twins go through cycles side by side. -/
lemma lockstep (react : Reaction) (rules : List CompiledRule) :
    Lockstep react react rules (Twins options library program) where
  engine h := h.engine
  select h origin data := by rw [h.scope]
  patch h rule _ data := by rw [h.scope]
  queue {s t} h event := by
    refine h.of_store_eq rfl rfl (congrArg (Engine.queue event) h.engine) ?_
    rw [engine_queue, Engine.queue]
    split <;> exact ⟨rfl, rfl, rfl, rfl, rfl⟩
  selected h rule := h.of_store_eq rfl rfl h.engine ⟨rfl, rfl, rfl, rfl, rfl⟩
  recordFired {s t} h outermost fired? := by
    cases outermost with
    | false => exact h
    | true =>
      refine h.of_store_eq rfl rfl (congrArg (Engine.recordFired fired?) h.engine) ?_
      cases fired? <;> exact ⟨rfl, rfl, rfl, rfl, rfl⟩
  take {s t} h event engine next := by
    refine h.of_store_eq rfl rfl rfl ?_
    rw [Engine.next] at next
    split at next
    · cases next
      exact ⟨rfl, rfl, rfl, rfl, rfl⟩
    · cases next
  update h _ _ _ _ _ := h.update react

end Twins

/-! ## Sessions at rest -/

/-- No dispatch is under way and no event waits for one. -/
def Rests (s : Session) : Prop :=
  s.engine.frames = [] ∧ s.engine.staged = []

/-- Two sessions at rest that keep the same document.  What they remember of their last dispatches
need not be the same. -/
structure Alternatives (options : SessionOptions) (library : Library) (program : Program)
    (s t : Session) : Prop where
  document : s.store.document = t.store.document
  left : Keeping options library program s
  right : Keeping options library program t
  leftRests : Rests s
  rightRests : Rests t

/-- A session that has just been started keeps the document that it was started with. -/
lemma keeping_opened {text? : Option String} {document : Fields}
    (stored : Store.storedDocument options.key text? = .ok document) :
    Keeping options library program (opened options library program text? document) :=
  ⟨rfl, rfl, rfl, rfl, ⟨rfl, fun _ => rfl⟩, .inr stored, rfl, rfl, rfl, rfl, rfl⟩

/-- At the beginning of a dispatch nothing is left of the dispatches before it. -/
lemma Keeping.engine_enter (h : Keeping options library program s) (rests : Rests s) :
    (s.enter event data).engine = ⟨program, program.source.references, library, options.maxCycles,
      options.maxNesting, [[]], [], ⟨event.origin, event.name, data, none⟩⟩ := by
  obtain ⟨hprogram, hreferences, hlibrary, hcycles, hnesting⟩ := h.settings
  obtain ⟨frames, staged⟩ := rests
  simp [enter, Engine.enter, Engine.isIdle, frames, staged, hprogram, hreferences, hlibrary, hcycles,
    hnesting]

lemma Keeping.enter (h : Keeping options library program s) :
    Keeping options library program (s.enter event data) := by
  refine h.of_store_eq rfl ?_
  rw [Session.enter, engine_record, Engine.enter]
  split <;> exact ⟨rfl, rfl, rfl, rfl, rfl⟩

lemma Rests.dispatchAlone (rests : Rests s) : Rests (s.dispatchAlone event data).2 := by
  rcases Nat.lt_or_ge s.engine.frames.length s.engine.maxNesting with admitted | full
  · exact rests_dispatch (fun _ => .refl) (List.isEmpty_iff.2 rests.1) admitted
  · rw [Session.dispatchAlone, dispatch, if_pos full]
    exact rests

namespace Alternatives

/-- The two sessions become twins when they begin the same dispatch. -/
lemma enter (h : Alternatives options library program s t) :
    Twins options library program (s.enter event data) (t.enter event data) where
  engine := (h.left.engine_enter h.leftRests).trans (h.right.engine_enter h.rightRests).symm
  document := h.document
  left := h.left.enter
  right := h.right.enter

/-- A dispatch has the same result in both sessions. -/
lemma dispatchAlone (h : Alternatives options library program s t) (event : Event)
    (data : Fields) :
    Steps (Alternatives options library program) (s.dispatchAlone event data)
      (t.dispatchAlone event data) := by
  obtain ⟨program_eq, -, -, maxCycles, maxNesting⟩ := h.left.settings
  obtain ⟨program_eq', -, -, maxCycles', maxNesting'⟩ := h.right.settings
  suffices done : Steps (fun u v => u.store.document = v.store.document ∧
      Keeping options library program u ∧ Keeping options library program v)
      (s.dispatchAlone event data) (t.dispatchAlone event data) by
    obtain ⟨same, document, left, right⟩ := done
    exact ⟨same, document, left, right, h.leftRests.dispatchAlone, h.rightRests.dispatchAlone⟩
  rw [Session.dispatchAlone, Session.dispatchAlone, dispatch, dispatch, Engine.isIdle,
    Engine.isIdle, h.leftRests.1, h.rightRests.1, maxNesting, maxNesting', maxCycles, maxCycles',
    program_eq, program_eq']
  split
  · exact ⟨rfl, h.document, h.left, h.right⟩
  · have begun : Twins options library program (s.enter event data) (t.enter event data) := h.enter
    obtain ⟨same, twins⟩ := (Twins.lockstep (fun _ u => u) program.rules).drain begun
      (List.isEmpty ([] : List (List Event))) options.maxCycles event data
    exact ⟨same, twins.document, twins.left.of_store_eq rfl ⟨rfl, rfl, rfl, rfl, rfl⟩,
      twins.right.of_store_eq rfl ⟨rfl, rfl, rfl, rfl, rfl⟩⟩

/-- A session that is closed and opened again keeps the document. -/
lemma reopenIf (h : Alternatives options library program s t)
    (compiled : Program.ofRules rules = .ok program) (readsBack : s.store.document.ReadsBack)
    (asked : Bool) : ∃ u, t.reopenIf options library rules asked = .ok u ∧
      Alternatives options library program s u := by
  cases asked with
  | false => exact ⟨t, rfl, h⟩
  | true =>
    have stored : Store.storedDocument options.key t.store.slot.text? = .ok t.store.document := by
      rcases h.right.stored with written | unwritten
      · rw [written, ← h.document]
        simp only [Store.storedDocument, Store.readDocument, Store.text, ← h.document]
        rw [show Json.readValue (Value.object s.store.document).compact = _ from readsBack]
      · exact unwritten
    exact ⟨_, start_eq_ok_iff.2 ⟨_, program, stored, compiled, rfl⟩, h.document, h.left,
      keeping_opened stored, h.leftRests, rfl, rfl⟩

end Alternatives

/-- **Restarts make no difference.**  A session is started from any stored text, under any rules
that compile, and answers dispatches one after the other; there are no listeners, and writes
succeed.  Whether it stays open all the time or is closed and opened again before any of the
dispatches, every dispatch has the same result, be it a success or a failure, and the document is
the same in the end, with its keys in the same order.  It is assumed of the documents that the
session comes to that their texts read back. -/
theorem restart_invisible {text? : Option String}
    (started : start options library rules text? = .ok s) (requests : List (Bool × Event × Fields))
    (readsBack : ∀ done, done <+: requests.map Prod.snd →
      (s.dispatchAll done).2.store.document.ReadsBack) :
    ∃ t, dispatchAllReopening options library rules requests s =
        .ok ((s.dispatchAll (requests.map Prod.snd)).1, t) ∧
      t.store.document = (s.dispatchAll (requests.map Prod.snd)).2.store.document := by
  obtain ⟨document, program, stored, compiled, rfl⟩ := start_eq_ok_iff.1 started
  have kept : Keeping options library program (opened options library program text? document) :=
    keeping_opened stored
  suffices general : ∀ (requests : List (Bool × Event × Fields)) (s t : Session),
      Alternatives options library program s t →
      (∀ done, done <+: requests.map Prod.snd → (s.dispatchAll done).2.store.document.ReadsBack) →
      ∃ u, dispatchAllReopening options library rules requests t =
          .ok ((s.dispatchAll (requests.map Prod.snd)).1, u) ∧
        u.store.document = (s.dispatchAll (requests.map Prod.snd)).2.store.document from
    general requests _ _ ⟨rfl, kept, kept, ⟨rfl, rfl⟩, ⟨rfl, rfl⟩⟩ readsBack
  -- The session that stays open and the one that may be opened again are alternatives throughout.
  intro requests
  induction requests with
  | nil => exact fun s t h _ => ⟨t, rfl, h.document.symm⟩
  | cons request requests ih =>
    obtain ⟨reopening, event, data⟩ := request
    intro s t h readsBack
    obtain ⟨t', opens, h'⟩ := h.reopenIf compiled (readsBack [] List.nil_prefix) reopening
    obtain ⟨same, after⟩ := h'.dispatchAlone event data
    obtain ⟨u, others, final⟩ := ih _ _ after fun done before =>
      readsBack ((event, data) :: done) (List.cons_prefix_cons.2 ⟨rfl, before⟩)
    refine ⟨u, ?_, final⟩
    rw [dispatchAllReopening, opens]
    simp only [bind, Except.bind, others, ← same]
    rfl

/-- Rules of which the first sets `$a`, the second fails and the third copies `$a`. -/
def copying : Program where
  source := [.ofParts "set" [] [("$a", "true")], .ofParts "bad" [] [("$x", "nope")],
    .ofParts "copy" [] [("$b", "$a")]]
  rules := [Rule.compile 0 (.ofParts "set" [] [("$a", "true")]),
    Rule.compile 1 (.ofParts "bad" [] [("$x", "nope")]),
    Rule.compile 2 (.ofParts "copy" [] [("$b", "$a")])]
  compiled := if_pos (by decide +kernel)

lemma readsBack_set : Fields.ReadsBack [("$a", .bool true)] := by
  have chars : (Value.object [("$a", .bool true)]).compactChars =
      ['\x7b', '\x22', '$', 'a', '\x22', ':', 't', 'r', 'u', 'e', '\x7d'] := rfl
  rw [Fields.ReadsBack, Json.readValue, Value.compact, chars, Json.read_ofList]
  decide +kernel

lemma readsBack_copied : Fields.ReadsBack [("$a", .bool true), ("$b", .bool true)] := by
  have chars : (Value.object [("$a", .bool true), ("$b", .bool true)]).compactChars =
      ['\x7b', '\x22', '$', 'a', '\x22', ':', 't', 'r', 'u', 'e', ',',
        '\x22', '$', 'b', '\x22', ':', 't', 'r', 'u', 'e', '\x7d'] := rfl
  rw [Fields.ReadsBack, Json.readValue, Value.compact, chars, Json.read_ofList]
  decide +kernel

/-- What was set before two restarts, with a failure between them, is seen after them. -/
theorem restart_keeps_set :
    let requests : List (Bool × Event × Fields) :=
      [(false, ⟨"set", "go"⟩, []), (true, ⟨"bad", "go"⟩, []), (true, ⟨"copy", "go"⟩, [])]
    ∃ s t, start .default .standard copying.source none = .ok s ∧
      dispatchAllReopening .default .standard copying.source requests s =
        .ok ([.ok [⟨⟨"set", "go"⟩, some 0, ["$a"]⟩],
          .error (.update 1 "$x" (.unknownIdentifier "nope")),
          .ok [⟨⟨"copy", "go"⟩, some 2, ["$b"]⟩]], t) ∧
      t.store.document = [("$a", .bool true), ("$b", .bool true)] := by
  intro requests
  let s := opened .default .standard copying none []
  have started : start .default .standard copying.source none = .ok s :=
    start_eq_ok_iff.2 ⟨[], copying, rfl, copying.ofRules_source, rfl⟩
  have once : (s.dispatchAll [(⟨"set", "go"⟩, [])]).2.store.document =
    [("$a", .bool true)] := by decide +kernel
  have twice : (s.dispatchAll [(⟨"set", "go"⟩, []), (⟨"bad", "go"⟩, [])]).2.store.document =
    [("$a", .bool true)] := by decide +kernel
  have answers : (s.dispatchAll (requests.map Prod.snd)).1 =
      [.ok [⟨⟨"set", "go"⟩, some 0, ["$a"]⟩],
        .error (.update 1 "$x" (.unknownIdentifier "nope")),
        .ok [⟨⟨"copy", "go"⟩, some 2, ["$b"]⟩]] := by decide +kernel
  have thrice : (s.dispatchAll (requests.map Prod.snd)).2.store.document =
    [("$a", .bool true), ("$b", .bool true)] := by decide +kernel
  have readsBack : ∀ done, done <+: requests.map Prod.snd →
      (s.dispatchAll done).2.store.document.ReadsBack := by
    intro done before
    simp only [requests, List.map_cons, List.map_nil, List.prefix_cons_iff, List.prefix_nil]
      at before
    rcases before with rfl | ⟨_, rfl, rfl | ⟨_, rfl, rfl | ⟨_, rfl, rfl⟩⟩⟩
    · rw [dispatchAll, Fields.ReadsBack]
      decide +kernel
    · exact once ▸ readsBack_set
    · exact twice ▸ readsBack_set
    · exact thrice ▸ readsBack_copied
  obtain ⟨t, reopened, final⟩ := restart_invisible started requests readsBack
  exact ⟨s, t, started, answers ▸ reopened, final.trans thrice⟩

end Session

end Reflex
