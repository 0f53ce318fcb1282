import Reflex.Proofs.Session.Requests

/-!
# Runs that differ in one respect

The same requests are made of two sessions that differ in one respect: in which writes succeed, or
in the limits.  What is not concerned by the difference is the same in both sessions all along, and
so are the answers, apart from those that show the difference.  This module says what the two
sessions have in common (`Session.Akin`), and that every operation that calls no listener keeps
them akin; the others are the subject of `Reflex.Proofs.Session.Abreast`.

* `Difference` is the respect in which the sessions differ.
* `Request.Akin` is about requests.  Where writes make the difference the requests that switch
  writes off and on may be others, also in the scripts of listeners.
-/

namespace Reflex

/-- What two sessions that answer the same requests differ in. -/
inductive Difference where
  /-- Which writes succeed. -/
  | outcomes
  /-- The limits, each of which is at least as large in the second session. -/
  | limits

namespace Difference

/-- How a limit of the first session compares with that of the second. -/
def Bounds : Difference → Nat → Nat → Prop
  | .outcomes, n, n' => n = n'
  | .limits, n, n' => n ≤ n'

/-- How the slot of the first session compares with that of the second. -/
def Holds : Difference → Slot → Slot → Prop
  | .outcomes, _, _ => True
  | .limits, slot, slot' => slot = slot'

variable {d : Difference} {n n' : Nat} {slot slot' : Slot}

lemma Bounds.le (h : d.Bounds n n') : n ≤ n' := by
  cases d with
  | outcomes => exact Nat.le_of_eq h
  | limits => exact h

lemma Holds.write (h : d.Holds slot slot') (text : String) :
    d.Holds (slot.write text) (slot'.write text) := by
  cases d with
  | outcomes => trivial
  | limits => exact congrArg (Slot.write · text) h

lemma Holds.switch (h : d.Holds slot slot') (on : Bool) :
    d.Holds { slot with off := on } { slot' with off := on } := by
  cases d with
  | outcomes => trivial
  | limits => exact congrArg (fun slot : Slot => { slot with off := on }) h

end Difference

/-- Whether an answer shows what the sessions differ in. -/
def Answer.Shows : Difference → Answer → Prop
  | .outcomes, .slot _ _ => True
  | .limits, .limits _ _ => True
  | _, _ => False

/-- Two answers are the same, or both show what the sessions differ in. -/
def Answer.Akin (d : Difference) (answer answer' : Answer) : Prop :=
  answer = answer' ∨ answer.Shows d ∧ answer'.Shows d

/-- Entries that are the same, but for answers that show the difference and, where writes make it,
for whether a write succeeded. -/
inductive Entry.Akin (d : Difference) : Entry → Entry → Prop
  | same (entry : Entry) : Akin d entry entry
  | answered (name : String) {answer answer' : Answer} (akin : answer.Akin d answer') :
      Akin d (.answered name answer) (.answered name answer')
  | closed (differ : d = .outcomes) (text : String) (written written' : Bool) :
      Akin d (.closed text written) (.closed text written')

mutual

/-- Requests that are the same.  Where writes make the difference, one may switch writes off where
the other switches them on, and so may the scripts that they register. -/
inductive Request.Akin (d : Difference) : Request → Request → Prop
  | same (request : Request) : Request.Akin d request request
  | failWrites (differ : d = .outcomes) (on on' : Bool) :
      Request.Akin d (.failWrites on) (.failWrites on')
  | observe (name : String) (paths : List String) (kind : ListenerKind) (runs : Nat)
      {script script' : List Request} (akin : Request.AllAkin d script script') :
      Request.Akin d (.observe name paths kind script runs) (.observe name paths kind script' runs)

/-- Requests that are akin one by one. -/
inductive Request.AllAkin (d : Difference) : List Request → List Request → Prop
  | nil : Request.AllAkin d [] []
  | cons {request request' : Request} {requests requests' : List Request}
      (here : Request.Akin d request request') (there : Request.AllAkin d requests requests') :
      Request.AllAkin d (request :: requests) (request' :: requests')

end

lemma Request.AllAkin.same (d : Difference) (requests : List Request) :
    Request.AllAkin d requests requests := by
  induction requests with
  | nil => exact .nil
  | cons request requests ih => exact .cons (.same request) ih

lemma Request.AllAkin.isEmpty {d : Difference} {requests requests' : List Request}
    (h : Request.AllAkin d requests requests') : requests.isEmpty = requests'.isEmpty := by
  cases h <;> rfl

mutual

/-- Requests that are akin bring about as many runs. -/
lemma Request.Akin.runs {d : Difference} : {request request' : Request} →
    request.Akin d request' → request.runs = request'.runs
  | _, _, .same _ => rfl
  | _, _, .failWrites _ _ _ => by rw [Request.runs, Request.runs] <;> simp
  | _, _, .observe _ _ _ _ like => by rw [Request.runs, Request.runs, like.totalRuns]

lemma Request.AllAkin.totalRuns {d : Difference} : {requests requests' : List Request} →
    Request.AllAkin d requests requests' →
      Request.totalRuns requests = Request.totalRuns requests'
  | _, _, .nil => rfl
  | _, _, .cons here there => by
    rw [Request.totalRuns, Request.totalRuns, here.runs, there.totalRuns]

end

/-- Listeners that are the same but for their scripts, which are akin. -/
structure Listener.Akin (d : Difference) (l l' : Listener) : Prop where
  kind : l.kind = l'.kind
  connected : l.connected = l'.connected
  script : Request.AllAkin d l.script l'.script
  runs : l.runs = l'.runs

/-- Stores that are the same but for the limit and the slot. -/
structure Store.Akin (d : Difference) (store store' : Store) : Prop where
  document : store.document = store'.document
  registrations : store.registrations = store'.registrations
  lastChanges : store.lastChanges = store'.lastChanges
  depth : store.depth = store'.depth
  maxDepth : d.Bounds store.maxDepth store'.maxDepth
  key : store.key = store'.key
  slot : d.Holds store.slot store'.slot

/-- Engines that are the same but for the limits. -/
structure Engine.Akin (d : Difference) (engine engine' : Engine) : Prop where
  program : engine.program = engine'.program
  references : engine.references = engine'.references
  library : engine.library = engine'.library
  maxCycles : d.Bounds engine.maxCycles engine'.maxCycles
  maxNesting : d.Bounds engine.maxNesting engine'.maxNesting
  frames : engine.frames = engine'.frames
  staged : engine.staged = engine'.staged
  last : engine.last = engine'.last

/-- Sessions that are the same but for what they differ in. -/
structure Session.Akin (d : Difference) (s t : Session) : Prop where
  store : s.store.Akin d t.store
  engine : s.engine.Akin d t.engine
  listeners : List.Forall₂ (fun a b => a.1 = b.1 ∧ a.2.Akin d b.2) s.listeners t.listeners
  journal : List.Forall₂ (Entry.Akin d) s.journal t.journal

variable {d : Difference}

/-! ## Stores -/

namespace Store.Akin

variable {store store' : Store} {name : String} {patch : Patch}

lemma getOr (h : store.Akin d store') (path : String) (default : Value) :
    store.getOr path default = store'.getOr path default := by
  rw [Store.getOr, Store.getOr, h.document]

lemma get (h : store.Akin d store') : store.get = store'.get := by
  funext path
  exact h.getOr path .null

lemma text (h : store.Akin d store') : store.text = store'.text := by
  rw [Store.text, Store.text, h.document]

lemma interpolate (h : store.Akin d store') : store.interpolate = store'.interpolate := by
  funext template
  rw [Store.interpolate, Store.interpolate, h.get]

lemma opOf (h : store.Akin d store') (data : Fields) : store.opOf data = store'.opOf data := by
  funext source
  cases source with
  | state name => rw [Store.opOf, Store.opOf, h.interpolate]
  | field name => rfl

lemma patchOf (h : store.Akin d store') (text : String) (data : Fields) :
    store.patchOf text data = store'.patchOf text data := by
  rw [Store.patchOf, Store.patchOf, h.opOf]

lemma changesOf (h : store.Akin d store') (patch : Patch) :
    store.changesOf patch = store'.changesOf patch := by
  rw [Store.changesOf, Store.changesOf, h.document]

lemma hasBeenUpdated (h : store.Akin d store') (path : String) :
    store.hasBeenUpdated path = store'.hasBeenUpdated path := by
  rw [Store.hasBeenUpdated, Store.hasBeenUpdated, h.lastChanges]

lemma isRegistered (h : store.Akin d store') (name : String) :
    store.isRegistered name = store'.isRegistered name := by
  rw [Store.isRegistered, Store.isRegistered, h.registrations]

lemma commit (h : store.Akin d store') (patch : Patch) :
    (store.commit patch).Akin d (store'.commit patch) :=
  { h with
    document := congrArg (Patch.apply · patch) h.document
    lastChanges := h.changesOf patch
    depth := congrArg (· + 1) h.depth }

lemma close (h : store.Akin d store') : store.close.Akin d store'.close := by
  have written := h.slot.write store.text
  rw [Store.close, Store.close, ← h.text]
  exact { h with depth := congrArg (· - 1) h.depth, slot := written }

lemma switch (h : store.Akin d store') (on : Bool) :
    Store.Akin d { store with slot := { store.slot with off := on } }
      { store' with slot := { store'.slot with off := on } } :=
  { h with slot := h.slot.switch on }

lemma observe (h : store.Akin d store') (name : String) (paths : List String) :
    (store.observe name paths).Akin d (store'.observe name paths) := by
  have registrations : (store.observe name paths).registrations =
      (store'.observe name paths).registrations := by
    rw [Store.observe, Store.observe, h.registrations]
  exact { h with registrations }

lemma unobserve (h : store.Akin d store') (name : String) :
    (store.unobserve name).Akin d (store'.unobserve name) := by
  have registrations : (store.unobserve name).registrations =
      (store'.unobserve name).registrations := by
    rw [Store.unobserve, Store.unobserve, h.registrations]
  exact { h with registrations }

end Store.Akin

/-! ## Engines -/

namespace Engine.Akin

variable {engine engine' : Engine} {event : Event}

lemma isIdle (h : engine.Akin d engine') : engine.isIdle = engine'.isIdle := by
  rw [Engine.isIdle, Engine.isIdle, h.frames]

lemma pending (h : engine.Akin d engine') : engine.pending = engine'.pending := by
  rw [Engine.pending, Engine.pending, h.frames, h.staged]

lemma replace (h : engine.Akin d engine') (program : Program) :
    (engine.replace program).Akin d (engine'.replace program) :=
  { h with program := rfl, references := rfl }

lemma queue (h : engine.Akin d engine') (event : Event) :
    (engine.queue event).Akin d (engine'.queue event) := by
  rw [Engine.queue, Engine.queue, ← h.frames, ← h.staged]
  split
  · exact { h with frames := rfl, staged := rfl }
  · exact { h with frames := rfl, staged := rfl }

lemma recordFired (h : engine.Akin d engine') (fired? : Option Nat) :
    (engine.recordFired fired?).Akin d (engine'.recordFired fired?) := by
  rw [Engine.recordFired, Engine.recordFired, ← h.last]
  split
  · exact { h with last := rfl }
  · exact h

lemma enter (h : engine.Akin d engine') (event : Event) (data : Fields) :
    (engine.enter event data).Akin d (engine'.enter event data) := by
  rw [Engine.enter, Engine.enter, ← h.isIdle, ← h.frames, ← h.staged]
  split
  · exact { h with frames := rfl, staged := rfl, last := rfl }
  · exact { h with frames := rfl, staged := rfl }

lemma leave (h : engine.Akin d engine') : engine.leave.Akin d engine'.leave :=
  { h with frames := congrArg List.tail h.frames }

/-- The same event is taken out of both engines, or none. -/
lemma next (h : engine.Akin d engine') :
    engine.next = none ∧ engine'.next = none ∨
      ∃ event taken taken', engine.next = some (event, taken) ∧
        engine'.next = some (event, taken') ∧ taken.Akin d taken' := by
  rw [Engine.next, Engine.next, ← h.frames]
  split
  · exact .inr ⟨_, _, _, rfl, rfl, { h with frames := rfl }⟩
  · exact .inl ⟨rfl, rfl⟩

end Engine.Akin

/-! ## Sessions -/

/-- The same names are looked up in lists of listeners that are akin. -/
lemma lookup_akin {listeners listeners' : List (String × Listener)}
    (h : List.Forall₂ (fun a b => a.1 = b.1 ∧ a.2.Akin d b.2) listeners listeners')
    (name : String) :
    Option.Rel (Listener.Akin d) (listeners.lookup name) (listeners'.lookup name) := by
  induction h with
  | nil => exact .none
  | @cons a b listeners listeners' here _ ih =>
    obtain ⟨same, akin⟩ := here
    rw [List.lookup_cons, List.lookup_cons, same]
    split
    · exact .some akin
    · exact ih

namespace Session.Akin

variable {s t : Session} {event : Event} {data : Fields} {patch : Patch}

lemma scope (h : s.Akin d t) (data : Fields) : s.scope data = t.scope data := by
  rw [Session.scope, Session.scope, h.engine.library, h.store.document]

lemma listener? (h : s.Akin d t) (name : String) :
    Option.Rel (Listener.Akin d) (s.listener? name) (t.listener? name) :=
  lookup_akin h.listeners name

lemma withStore (h : s.Akin d t) {store store' : Store} (akin : store.Akin d store') :
    Session.Akin d { s with store } { t with store := store' } :=
  { h with store := akin }

lemma withEngine (h : s.Akin d t) {engine engine' : Engine} (akin : engine.Akin d engine') :
    Session.Akin d { s with engine } { t with engine := engine' } :=
  { h with engine := akin }

lemma record (h : s.Akin d t) {entry entry' : Entry} (akin : entry.Akin d entry') :
    (s.record entry).Akin d (t.record entry') :=
  { h with journal := .cons akin h.journal }

lemma recordSame (h : s.Akin d t) (entry : Entry) : (s.record entry).Akin d (t.record entry) :=
  h.record (.same entry)

lemma queue (h : s.Akin d t) (event : Event) : (s.queue event).Akin d (t.queue event) :=
  (h.withEngine (h.engine.queue event)).recordSame (.queued event)

lemma queueAll (h : s.Akin d t) (events : List Event) :
    (s.queueAll events).Akin d (t.queueAll events) := by
  induction events generalizing s t with
  | nil => exact h
  | cons event events ih => exact ih (h.queue event)

lemma recordFired (h : s.Akin d t) (outermost : Bool) (fired? : Option Nat) :
    (s.recordFired outermost fired?).Akin d (t.recordFired outermost fired?) := by
  cases outermost with
  | false => exact h
  | true => exact h.withEngine (h.engine.recordFired fired?)

lemma take (h : s.Akin d t) {engine engine' : Engine} (akin : engine.Akin d engine')
    (event : Event) : (s.take event engine).Akin d (t.take event engine') :=
  (h.withEngine akin).recordSame (.taken event)

lemma enter (h : s.Akin d t) (event : Event) (data : Fields) :
    (s.enter event data).Akin d (t.enter event data) :=
  (h.withEngine (h.engine.enter event data)).recordSame (.began event data)

lemma leave (h : s.Akin d t) : s.leave.Akin d t.leave :=
  (h.withEngine h.engine.leave).recordSame .ended

lemma commit (h : s.Akin d t) (patch : Patch) : (s.commit patch).Akin d (t.commit patch) := by
  have committed := h.store.commit patch
  rw [Session.commit, Session.commit, ← committed.document, ← h.store.document]
  exact (h.withStore committed).recordSame _

lemma close (h : s.Akin d t) : s.close.Akin d t.close := by
  have entries : Entry.Akin d (.closed s.store.text (!s.store.slot.failing))
      (.closed t.store.text (!t.store.slot.failing)) := by
    rw [h.store.text]
    cases d with
    | outcomes => exact .closed rfl _ _ _
    | limits =>
      have slot : s.store.slot = t.store.slot := h.store.slot
      rw [slot]
      exact .same _
  exact (h.withStore h.store.close).record entries

lemma adjust (h : s.Akin d t) (name : String) {f : Listener → Listener}
    (akin : ∀ {l l'}, Listener.Akin d l l' → (f l).Akin d (f l')) :
    (s.adjustListener name f).Akin d (t.adjustListener name f) := by
  refine { h with listeners := ?_ }
  refine List.forall₂_map_left_iff.2 (List.forall₂_map_right_iff.2 (h.listeners.imp ?_))
  rintro ⟨n, l⟩ ⟨n', l'⟩ ⟨same, like⟩
  obtain rfl : n = n' := same
  dsimp only
  split
  · exact ⟨rfl, akin like⟩
  · exact ⟨rfl, like⟩

lemma observe (h : s.Akin d t) (name : String) (paths : List String) (kind : ListenerKind)
    {script script' : List Request} (akin : Request.AllAkin d script script') (runs : Nat) :
    (s.observe name paths kind script runs).Akin d (t.observe name paths kind script' runs) := by
  refine { h with store := h.store.observe name paths, listeners := ?_ }
  have found := h.listener? name
  cases first : s.listener? name with
  | none =>
    cases second : t.listener? name with
    | none =>
      simp only [Session.observe, first, second]
      exact List.rel_append h.listeners (.cons ⟨rfl, rfl, rfl, akin, rfl⟩ .nil)
    | some l' =>
      rw [first, second] at found
      cases found
  | some l =>
    cases second : t.listener? name with
    | none =>
      rw [first, second] at found
      cases found
    | some l' =>
      simp only [Session.observe, first, second]
      exact h.listeners

end Session.Akin

end Reflex
