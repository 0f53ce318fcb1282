import Reflex.Proofs.Session.Basic
import Reflex.Proofs.Session.Journal
import Reflex.Session.Run

/-!
# Runs of a session

`Session.Runs` relates two moments of a session by the entries that the steps in between wrote.  It
has one constructor for each kind of step, and one for each of the three things that enclose other
steps: updates, invocations of listeners and dispatches.  Whatever is known of the steps is thus
known of every run by one induction.

* `Session.Runs.nested` and `Session.Runs.latest` say what a run writes and what it makes of the
  document.
* `Session.Runs.waiting` says what becomes of the events that wait.

That requests are answered by runs is the subject of `Reflex.Proofs.Session.Requests`.
-/

namespace Reflex

/-- The events that a dispatch takes over when it begins. -/
def Engine.inherited (engine : Engine) : List Event :=
  if engine.isIdle then engine.staged else []

namespace Session

/-- Steps that write nothing, and leave the document and the events that wait alone. -/
inductive Quiet : Session → Session → Prop
  | observe (s : Session) (name : String) (paths : List String) (kind : ListenerKind)
      (script : List Request) (runs : Nat) : Quiet s (s.observe name paths kind script runs)
  | unobserve (s : Session) (name : String) : Quiet s { s with store := s.store.unobserve name }
  | adjust (s : Session) (name : String) (f : Listener → Listener)
      (kind : ∀ l, (f l).kind = l.kind) : Quiet s (s.adjustListener name f)
  | failWrites (s : Session) (on : Bool) :
      Quiet s { s with store := { s.store with slot := { s.store.slot with off := on } } }
  | replace (s : Session) (program : Program) :
      Quiet s { s with engine := s.engine.replace program }
  | recordFired (s : Session) (outermost : Bool) (fired? : Option Nat) :
      Quiet s (s.recordFired outermost fired?)

/-- A run from one moment of a session to another, with the entries it writes in order.  Events are
taken out of the innermost frame only where the run is `taking`. -/
inductive Runs : (taking : Bool) → Session → List Entry → Session → Prop
  | done (taking : Bool) (s : Session) : Runs taking s [] s
  | andThen {taking : Bool} {s t u : Session} {es fs : List Entry} (first : Runs taking s es t)
      (second : Runs taking t fs u) : Runs taking s (es ++ fs) u
  | quiet (taking : Bool) {s t : Session} (step : Quiet s t) : Runs taking s [] t
  | selected (taking : Bool) (s : Session) (rule : Nat) :
      Runs taking s [.selected rule] (s.record (.selected rule))
  | answered (taking : Bool) (s : Session) (name : String) (answer : Answer) :
      Runs taking s [.answered name answer] (s.record (.answered name answer))
  | queue (taking : Bool) (s : Session) (event : Event) :
      Runs taking s [.queued event] (s.queue event)
  | take {s : Session} {event : Event} {engine : Engine}
      (next : s.engine.next = some (event, engine)) :
      Runs true s [.taken event] (s.take event engine)
  | update (taking : Bool) {s t : Session} {es : List Entry} (patch : Patch)
      (during : Runs false (s.commit patch) es t) :
      Runs taking s (.committed s.store.document (s.commit patch).store.document ::
        (es ++ [.closed t.store.text (!t.store.slot.failing)])) t.close
  | invocation (taking : Bool) {s t : Session} {es : List Entry} {name : String} {entry : Entry}
      (encloses : entry.Encloses (.returned name)) (during : Runs false (s.record entry) es t) :
      Runs taking s (entry :: (es ++ [.returned name])) (t.record (.returned name))
  | dispatch (taking : Bool) {s t : Session} {es : List Entry} (event : Event) (data : Fields)
      (during : Runs true (s.enter event data) es t) :
      Runs taking s (.began event data :: (es ++ [.ended])) t.leave

/-- What was added to the journal since an earlier moment. -/
lemma since_eq {s t : Session} {es : List Entry} (written : t.journal = es.reverse ++ s.journal) :
    s.since t = es := by
  have length : t.journal.length - s.journal.length = es.reverse.length := by
    rw [written, List.length_append, Nat.add_sub_cancel]
  rw [since, length, written, List.take_left, List.reverse_reverse]

namespace Runs

variable {taking : Bool} {s t : Session} {es : List Entry}

/-- A run that takes nothing may as well be one that takes. -/
lemma toTaking (h : Runs taking s es t) : Runs true s es t := by
  induction h with
  | done _ s => exact .done true s
  | andThen _ _ ih ih' => exact ih.andThen ih'
  | quiet _ step => exact .quiet true step
  | selected _ s rule => exact .selected true s rule
  | answered _ s name answer => exact .answered true s name answer
  | queue _ s event => exact .queue true s event
  | take next => exact .take next
  | update _ patch during _ => exact .update true patch during
  | invocation _ encloses during _ => exact .invocation true encloses during
  | dispatch _ event data during _ => exact .dispatch true event data during

/-! ## What a run writes -/

lemma journal_of_quiet (h : Quiet s t) : t.journal = s.journal := by
  cases h with
  | recordFired outermost fired? => cases outermost <;> rfl
  | _ => rfl

/-- A run adds its entries to the journal. -/
lemma journal (h : Runs taking s es t) : t.journal = es.reverse ++ s.journal := by
  induction h with
  | quiet _ step => exact journal_of_quiet step
  | andThen _ _ ih ih' => rw [ih', ih, List.reverse_append, List.append_assoc]
  | update _ patch _ ih => simp [close, commit, ih]
  | invocation _ _ _ ih => simp [ih]
  | dispatch _ event data _ ih => simp [leave, enter, ih]
  | _ => rfl

/-- All that begins in a run ends in it, the inner before the outer. -/
lemma nested (h : Runs taking s es t) : Nested es := by
  induction h with
  | done => exact .nil
  | andThen _ _ ih ih' => exact ih.append ih'
  | quiet => exact .nil
  | selected | answered | queue | take => exact .plain rfl .nil
  | update _ patch _ ih => exact .enclosed (.update _ _ _ _) ih .nil
  | invocation _ encloses _ ih => exact .enclosed encloses ih .nil
  | dispatch _ event data _ ih => exact .dispatch event data ih .nil

lemma document_of_quiet (h : Quiet s t) : t.store.document = s.store.document := by
  cases h with
  | recordFired outermost fired? => rw [store_recordFired]
  | _ => rfl

/-- The document is what the last update of a run has made of it. -/
lemma latest (h : Runs taking s es t) :
    t.store.document = Entry.latest s.store.document es := by
  induction h with
  | quiet _ step => exact document_of_quiet step
  | andThen _ _ ih ih' => rw [ih', ih, Entry.latest_append]
  | update _ patch _ ih =>
    rw [Entry.latest, Entry.latest_append]
    exact ih
  | invocation _ encloses _ ih =>
    cases encloses <;> (rw [Entry.latest, Entry.latest_append]; exact ih; simp)
  | dispatch _ event data _ ih =>
    rw [Entry.latest, Entry.latest_append]
    · exact ih
    · simp
  | _ => rfl

/-! ## What becomes of the events that wait -/

lemma frames_of_quiet (h : Quiet s t) :
    t.engine.frames = s.engine.frames ∧ t.engine.staged = s.engine.staged := by
  cases h with
  | recordFired outermost fired? =>
    cases outermost with
    | false => exact ⟨rfl, rfl⟩
    | true => cases fired? <;> exact ⟨rfl, rfl⟩
  | _ => exact ⟨rfl, rfl⟩

lemma frames_enter {event : Event} {data : Fields} :
    (s.enter event data).engine.frames = s.engine.inherited :: s.engine.frames := by
  cases frames : s.engine.frames <;>
    simp [enter, Engine.enter, Engine.inherited, Engine.isIdle, frames]

lemma staged_enter {event : Event} {data : Fields} : (s.enter event data).engine.staged =
    if s.engine.isIdle then [] else s.engine.staged := by
  cases frames : s.engine.frames <;> simp [enter, Engine.enter, Engine.isIdle, frames]

/-- What a run makes of the events that wait: without a dispatch under way it ends without one, and
otherwise it draws on the innermost frame and leaves all other events where they are. -/
structure Waiting (s t : Session) (es : List Entry) : Prop where
  idle : s.engine.frames = [] → t.engine.frames = []
  busy : ∀ frame frames, s.engine.frames = frame :: frames →
    ∃ frame' taken, t.engine.frames = frame' :: frames ∧ t.engine.staged = s.engine.staged ∧
      Draws frame (Entry.own es) taken frame'

namespace Waiting

lemma of_eq (frames : t.engine.frames = s.engine.frames)
    (staged : t.engine.staged = s.engine.staged) : Waiting s t [] where
  idle := fun idle => frames.trans idle
  busy := fun frame _ busy => ⟨frame, [], frames.trans busy, staged, .nil frame⟩

lemma andThen {u : Session} {fs : List Entry} (nested : Nested es) (h : Waiting s t es)
    (h' : Waiting t u fs) : Waiting s u (es ++ fs) where
  idle := fun idle => h'.idle (h.idle idle)
  busy := by
    intro frame frames busy
    obtain ⟨frame', taken, busy', staged, draws⟩ := h.busy frame frames busy
    obtain ⟨frame'', taken', busy'', staged', draws'⟩ := h'.busy frame' frames busy'
    refine ⟨frame'', taken ++ taken', busy'', staged'.trans staged, ?_⟩
    rw [Entry.own_append nested]
    exact draws.append draws'

lemma enclosed {s' t' : Session} {first last : Entry} (encloses : first.Encloses last)
    (nested : Nested es) (h : Waiting s t es) (engine : s'.engine = s.engine)
    (engine' : t'.engine = t.engine) : Waiting s' t' (first :: (es ++ [last])) where
  idle := fun idle => engine' ▸ h.idle (engine ▸ idle)
  busy := by
    intro frame frames busy
    obtain ⟨frame', taken, busy', staged, draws⟩ := h.busy frame frames (engine ▸ busy)
    refine ⟨frame', taken, engine' ▸ busy', by rw [engine, engine', staged], ?_⟩
    rw [Entry.own_enclosed encloses nested]
    exact draws.enclosed encloses

/-- A dispatch puts a frame on the others and takes it away again. -/
lemma dispatch {event : Event} {data : Fields} (nested : Nested es)
    (h : Waiting (s.enter event data) t es) :
    Waiting s t.leave (.began event data :: (es ++ [.ended])) := by
  obtain ⟨frame', -, busy', staged, -⟩ := h.busy _ _ frames_enter
  have left : t.leave.engine.frames = s.engine.frames := by simp [leave, Engine.leave, busy']
  refine ⟨fun idle => left.trans idle, fun frame frames busy => ?_⟩
  have kept : (s.enter event data).engine.staged = s.engine.staged := by
    simp [staged_enter, Engine.isIdle, busy]
  refine ⟨frame, [], left.trans busy, staged.trans kept, ?_⟩
  rw [Entry.own_dispatch event data nested]
  exact .nil frame

end Waiting

/-- A run draws on the innermost frame only. -/
theorem waiting (h : Runs taking s es t) : Waiting s t es := by
  induction h with
  | done _ s => exact .of_eq rfl rfl
  | andThen first _ ih ih' => exact ih.andThen first.nested ih'
  | quiet _ step => exact .of_eq (frames_of_quiet step).1 (frames_of_quiet step).2
  | selected _ s rule =>
    exact ⟨id, fun frame _ busy => ⟨frame, [], busy, rfl, .other rfl rfl (.nil frame)⟩⟩
  | answered _ s name answer =>
    exact ⟨id, fun frame _ busy => ⟨frame, [], busy, rfl, .other rfl rfl (.nil frame)⟩⟩
  | queue _ s event =>
    refine ⟨fun idle => by simp [Engine.queue, idle], fun frame frames busy => ?_⟩
    exact ⟨event :: frame, [], by simp [Engine.queue, busy], by simp [Engine.queue, busy],
      .queued (.nil _)⟩
  | @take s event engine next =>
    refine ⟨fun idle => by simp [Engine.next, idle] at next, fun frame frames busy => ?_⟩
    -- An event was given out, so there was one on top of the frame.
    cases frame with
    | nil => simp [Engine.next, busy] at next
    | cons top frame =>
      obtain ⟨rfl, rfl⟩ : top = event ∧ { s.engine with frames := frame :: frames } = engine := by
        simpa [Engine.next, busy] using next
      exact ⟨frame, [top], rfl, rfl, .taken (.nil frame)⟩
  | update _ patch during ih =>
    exact ih.enclosed (.update _ _ _ _) during.nested engine_commit.symm engine_close
  | invocation _ encloses during ih => exact ih.enclosed encloses during.nested rfl rfl
  | dispatch _ event data during ih => exact ih.dispatch during.nested

/-- A run that is not taking takes nothing out of the innermost frame. -/
lemma taken_eq_nil (h : Runs false s es t) : (Entry.own es).filterMap Entry.taken? = [] := by
  -- What a dispatch takes is its own, so that only the index has to be followed.
  generalize quiet : false = taking at h
  induction h with
  | andThen first _ ih ih' =>
    rw [Entry.own_append first.nested, List.filterMap_append, ih quiet, ih' quiet]
    rfl
  | take => cases quiet
  | update _ patch during ih =>
    rw [Entry.own_enclosed (.update _ _ _ _) during.nested, List.filterMap_cons_none rfl,
      List.filterMap_append, ih rfl]
    rfl
  | invocation _ encloses during ih =>
    rw [Entry.own_enclosed encloses during.nested,
      List.filterMap_cons_none encloses.taken?_eq_none.1, List.filterMap_append, ih rfl]
    rfl
  | dispatch _ event data during _ => rw [Entry.own_dispatch event data during.nested]; rfl
  | _ => rfl

end Runs

end Session

end Reflex
