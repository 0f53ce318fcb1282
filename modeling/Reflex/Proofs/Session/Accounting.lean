import Reflex.Proofs.Session.Moments
import Reflex.Proofs.Session.Notification

/-!
# Counting the calls under way

The store counts the updates under way and the engine keeps a frame for each dispatch under way, so
that both can refuse to go deeper.  `Session.calls_are_accounted` says that the two counts are right
at every moment of a session, also in the middle of a listener, that neither goes beyond its limit,
and that what is put on is taken off, however an update or a dispatch ends.  The frames below the
innermost one belong to dispatches that wait for the one inside of them, which leaves them alone.

* `Session.Accounted` is what one step preserves of the counts.
* `Session.Shields` is what one step inside of a dispatch preserves of the frames outside of it.
-/

namespace Reflex.Session

namespace Call

/-- Whether a call is an update. -/
def isUpdate : Call → Bool
  | .update _ => true
  | _ => false

/-- Whether a call is a dispatch. -/
def isDispatch : Call → Bool
  | .dispatch => true
  | _ => false

/-- How many of the calls are updates. -/
def updates (calls : List Call) : Nat :=
  calls.countP isUpdate

/-- How many of the calls are dispatches. -/
def dispatches (calls : List Call) : Nat :=
  calls.countP isDispatch

variable {calls : List Call}

@[simp] lemma updates_update {rs : List Registration} :
    updates (.update rs :: calls) = updates calls + 1 :=
  List.countP_cons_of_pos rfl

@[simp] lemma dispatches_dispatch : dispatches (.dispatch :: calls) = dispatches calls + 1 :=
  List.countP_cons_of_pos rfl

end Call

/-- The counts of a session are those of the calls under way, and within the limits. -/
structure Accounted (options : SessionOptions) (m : Moment) : Prop where
  maxDepth : m.session.store.maxDepth = options.maxUpdateDepth
  maxNesting : m.session.engine.maxNesting = options.maxNesting
  depth : m.session.store.depth = Call.updates m.calls
  frames : m.session.engine.frames.length = Call.dispatches m.calls
  updates_le : Call.updates m.calls ≤ options.maxUpdateDepth
  dispatches_le : Call.dispatches m.calls ≤ options.maxNesting

variable {options : SessionOptions} {library : Library} {rules : RuleSet} {text? : Option String}
  {first s t : Session} {m n : Moment} {calls calls' base : List Call} {react : Reaction}
  {event : Event} {data : Fields} {outer : List (List Event)}

/-! ## What the operations do to the counts -/

lemma limits_of_quiet (h : Quiet s t) : t.store.depth = s.store.depth ∧
    t.store.maxDepth = s.store.maxDepth ∧ t.engine.maxNesting = s.engine.maxNesting := by
  cases h with
  | recordFired outermost fired? =>
    cases outermost with
    | false => exact ⟨rfl, rfl, rfl⟩
    | true => cases fired? <;> exact ⟨rfl, rfl, rfl⟩
  | _ => exact ⟨rfl, rfl, rfl⟩

lemma frames_queue (frame : List Event) (frames : List (List Event))
    (busy : s.engine.frames = frame :: frames) :
    (s.queue event).engine.frames = (event :: frame) :: frames := by
  simp [Engine.queue, busy]

lemma length_frames_queue : (s.queue event).engine.frames.length = s.engine.frames.length := by
  cases frames : s.engine.frames <;> simp [Engine.queue, frames]

lemma maxNesting_queue : (s.queue event).engine.maxNesting = s.engine.maxNesting := by
  rw [engine_queue, Engine.queue]
  split <;> rfl

lemma maxNesting_enter : (s.enter event data).engine.maxNesting = s.engine.maxNesting := by
  rw [enter, engine_record, Engine.enter]
  split <;> rfl

namespace Accounted

/-- What changes none of the counts keeps them right. -/
lemma congr (h : Accounted options ⟨calls, s⟩)
    (updates : Call.updates calls' = Call.updates calls)
    (dispatches : Call.dispatches calls' = Call.dispatches calls)
    (depth : t.store.depth = s.store.depth) (maxDepth : t.store.maxDepth = s.store.maxDepth)
    (frames : t.engine.frames.length = s.engine.frames.length)
    (maxNesting : t.engine.maxNesting = s.engine.maxNesting) : Accounted options ⟨calls', t⟩ where
  maxDepth := maxDepth.trans h.maxDepth
  maxNesting := maxNesting.trans h.maxNesting
  depth := (depth.trans h.depth).trans updates.symm
  frames := (frames.trans h.frames).trans dispatches.symm
  updates_le := updates.trans_le h.updates_le
  dispatches_le := dispatches.trans_le h.dispatches_le

lemma commit {patch : Patch} (h : Accounted options ⟨calls, s⟩)
    (admitted : s.store.depth < s.store.maxDepth) :
    Accounted options ⟨.update (s.watchers patch) :: calls, s.commit patch⟩ where
  maxDepth := h.maxDepth
  maxNesting := h.maxNesting
  depth := (congrArg (· + 1) h.depth).trans Call.updates_update.symm
  frames := h.frames
  updates_le := by
    rw [h.depth, h.maxDepth] at admitted
    exact Call.updates_update.trans_le admitted
  dispatches_le := h.dispatches_le

lemma close (h : Accounted options ⟨.update [] :: calls, s⟩) :
    Accounted options ⟨calls, s.close⟩ where
  maxDepth := h.maxDepth
  maxNesting := h.maxNesting
  depth := congrArg (· - 1) (h.depth.trans Call.updates_update)
  frames := h.frames
  updates_le := Nat.le_of_succ_le (Call.updates_update.symm.trans_le h.updates_le)
  dispatches_le := h.dispatches_le

lemma enter (h : Accounted options ⟨calls, s⟩)
    (admitted : s.engine.frames.length < s.engine.maxNesting) :
    Accounted options ⟨.dispatch :: calls, s.enter event data⟩ where
  maxDepth := h.maxDepth
  maxNesting := maxNesting_enter.trans h.maxNesting
  depth := h.depth
  frames := by
    rw [Runs.frames_enter, Call.dispatches_dispatch, List.length_cons]
    exact congrArg (· + 1) h.frames
  updates_le := h.updates_le
  dispatches_le := by
    rw [h.frames, h.maxNesting] at admitted
    exact Call.dispatches_dispatch.trans_le admitted

lemma leave (h : Accounted options ⟨.dispatch :: calls, s⟩) :
    Accounted options ⟨calls, s.leave⟩ where
  maxDepth := h.maxDepth
  maxNesting := h.maxNesting
  depth := h.depth
  frames := by
    rw [Session.leave, engine_record, Engine.leave, List.length_tail]
    exact congrArg (· - 1) (h.frames.trans Call.dispatches_dispatch)
  updates_le := h.updates_le
  dispatches_le := Nat.le_of_succ_le (Call.dispatches_dispatch.symm.trans_le h.dispatches_le)

/-- Every step keeps the counts right. -/
lemma step (h : Accounted options m) (step : Advance m n) : Accounted options n := by
  cases step with
  | quiet calls step =>
    obtain ⟨depth, maxDepth, maxNesting⟩ := limits_of_quiet step
    exact h.congr rfl rfl depth maxDepth (congrArg List.length (Runs.frames_of_quiet step).1)
      maxNesting
  | queue calls s event => exact h.congr rfl rfl rfl rfl length_frames_queue maxNesting_queue
  | take calls next =>
    obtain ⟨frame, frames, busy, rfl⟩ := next_eq_some_iff.1 next
    exact h.congr rfl rfl rfl rfl (by simp [Session.take, busy]) rfl
  | commit calls patch admitted => exact h.commit admitted
  | close calls s => exact h.close
  | enter calls event data admitted => exact h.enter admitted
  | leave calls s => exact h.leave
  | _ => exact h.congr rfl rfl rfl rfl rfl rfl

lemma course (h : Accounted options m) (course : Course m n) : Accounted options n := by
  induction course with
  | refl => exact h
  | tail _ last ih => exact ih.step last

end Accounted

/-- When a session has been started nothing is under way. -/
lemma accounted_of_start (started : start options library rules text? = .ok first) :
    Accounted options ⟨[], first⟩ := by
  obtain ⟨document, program, -, -, rfl⟩ := start_eq_ok_iff.1 started
  exact ⟨rfl, rfl, rfl, rfl, Nat.zero_le _, Nat.zero_le _⟩

/-! ## The frames outside of a dispatch -/

/-- A dispatch is under way on the calls of a base, and the frames that were there when it began are
below those of the dispatches that began since. -/
structure Shields (outer : List (List Event)) (base : List Call) (m : Moment) : Prop where
  inside : .dispatch :: base <:+ m.calls
  split : ∃ inner, m.session.engine.frames = inner ++ outer ∧
    Call.dispatches m.calls = inner.length + Call.dispatches base

namespace Shields

/-- The innermost frame is not one of those outside. -/
lemma exists_frame (h : Shields outer base m) : ∃ frame inner,
    m.session.engine.frames = frame :: (inner ++ outer) ∧
      Call.dispatches m.calls = inner.length + Call.dispatches base + 1 := by
  obtain ⟨inner, frames, count⟩ := h.split
  have more : Call.dispatches (.dispatch :: base) ≤ Call.dispatches m.calls :=
    h.inside.sublist.countP_le
  rw [Call.dispatches_dispatch] at more
  cases inner with
  | nil =>
    rw [List.length_nil] at count
    omega
  | cons frame inner => exact ⟨frame, inner, frames, count.trans (Nat.add_right_comm _ _ _)⟩

/-- Every step inside of the dispatch leaves the frames outside alone. -/
lemma step (h : Shields outer base m) (step : Advance m n) (inside : .dispatch :: base <:+ n.calls) :
    Shields outer base n := by
  obtain ⟨frame, inner, busy, count⟩ := h.exists_frame
  have unchanged : Call.dispatches m.calls = (frame :: inner).length + Call.dispatches base :=
    count.trans (Nat.add_right_comm _ _ _)
  refine ⟨inside, ?_⟩
  cases step with
  | quiet calls step =>
    exact ⟨frame :: inner, (Runs.frames_of_quiet step).1.trans busy, unchanged⟩
  | queue calls s event =>
    exact ⟨(event :: frame) :: inner, frames_queue frame (inner ++ outer) busy, unchanged⟩
  | take calls next =>
    obtain ⟨rest, frames, top, rfl⟩ := next_eq_some_iff.1 next
    obtain ⟨rfl, rfl⟩ := List.cons.inj (top.symm.trans busy)
    exact ⟨rest :: inner, rfl, unchanged⟩
  | enter calls event data admitted =>
    refine ⟨_ :: frame :: inner, Runs.frames_enter.trans (congrArg _ busy), ?_⟩
    rw [Call.dispatches_dispatch, List.length_cons, Nat.add_right_comm]
    exact congrArg (· + 1) unchanged
  | leave calls s =>
    rw [Call.dispatches_dispatch] at count
    exact ⟨inner, congrArg List.tail busy, Nat.succ.inj count⟩
  | _ => exact ⟨frame :: inner, busy, unchanged⟩

end Shields

/-- From its beginning to its end a dispatch leaves the frames outside alone. -/
lemma shields_of_within {P : Moment → Prop}
    (inside : Within P (.dispatch :: calls) ⟨.dispatch :: calls, s.enter event data⟩ m) :
    Shields s.engine.frames calls m := by
  induction inside with
  | refl =>
    exact ⟨List.suffix_refl _, [s.engine.inherited], Runs.frames_enter,
      Call.dispatches_dispatch.trans (Nat.add_comm _ _)⟩
  | tail _ last ih => exact ih.step last.1 last.2.1

/-- A dispatch leaves the frames as it found them. -/
lemma frames_dispatch {o : Moment} (lawful : Lawful (Course o) react)
    (reached : Course o ⟨calls, s⟩) :
    (s.dispatch react event data).2.engine.frames = s.engine.frames := by
  rw [dispatch]
  split
  · rfl
  · rename_i admitted
    have begun := reached.tail (.enter calls event data (Nat.not_le.1 admitted))
    have inside := passes_drain (stable_course o) lawful s.engine.program.rules s.engine.isIdle
      s.engine.maxCycles event data _ begun
    obtain ⟨frame, inner, frames, count⟩ := (shields_of_within inside).exists_frame
    -- Only the call of this dispatch is left, so that its frame is the only one above the others.
    rw [Call.dispatches_dispatch] at count
    obtain rfl : inner = [] := List.length_eq_zero_iff.1 (by omega)
    exact congrArg List.tail frames

/-- **The calls under way are accounted for.**  A session is started, and listeners may do whatever
a course allows.  At every moment, in the middle of listeners too, the depth of the store is the
number of updates under way and at most the limit on updates, and there are as many frames as
dispatches under way and at most the limit on dispatches.  Whenever an update or a dispatch is over,
whatever it answers, the depth and the number of frames are as it found them, and a dispatch leaves
all frames with the events and the order that they had; they are as they were already at every
moment inside of the dispatch.  The moments are those of the session as it runs: requests are
answered by courses from any moment, the scripts of listeners are such courses, and so every session
that requests leave behind is one of these moments. -/
theorem calls_are_accounted (started : start options library rules text? = .ok first) :
    (∀ m, Course ⟨[], first⟩ m →
      m.session.store.depth = Call.updates m.calls ∧
      Call.updates m.calls ≤ options.maxUpdateDepth ∧
      m.session.engine.frames.length = Call.dispatches m.calls ∧
      Call.dispatches m.calls ≤ options.maxNesting) ∧
    (∀ react, Lawful (Course ⟨[], first⟩) react → ∀ calls s, Course ⟨[], first⟩ ⟨calls, s⟩ →
      (∀ patch, (s.update react patch).2.store.depth = s.store.depth ∧
        (s.update react patch).2.engine.frames.length = s.engine.frames.length) ∧
      (∀ event data, (s.dispatch react event data).2.store.depth = s.store.depth ∧
        (s.dispatch react event data).2.engine.frames = s.engine.frames) ∧
      ∀ request, Course ⟨calls, s⟩ ⟨calls, (s.perform react request).2⟩) ∧
    (∀ (calls : List Call) (s : Session) (event : Event) (data : Fields) (m : Moment),
      Within (Course ⟨[], first⟩) (.dispatch :: calls) ⟨.dispatch :: calls, s.enter event data⟩ m →
      s.engine.frames <:+ m.session.engine.frames) ∧
    (∀ depth, Lawful (Course ⟨[], first⟩) (Session.react depth)) ∧
    ∀ requests, ∀ step ∈ first.run requests, Course ⟨[], first⟩ ⟨[], step.2⟩ := by
  have accounted : ∀ m, Course ⟨[], first⟩ m → Accounted options m :=
    fun m course => (accounted_of_start started).course course
  have stable : Stable (fun _ => True) (Course ⟨[], first⟩) := stable_course _
  have lawful_scripts : ∀ depth, Lawful (Course ⟨[], first⟩) (Session.react depth) :=
    lawful_react stable fun _ _ _ _ _ _ _ _ => trivial
  refine ⟨fun m course => ?_, fun react lawful calls s reached => ⟨fun patch => ?_, fun event data =>
    ?_, fun request => ?_⟩, fun calls s event data m inside => ?_, lawful_scripts,
    fun requests step mem => ?_⟩
  · have h := accounted m course
    exact ⟨h.depth, h.updates_le, h.frames, h.dispatches_le⟩
  · have before := accounted _ reached
    have after := accounted _ ((passes_update stable lawful patch s reached).after reached)
    exact ⟨after.depth.trans before.depth.symm, after.frames.trans before.frames.symm⟩
  · have before := accounted _ reached
    have after := accounted _ ((passes_dispatch stable lawful event data s reached).after reached)
    exact ⟨after.depth.trans before.depth.symm, frames_dispatch lawful reached⟩
  · exact (within_perform stable lawful reached trivial).course
  · obtain ⟨inner, frames, -⟩ := (shields_of_within inside).split
    exact ⟨inner, frames.symm⟩
  · have closed := closed_passes stable (lawful_scripts (Request.totalRuns requests)) []
    exact (closed.runWith (fun _ _ => trivial) first step mem .refl).course

/-- A listener that dispatches an event when it is told of a change of `a`. -/
def dispatchingView : Session :=
  freshSession.observe "view" ["a"] .callback [.dispatch ⟨"b", "click"⟩ []] 1

/-- While an update tells a listener that dispatches an event, one update and one dispatch are under
way, and none is when the update is over. -/
theorem view_dispatches_in_update :
    ∃ m, Course ⟨[], freshSession⟩ m ∧
      m.calls = [.dispatch, .invocation "view", .update []] ∧ m.session.store.depth = 1 ∧
      m.session.engine.frames.length = 1 ∧
      (dispatchingView.update (Session.react 1) [("a", .set .null)]).2.store.depth = 0 := by
  have started : start .default .standard [] none = .ok freshSession := rfl
  obtain ⟨counts, leaves, -, lawful, -⟩ := calls_are_accounted started
  have observed : Course ⟨[], freshSession⟩ ⟨[], dispatchingView⟩ :=
    .single (.quiet [] (.observe freshSession "view" ["a"] .callback _ 1))
  have watched : dispatchingView.watchers [("a", .set .null)] = [⟨"view", ["a"]⟩] := by
    decide +kernel
  have committed := observed.tail (.commit [] [("a", .set .null)] (by decide))
  rw [watched] at committed
  have told := committed.tail (.callback [] [] rfl rfl)
  have dispatched := told.tail (.enter _ ⟨"b", "click"⟩ [] (by decide))
  obtain ⟨depth, -, frames, -⟩ := counts _ dispatched
  obtain ⟨updates, -, -⟩ := leaves (Session.react 1) (lawful 1) [] dispatchingView observed
  exact ⟨_, dispatched, rfl, depth, frames, (updates _).1⟩

end Reflex.Session
