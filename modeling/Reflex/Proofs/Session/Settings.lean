import Reflex.Proofs.Session.Cycles

/-!
# Settings that cycles do not see

Of an engine, the cycles of a dispatch see the library, the events that wait and the record; its
limits and the rules in force matter only when a dispatch begins.  Where there are no listeners,
cycles therefore have the same results when such a setting is another, and leave it as it is.

* `Engine.Unseen` is about changes to an engine that cycles do not see.
* `Session.cycle_mapEngine`, `Session.Answered.mapEngine` and `Session.Ends.mapEngine` say that
  cycles do not see them.
-/

namespace Reflex

/-- A change to the settings of an engine that cycles do not see.  Neither the library nor the
events that wait nor the record are among these settings. -/
structure Engine.Unseen (f : Engine → Engine) : Prop where
  library (engine : Engine) : (f engine).library = engine.library
  frames (engine : Engine) : (f engine).frames = engine.frames
  staged (engine : Engine) : (f engine).staged = engine.staged
  last (engine : Engine) : (f engine).last = engine.last
  withFrames (engine : Engine) (frames : List (List Event)) :
    f { engine with frames } = { f engine with frames }
  withStaged (engine : Engine) (staged : List Event) :
    f { engine with staged } = { f engine with staged }
  withLast (engine : Engine) (last : DispatchRecord) :
    f { engine with last } = { f engine with last }

namespace Engine.Unseen

variable {f : Engine → Engine} {engine : Engine}

lemma isIdle (h : Unseen f) : (f engine).isIdle = engine.isIdle := by
  rw [Engine.isIdle, Engine.isIdle, h.frames]

lemma queue (h : Unseen f) (event : Event) : f (engine.queue event) = (f engine).queue event := by
  rw [Engine.queue, Engine.queue, h.frames]
  split
  · have staged := h.withStaged engine (event :: engine.staged)
    simpa only [h.frames, h.staged] using staged
  · exact h.withFrames engine _

lemma next (h : Unseen f) :
    (f engine).next = engine.next.map fun (event, engine) => (event, f engine) := by
  rw [Engine.next, Engine.next, h.frames]
  split
  · rename_i event frame frames _
    have framed := h.withFrames engine (frame :: frames)
    simp only [Option.map_some, framed]
  · rfl

lemma recordFired (h : Unseen f) (fired? : Option Nat) :
    f (engine.recordFired fired?) = (f engine).recordFired fired? := by
  unfold Engine.recordFired
  split
  · rw [h.last]
    exact h.withLast engine _
  · rfl

lemma enter (h : Unseen f) (event : Event) (data : Fields) :
    f (engine.enter event data) = (f engine).enter event data := by
  rw [Engine.enter, Engine.enter, h.isIdle]
  split
  · let framed : Engine := { engine with frames := [engine.staged] }
    let emptied : Engine := { framed with staged := [] }
    have recorded := h.withLast emptied ⟨event.origin, event.name, data, none⟩
    rw [h.withStaged framed [], h.withFrames engine [engine.staged]] at recorded
    rw [h.staged]
    exact recorded
  · rw [h.frames]
    exact h.withFrames engine _

lemma leave (h : Unseen f) : f engine.leave = (f engine).leave := by
  rw [Engine.leave, Engine.leave, h.frames]
  exact h.withFrames engine _

end Engine.Unseen

namespace Session

variable {react : Reaction} {rules : List CompiledRule} {rule : CompiledRule} {event event' : Event}
  {data data' : Fields} {s t u last : Session} {outermost : Bool} {done : Outcome}
  {n : Nat} {ended : Except EngineError Cycle} {result : Except EngineError Outcome}
  {f : Engine → Engine}

/-- The session with its engine changed. -/
def mapEngine (f : Engine → Engine) (s : Session) : Session :=
  { s with engine := f s.engine }

@[simp] lemma store_mapEngine : (s.mapEngine f).store = s.store := rfl

lemma scope_mapEngine (unseen : Engine.Unseen f) : (s.mapEngine f).scope data = s.scope data := by
  rw [scope, mapEngine, unseen.library]
  rfl

lemma queueAll_mapEngine (unseen : Engine.Unseen f) (events : List Event) :
    (s.mapEngine f).queueAll events = (s.queueAll events).mapEngine f := by
  induction events generalizing s with
  | nil => rfl
  | cons event events ih =>
    have queued : (s.mapEngine f).queue event = (s.queue event).mapEngine f := by
      rw [queue, mapEngine, ← unseen.queue]
      rfl
    change ((s.mapEngine f).queue event).queueAll events = _
    rw [queued, ih]
    rfl

lemma considering_mapEngine (unseen : Engine.Unseen f) :
    (s.mapEngine f).considering rules event data =
      (s.considering rules event data).mapEngine f := by
  rw [considering, scope_mapEngine unseen]
  exact queueAll_mapEngine unseen _

lemma firing_mapEngine (unseen : Engine.Unseen f) :
    (s.mapEngine f).firing rules event data rule =
      (s.firing rules event data rule).mapEngine f := by
  rw [firing, considering_mapEngine unseen, scope_mapEngine unseen]
  exact queueAll_mapEngine (s := (s.considering rules event data).record _) unseen _

lemma recordFired_mapEngine (unseen : Engine.Unseen f) {fired? : Option Nat} :
    (s.mapEngine f).recordFired outermost fired? =
      (s.recordFired outermost fired?).mapEngine f := by
  cases outermost with
  | false => rfl
  | true => exact congrArg (fun engine => { s with engine }) (unseen.recordFired fired?).symm

lemma next_mapEngine (unseen : Engine.Unseen f) : (s.mapEngine f).engine.next =
    s.engine.next.map fun (event, engine) => (event, f engine) :=
  unseen.next

lemma enter_mapEngine (unseen : Engine.Unseen f) :
    (s.mapEngine f).enter event data = (s.enter event data).mapEngine f := by
  rw [enter, mapEngine, ← unseen.enter]
  rfl

lemma leave_mapEngine (unseen : Engine.Unseen f) :
    (s.mapEngine f).leave = s.leave.mapEngine f := by
  rw [leave, mapEngine, ← unseen.leave]
  rfl

/-! ## Cycles without listeners -/

lemma unwatched_of_store_eq (unwatched : s.store.registrations = []) (same : t.store = s.store) :
    t.store.registrations = [] :=
  (congrArg Store.registrations same).trans unwatched

/-- Where nobody is registered a cycle leaves the store alone or applies a patch to it. -/
lemma store_of_cycle (unwatched : s.store.registrations = [])
    (concluded : cycle react rules event data s = (ended, t)) :
    t.store = s.store ∨ ∃ patch, t.store = (s.store.commit patch).close := by
  cases concludes_of_cycle_eq concluded with
  | unanswered nobody => exact .inl store_considering
  | fails selected failed => exact .inl store_firing
  | refused selected computed full => exact .inl store_firing
  | @fires rule patch selected computed admitted =>
    have firing : (s.firing rules event data rule).store.registrations = [] :=
      unwatched_of_store_eq unwatched store_firing
    rw [update_of_alone firing]
    split
    · exact .inl store_firing
    · exact .inr ⟨patch, by rw [store_close, store_commit, store_firing]⟩

/-- Nobody is registered when a cycle is over if nobody was before. -/
lemma unwatched_of_cycle (unwatched : s.store.registrations = [])
    (concluded : cycle react rules event data s = (ended, t)) : t.store.registrations = [] := by
  rcases store_of_cycle unwatched concluded with same | ⟨patch, patched⟩
  · exact unwatched_of_store_eq unwatched same
  · exact (congrArg Store.registrations patched).trans unwatched

lemma update_mapEngine (unwatched : s.store.registrations = []) (patch : Patch) :
    (s.mapEngine f).update react patch =
      ((s.update react patch).1, (s.update react patch).2.mapEngine f) := by
  have unwatched' : (s.mapEngine f).store.registrations = [] := unwatched
  rw [update_of_alone unwatched, update_of_alone unwatched', store_mapEngine]
  split <;> rfl

/-- A cycle does not see the change. -/
lemma cycle_mapEngine (unseen : Engine.Unseen f) (unwatched : s.store.registrations = []) :
    cycle react rules event data (s.mapEngine f) =
      ((cycle react rules event data s).1, (cycle react rules event data s).2.mapEngine f) := by
  rw [cycle_eq, cycle_eq, scope_mapEngine unseen]
  cases (CompiledRule.select (s.scope data) event.origin rules).1 with
  | none => simp only [considering_mapEngine unseen]
  | some rule =>
    simp only [fire_considering, scope_mapEngine unseen, firing_mapEngine unseen]
    cases (rule.patch (s.scope data)).1 with
    | error failure => rfl
    | ok patch =>
      have firing : (s.firing rules event data rule).store.registrations = [] :=
        unwatched_of_store_eq unwatched store_firing
      simp only [update_mapEngine firing]
      cases ((s.firing rules event data rule).update react patch).1 <;> rfl

/-- Cycles do not see the change. -/
lemma Answered.mapEngine (unseen : Engine.Unseen f) (unwatched : s.store.registrations = [])
    (answered : Answered react rules outermost event data s done event' data' u) :
    Answered react rules outermost event data (s.mapEngine f) done event' data'
      (u.mapEngine f) := by
  induction answered with
  | nil event data s => exact .nil event data _
  | @cons event event' _ data _ s t _ final _ engine succeeds next rest ih =>
    have after : t.store.registrations = [] := unwatched_of_cycle unwatched succeeds
    have succeeds' : cycle react rules event data (s.mapEngine f) =
        (.ok final, t.mapEngine f) := by
      rw [cycle_mapEngine unseen unwatched, succeeds]
    have next' : ((t.mapEngine f).recordFired outermost final.fired?).engine.next =
        some (event', f engine) := by
      rw [recordFired_mapEngine unseen, next_mapEngine unseen, next]
      rfl
    refine .cons succeeds' next' ?_
    rw [recordFired_mapEngine unseen]
    exact ih (unwatched_of_store_eq after store_recordFired)

/-- Nobody is registered after cycles that succeed if nobody was before. -/
lemma unwatched_answered (unwatched : s.store.registrations = [])
    (answered : Answered react rules outermost event data s done event' data' u) :
    u.store.registrations = [] :=
  answered.preserves unwatched_of_store_eq unwatched_of_cycle unwatched

/-- Cycles come to the same end whether or not the change is made. -/
lemma Ends.mapEngine (unseen : Engine.Unseen f) (unwatched : s.store.registrations = [])
    (ends : Ends react rules outermost event data s n result last) :
    Ends react rules outermost event data (s.mapEngine f) n result (last.mapEngine f) := by
  cases ends with
  | @exhausted done event' data' u t final before succeeds empty =>
    rw [← recordFired_mapEngine unseen]
    refine .exhausted (before.mapEngine unseen unwatched) ?_ ?_
    · rw [cycle_mapEngine unseen (unwatched_answered unwatched before), succeeds]
    · rw [recordFired_mapEngine unseen, next_mapEngine unseen, empty]
      rfl
  | fails before failed =>
    refine .fails (before.mapEngine unseen unwatched) ?_
    rw [cycle_mapEngine unseen (unwatched_answered unwatched before), failed]

end Session

end Reflex
