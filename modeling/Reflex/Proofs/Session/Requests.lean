import Reflex.Proofs.Result
import Reflex.Proofs.Session.Closure
import Reflex.Proofs.Session.Firing

/-!
# Requests are answered by runs

Every operation of a session is a run, provided that what listeners do in the meantime is one.
Nothing else is asked of listeners here: they may choose what to do next by anything they have seen.
The scripts of listeners are made of requests, so that what they do is a run, however deeply they
are nested.

* `Session.Orderly` is the condition on listeners, and `Session.orderly_react` says that scripts
  meet it.
* `Session.leads_perform` is about requests.
* `Session.runs_drain` is about the cycles of a dispatch; `Session.Cycled` describes those of a
  dispatch that comes to an end.
-/

namespace Reflex.Session

/-- Some run leads from one moment of a session to another, and takes nothing from the dispatch
under way. -/
def Leads (s t : Session) : Prop :=
  ∃ es, Runs false s es t

namespace Leads

variable {s t u : Session}

lemma refl (s : Session) : Leads s s :=
  ⟨[], .done false s⟩

lemma trans (h : Leads s t) (h' : Leads t u) : Leads s u := by
  obtain ⟨es, first⟩ := h
  obtain ⟨fs, second⟩ := h'
  exact ⟨es ++ fs, first.andThen second⟩

lemma of_quiet (step : Quiet s t) : Leads s t :=
  ⟨[], .quiet false step⟩

end Leads

/-- What listeners do is a run. -/
def Orderly (react : Reaction) : Prop :=
  ∀ name s, Leads s (react name s)

variable {react : Reaction}

lemma runs_queueAll (events : List Event) (s : Session) :
    Runs false s (events.map .queued) (s.queueAll events) := by
  induction events generalizing s with
  | nil => exact .done false s
  | cons event events ih => exact .andThen (.queue false s event) (ih (s.queue event))

/-! ## Updates -/

lemma leads_invoke (orderly : Orderly react) {name : String} {entry : Entry}
    (encloses : entry.Encloses (.returned name)) (s : Session) :
    Leads s (invoke react name entry s) := by
  obtain ⟨es, during⟩ := orderly name (s.record entry)
  exact ⟨_, .invocation false encloses during⟩

lemma leads_render (orderly : Orderly react) (name : String) (s : Session) :
    Leads s (render react name s) :=
  leads_invoke orderly (.widget name) s

lemma leads_tell (orderly : Orderly react) (r : Registration) (s : Session) :
    Leads s (tell react r s) := by
  rw [tell]
  split
  · exact .refl s
  · split
    · exact leads_invoke orderly (.callback _ _) s
    · split
      · exact leads_render orderly r.listener s
      · exact .refl s

lemma leads_notify (orderly : Orderly react) (changes : NameSet) (s : Session) :
    Leads s (s.notify react changes) :=
  List.foldlRecOn _ _ (.refl s) fun t before r _ => before.trans (leads_tell orderly r t)

lemma leads_update (orderly : Orderly react) (patch : Patch) (s : Session) :
    Leads s (s.update react patch).2 := by
  rw [update]
  split
  · exact .refl s
  · obtain ⟨es, during⟩ := leads_notify orderly (s.store.changesOf patch) (s.commit patch)
    exact ⟨_, .update false patch during⟩

lemma leads_renderAll (orderly : Orderly react) (s : Session) : Leads s (s.renderAll react) := by
  refine List.foldlRecOn _ _ (.refl s) fun t before r _ => before.trans ?_
  split
  · exact .refl t
  · split
    · exact leads_render orderly r.listener t
    · exact .refl t

/-! ## Dispatches -/

variable {rules : List CompiledRule} {event : Event} {data : Fields}

/-- What a cycle writes before it updates anything: the events that its conditions ask for are
queued, a rule is selected, and the events that the updates of the rule ask for are queued. -/
def opening (rules : List CompiledRule) (origin : String) (scope : Scope) : List Entry :=
  ((CompiledRule.considered scope origin rules).flatMap (Formula.asks scope)).map .queued ++
    match (CompiledRule.select scope origin rules).1 with
    | none => []
    | some rule =>
      .selected rule.index ::
        ((CompiledRule.computed scope rule.updates).flatMap (Formula.asks scope)).map .queued

lemma runs_fire (orderly : Orderly react) (event : Event) (data : Fields) (rule : CompiledRule)
    (s : Session) : ∃ es, Runs false s
      (.selected rule.index :: ((rule.patch (s.scope data)).2.map .queued ++ es))
      (fire react event data rule s).2 := by
  rw [fire]
  cases rule.patch (s.scope data) with
  | mk result events =>
    have begun : Runs false s (.selected rule.index :: events.map .queued)
        ((s.record (.selected rule.index)).queueAll events) :=
      .andThen (.selected false s rule.index) (runs_queueAll events _)
    cases result with
    | error failure => exact ⟨[], by simpa using begun⟩
    | ok patch =>
      obtain ⟨es, updated⟩ :=
        leads_update orderly patch ((s.record (.selected rule.index)).queueAll events)
      refine ⟨es, ?_⟩
      simp only
      split <;> exact begun.andThen updated

/-- A cycle queues the events that its conditions and updates ask for before anything else. -/
lemma runs_cycle (orderly : Orderly react) (rules : List CompiledRule) (event : Event)
    (data : Fields) (s : Session) : ∃ es, Runs false s
      (opening rules event.origin (s.scope data) ++ es) (cycle react rules event data s).2 := by
  rw [cycle, opening, ← CompiledRule.select_events]
  cases CompiledRule.select (s.scope data) event.origin rules with
  | mk selected events =>
    have asked : Runs false s (events.map .queued) (s.queueAll events) := runs_queueAll events s
    cases selected with
    | none => exact ⟨[], by simpa using asked⟩
    | some rule =>
      obtain ⟨es, fired⟩ := runs_fire orderly event data rule (s.queueAll events)
      refine ⟨es, ?_⟩
      rw [scope_queueAll, CompiledRule.patch_events] at fired
      simpa using asked.andThen fired

/-- The cycles of a dispatch that comes to an end, the first of which answers `event` and sees
`data`.  Each is a run that begins with its opening and takes nothing; after it the next event is
taken out of the frame, until there is none. -/
inductive Cycled (rules : List CompiledRule) :
    Event → Fields → Session → Outcome → List Entry → Session → Prop
  | last {event : Event} {data : Fields} {s t : Session} {done : Cycle} {es : List Entry}
      (answered : done.event = event)
      (run : Runs false s (opening rules event.origin (s.scope data) ++ es) t)
      (exhausted : t.engine.next = none) :
      Cycled rules event data s [done] (opening rules event.origin (s.scope data) ++ es) t
  | more {event event' : Event} {data : Fields} {s t u : Session} {done : Cycle}
      {outcome : Outcome} {engine : Engine} {es fs : List Entry} (answered : done.event = event)
      (run : Runs false s (opening rules event.origin (s.scope data) ++ es) t)
      (next : t.engine.next = some (event', engine))
      (rest : Cycled rules event' [] (t.take event' engine) outcome fs u) :
      Cycled rules event data s (done :: outcome)
        (opening rules event.origin (s.scope data) ++ es ++ .taken event' :: fs) u

namespace Cycled

variable {s t : Session} {outcome : Outcome} {es : List Entry}

lemma runs (h : Cycled rules event data s outcome es t) : Runs true s es t := by
  induction h with
  | last _ run _ => exact run.toTaking
  | more _ run next _ ih => exact run.toTaking.andThen (.andThen (.take next) ih)

lemma exhausted (h : Cycled rules event data s outcome es t) : t.engine.next = none := by
  induction h with
  | last _ _ exhausted => exact exhausted
  | more _ _ _ _ ih => exact ih

/-- The first cycle answers the event that the dispatch began with, and the others answer those that
were taken. -/
lemma events (h : Cycled rules event data s outcome es t) :
    outcome.map Cycle.event = event :: (Entry.own es).filterMap Entry.taken? := by
  induction h with
  | last answered run _ => rw [run.taken_eq_nil, List.map_singleton, answered]
  | more answered run _ _ ih =>
    rw [List.map_cons, answered, ih, Entry.own_append run.nested, List.filterMap_append,
      run.taken_eq_nil]
    rfl

end Cycled

/-- The event of a cycle is the one that it was given. -/
lemma event_of_fire {rule : CompiledRule} {s : Session} {done : Cycle}
    (h : (fire react event data rule s).1 = .ok done) : done.event = event := by
  rw [fire] at h
  cases evaluated : rule.patch (s.scope data) with
  | mk result events =>
    rw [evaluated] at h
    cases result with
    | error failure => cases h
    | ok patch =>
      simp only at h
      split at h
      · cases h
        rfl
      · cases h

lemma event_of_cycle {s : Session} {done : Cycle}
    (h : (cycle react rules event data s).1 = .ok done) : done.event = event := by
  rw [cycle] at h
  cases chosen : CompiledRule.select (s.scope data) event.origin rules with
  | mk selected events =>
    rw [chosen] at h
    cases selected with
    | none =>
      cases h
      rfl
    | some rule => exact event_of_fire h

/-- The cycles of a dispatch are a run that takes events, whether or not they come to an end. -/
theorem runs_drain (orderly : Orderly react) (rules : List CompiledRule) (outermost : Bool)
    (left : Nat) (event : Event) (data : Fields) (s : Session) :
    ∃ es, Runs true s es (drain react rules outermost left event data s).2 ∧
      ∀ outcome, (drain react rules outermost left event data s).1 = .ok outcome →
        Cycled rules event data s outcome es
          (drain react rules outermost left event data s).2 := by
  induction left generalizing event data s with
  | zero => exact ⟨[], .done true s, fun outcome h => by cases h⟩
  | succ left ih =>
    obtain ⟨es, run⟩ := runs_cycle orderly rules event data s
    have answers : ∀ done, (cycle react rules event data s).1 = .ok done → done.event = event :=
      fun done => event_of_cycle
    rw [drain]
    cases first : cycle react rules event data s with
    | mk result t =>
      rw [first] at run answers
      cases result with
      | error failure => exact ⟨_, run.toTaking, fun outcome h => by cases h⟩
      | ok done =>
        -- Putting the rule on record writes nothing, so that it counts as part of the cycle.
        have recorded := run.andThen (.quiet false (.recordFired t outermost done.fired?))
        rw [List.append_nil] at recorded
        cases next : (t.recordFired outermost done.fired?).engine.next with
        | none =>
          simp only [next]
          refine ⟨_, recorded.toTaking, fun outcome h => ?_⟩
          cases h
          exact .last (answers done rfl) recorded next
        | some taken =>
          obtain ⟨event', engine⟩ := taken
          simp only [next]
          obtain ⟨fs, rest, whole⟩ :=
            ih event' [] ((t.recordFired outermost done.fired?).take event' engine)
          refine ⟨_, recorded.toTaking.andThen (.andThen (.take next) rest), fun outcome h => ?_⟩
          obtain ⟨outcome', ended, rfl⟩ := map_eq_ok_iff.1 h
          exact .more (answers done rfl) recorded next (whole outcome' ended)

lemma leads_dispatch (orderly : Orderly react) (event : Event) (data : Fields) (s : Session) :
    Leads s (s.dispatch react event data).2 := by
  rw [dispatch]
  split
  · exact .refl s
  · obtain ⟨es, during, -⟩ := runs_drain orderly s.engine.program.rules s.engine.isIdle
      s.engine.maxCycles event data (s.enter event data)
    exact ⟨_, .dispatch false event data during⟩

/-! ## Requests -/

lemma closed_leads (orderly : Orderly react) : Closed react (fun _ => True) Leads where
  refl := .refl
  trans := .trans
  quiet step _ _ := .of_quiet step
  adjust s name f kind _ := .of_quiet (.adjust s name f kind)
  observe s _ _ _ _ _ _ := .of_quiet (.observe s _ _ _ _ _)
  unobserve s _ _ := .of_quiet (.unobserve s _)
  answered s name answer := ⟨_, .answered false s name answer⟩
  queue s event := ⟨_, .queue false s event⟩
  update s patch := leads_update orderly patch s
  renderAll s _ := leads_renderAll orderly s
  dispatch s event data := leads_dispatch orderly event data s

/-- Every request is answered by a run. -/
theorem leads_perform (orderly : Orderly react) (s : Session) (request : Request) :
    Leads s (s.perform react request).2 :=
  (closed_leads orderly).perform s request trivial

/-- The scripts of listeners are orderly, to whatever depth they are nested. -/
theorem orderly_react (depth : Nat) : Orderly (Session.react depth) := by
  induction depth with
  | zero => exact fun _ s => .refl s
  | succ depth ih => exact fun _ _ => (closed_leads ih).react_succ fun _ _ _ _ => trivial

end Reflex.Session
