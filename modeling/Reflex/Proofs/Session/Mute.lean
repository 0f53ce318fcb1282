import Reflex.Proofs.Expr.Calls
import Reflex.Proofs.Session.Atomicity
import Reflex.Proofs.Session.Queue
import Reflex.Proofs.Session.Selection
import Reflex.Proofs.Session.Settings

/-!
# Rules that cannot queue

Where no expression of the rules calls the function that asks for events, only listeners could put
an event into the queue.  Without them a dispatch draws on the events that were staged before it and
on nothing else, so that it cannot go on forever.  `Session.mute_rules_cannot_loop` is the result.

* `CompiledRule.Mute` is about such rules, and `CompiledRule.select_events_of_mute` and
  `CompiledRule.patch_events_of_mute` say that they ask for nothing.
* `Session.engine_of_cycle_of_mute` says that a cycle leaves the engine as it is, and
  `Session.Answered.drawn_of_mute` which events cycles have answered that succeed one after the
  other.
* `Session.dispatch_of_mute` lists the ways in which a dispatch ends.
-/

namespace Reflex

/-- No call in a condition or in an update of the rule, at whatever depth, has a name that stands
for the function that asks for events. -/
structure CompiledRule.Mute (library : Library) (rule : CompiledRule) : Prop where
  conditions : ∀ condition ∈ rule.conditions, library.Mutes condition.expr.calls
  updates : ∀ update ∈ rule.updates, library.Mutes update.2.expr.calls

instance (library : Library) (rule : CompiledRule) : Decidable (rule.Mute library) :=
  decidable_of_iff ((∀ condition ∈ rule.conditions, library.Mutes condition.expr.calls) ∧
      ∀ update ∈ rule.updates, library.Mutes update.2.expr.calls)
    ⟨fun ⟨conditions, updates⟩ => ⟨conditions, updates⟩,
      fun mute => ⟨mute.conditions, mute.updates⟩⟩

lemma Formula.asks_of_mutes {scope : Scope} {f : Formula}
    (mutes : scope.library.Mutes f.expr.calls) : f.asks scope = [] :=
  Expr.silent_eval f.expr mutes []

namespace CompiledRule

variable {scope : Scope} {origin : String} {rule : CompiledRule} {rules : List CompiledRule}

lemma mem_of_mem_reached (mem : rule ∈ reached scope origin rules) : rule ∈ rules := by
  rw [reached] at mem
  split at mem
  · exact List.mem_of_mem_take mem
  · exact mem

/-- Mute rules ask for nothing when one of them is chosen. -/
lemma select_events_of_mute (mute : ∀ rule ∈ rules, rule.Mute scope.library) :
    (select scope origin rules).2 = [] := by
  rw [select_events, List.flatMap_eq_nil_iff, considered_eq_flatMap]
  intro condition considered
  obtain ⟨rule, reached, examined⟩ := List.mem_flatMap.1 considered
  have mem : rule ∈ rules := mem_of_mem_reached (List.mem_of_mem_filter reached)
  rw [examined_eq_take] at examined
  exact Formula.asks_of_mutes ((mute rule mem).conditions condition (List.mem_of_mem_take examined))

/-- Nor does a mute rule ask for anything when its updates are evaluated. -/
lemma patch_events_of_mute (mute : rule.Mute scope.library) : (rule.patch scope).2 = [] :=
  patch_events_of_silent fun update mem => Formula.asks_of_mutes (mute.updates update mem)

end CompiledRule

namespace Session

variable {react : Reaction} {rules : List CompiledRule} {rule : CompiledRule} {event event' : Event}
  {data data' : Fields} {s t u last : Session} {outermost : Bool} {done outcome : Outcome} {n : Nat}
  {ended : Except EngineError Cycle} {result : Except EngineError Outcome} {waiting : List Event}
  {outer : List (List Event)}

/-! ## One cycle -/

lemma considering_of_mute (mute : ∀ rule ∈ rules, rule.Mute s.engine.library) :
    s.considering rules event data = s := by
  rw [considering, CompiledRule.select_events_of_mute mute]
  rfl

lemma firing_of_mute (mute : ∀ rule ∈ rules, rule.Mute s.engine.library) (mem : rule ∈ rules) :
    s.firing rules event data rule = s.record (.selected rule.index) := by
  have silent : (rule.patch (s.scope data)).2 = [] :=
    CompiledRule.patch_events_of_mute (mute rule mem)
  rw [firing, considering_of_mute mute, silent]
  rfl

/-- A cycle under mute rules leaves the queue as it is, and everything else in the engine. -/
lemma engine_of_cycle_of_mute (mute : ∀ rule ∈ rules, rule.Mute s.engine.library)
    (unwatched : s.store.registrations = [])
    (concluded : cycle react rules event data s = (ended, t)) : t.engine = s.engine := by
  cases concludes_of_cycle_eq concluded with
  | unanswered nobody => exact congrArg Session.engine (considering_of_mute mute)
  | @fails rule name cause selected failed =>
    rw [firing_of_mute mute (CompiledRule.mem_of_select selected), engine_record]
  | @refused rule patch selected computed full =>
    rw [firing_of_mute mute (CompiledRule.mem_of_select selected), engine_record]
  | @fires rule patch selected computed admitted =>
    have unwatched' : (s.record (.selected rule.index)).store.registrations = [] := unwatched
    rw [firing_of_mute mute (CompiledRule.mem_of_select selected), update_of_alone unwatched']
    split <;> rfl

/-! ## Cycles one after the other -/

/-- The frame of the dispatch is drawn upon from its top and is not added to: the events that cycles
have answered, the one that is to be answered next and those that are left make up what there was
to begin with. -/
lemma Answered.drawn_of_mute (mute : ∀ rule ∈ rules, rule.Mute s.engine.library)
    (unwatched : s.store.registrations = []) (busy : s.engine.frames = waiting :: outer)
    (answered : Answered react rules outermost event data s done event' data' u) :
    u.engine.library = s.engine.library ∧ ∃ left, u.engine.frames = left :: outer ∧
      event :: waiting = done.map Cycle.event ++ event' :: left := by
  induction answered generalizing waiting with
  | nil => exact ⟨rfl, waiting, busy, rfl⟩
  | @cons event event' _ data _ s t _ final _ engine succeeds next rest ih =>
    have kept : t.engine = s.engine := engine_of_cycle_of_mute mute unwatched succeeds
    have unwatched' : t.store.registrations = [] := unwatched_of_cycle unwatched succeeds
    have own : final.event = event := event_of_cycle (congrArg Prod.fst succeeds)
    obtain ⟨frame, frames, topmost, rfl⟩ := next_eq_some_iff.1 next
    rw [frames_recordFired, kept, busy] at topmost
    obtain ⟨rfl, rfl⟩ := List.cons.inj topmost
    have library : (t.recordFired outermost final.fired?).engine.library = s.engine.library := by
      rw [library_recordFired, kept]
    obtain ⟨same, left, frames, split⟩ := ih (fun rule mem => by
        rw [take, engine_record, library]
        exact mute rule mem)
      (unwatched_of_store_eq unwatched' store_recordFired) rfl
    refine ⟨same.trans library, left, frames, ?_⟩
    rw [List.map_cons, own, List.cons_append, ← split]

/-- Cycles that come to an end of themselves have answered all that waited, or one of them fails. -/
lemma Ends.answers_of_mute (mute : ∀ rule ∈ rules, rule.Mute s.engine.library)
    (unwatched : s.store.registrations = []) (busy : s.engine.frames = waiting :: outer)
    (ends : Ends react rules outermost event data s n result last) :
    (∃ outcome, result = .ok outcome ∧ outcome.map Cycle.event = event :: waiting) ∨
      ∃ e, result = .error e ∧ e.isOfCycle := by
  cases ends with
  | @exhausted done event' data' u t final before succeeds empty =>
    obtain ⟨library, left, frames, split⟩ := before.drawn_of_mute mute unwatched busy
    have kept : t.engine = u.engine :=
      engine_of_cycle_of_mute (library ▸ mute) (unwatched_answered unwatched before) succeeds
    have own : final.event = event' := event_of_cycle (congrArg Prod.fst succeeds)
    -- Were an event left, another cycle would answer it.
    have exhausted : left = [] := by
      rw [Engine.next, frames_recordFired, kept, frames] at empty
      cases left with
      | nil => rfl
      | cons top left => cases empty
    refine .inl ⟨_, rfl, ?_⟩
    rw [split, exhausted, List.map_append, List.map_singleton, own]
  | @fails done event' data' u t e before failed =>
    refine .inr ⟨e, rfl, ?_⟩
    cases concludes_of_cycle_eq failed <;> rfl

/-! ## Dispatches -/

/-- Events that are queued while no dispatch is under way are staged, the latest first. -/
lemma engine_queueAll_of_idle (idle : s.engine.frames = []) (events : List Event) :
    (s.queueAll events).engine =
      { s.engine with staged := events.reverse ++ s.engine.staged } := by
  induction events generalizing s with
  | nil => rfl
  | cons event events ih =>
    have queued : (s.queue event).engine =
        { s.engine with staged := event :: s.engine.staged } := by
      rw [engine_queue, Engine.queue]
      simp only [idle]
    have rest := ih (s := s.queue event) (by rw [queued]; exact idle)
    rw [queued] at rest
    rw [List.reverse_cons, List.append_assoc]
    exact rest

/-- A dispatch under mute rules answers all that waited, or one of its cycles fails, or it is refused,
or it is cut off because more events waited than it may run cycles. -/
lemma dispatch_of_mute (unwatched : s.store.registrations = []) (idle : s.engine.frames = [])
    (mute : ∀ rule ∈ s.engine.program.rules, rule.Mute s.engine.library) (react : Reaction)
    (event : Event) (data : Fields) :
    let result := (s.dispatch react event data).1
    (∃ outcome, result = .ok outcome ∧ outcome.map Cycle.event = event :: s.engine.staged) ∨
    (∃ e, result = .error e ∧ e.isOfCycle) ∨
    (result = .error (.nestingTooDeep s.engine.maxNesting) ∧ s.engine.maxNesting = 0) ∨
    ∃ limit last, result = .error (.unboundedCycle limit last) ∧
      s.engine.maxCycles ≤ s.engine.staged.length := by
  intro result
  have begun : (s.enter event data).store.registrations = [] := unwatched
  have busy : (s.enter event data).engine.frames = [s.engine.staged] := by
    simp [Runs.frames_enter, Engine.inherited, Engine.isIdle, idle]
  have mute' : ∀ rule ∈ s.engine.program.rules, rule.Mute (s.enter event data).engine.library :=
    library_enter.symm ▸ mute
  by_cases admitted : s.engine.frames.length < s.engine.maxNesting
  · have dispatched : result = (drain react s.engine.program.rules s.engine.isIdle
        s.engine.maxCycles event data (s.enter event data)).1 := by
      change (s.dispatch react event data).1 = _
      rw [dispatch_eq admitted]
    obtain ⟨n, ended, last, within, ends⟩ | ⟨done, event', data', u, length, answered⟩ :=
      ends_or_answered react s.engine.program.rules s.engine.isIdle s.engine.maxCycles event data
        (s.enter event data)
    · rw [dispatched, ends.drain within]
      exact (ends.answers_of_mute mute' begun busy).imp_right .inl
    · -- As many cycles as allowed were run and an event is left, so that too many had waited.
      obtain ⟨-, left, -, split⟩ := answered.drawn_of_mute mute' begun busy
      have cut := drain_of_answered answered 0
      rw [Nat.add_zero, length] at cut
      have counts := congrArg List.length split
      simp only [List.length_cons, List.length_append, List.length_map, length] at counts
      rw [dispatched, cut]
      exact .inr (.inr (.inr ⟨_, _, rfl, by omega⟩))
  · have refused : result = .error (.nestingTooDeep s.engine.maxNesting) :=
      congrArg Prod.fst (if_pos (Nat.not_lt.1 admitted))
    rw [idle, List.length_nil, Nat.pos_iff_ne_zero, not_not] at admitted
    exact .inr (.inr (.inl ⟨refused, admitted⟩))

/-- **Rules that cannot queue cannot loop.**  In a session without listeners and without a dispatch
under way, events are staged one after the other, and then an event is dispatched.  If no call in
an expression of the rules in force has a name that stands for the function that asks for events,
then a dispatch that succeeds runs one cycle for each event that waited and one for its own event.
Its own event is answered first, and then those that waited are, the latest first.  If fewer events
waited than a dispatch may run cycles, then it does not fail for running too many: unless dispatches
are not allowed at all, it succeeds or one of its cycles fails. -/
theorem mute_rules_cannot_loop (unwatched : s.store.registrations = [])
    (idle : s.engine.frames = [])
    (mute : ∀ rule ∈ s.engine.program.rules, rule.Mute s.engine.library) (react : Reaction)
    (events : List Event) (event : Event) (data : Fields) :
    let result := ((s.queueAll events).dispatch react event data).1
    let waiting := events.reverse ++ s.engine.staged
    (∀ outcome, result = .ok outcome → outcome.length = waiting.length + 1 ∧
      outcome.map Cycle.event = event :: waiting) ∧
    (waiting.length < s.engine.maxCycles →
      (∀ limit last, result ≠ .error (.unboundedCycle limit last)) ∧
      (0 < s.engine.maxNesting →
        (∃ outcome, result = .ok outcome) ∨ ∃ e, result = .error e ∧ e.isOfCycle)) := by
  intro result waiting
  have staged := engine_queueAll_of_idle idle events
  have ways := dispatch_of_mute (s := s.queueAll events)
    (unwatched_of_store_eq unwatched store_queueAll) (by rw [staged, idle])
    (by rw [staged]; exact mute) react event data
  rw [staged] at ways
  constructor
  · intro outcome succeeds
    rcases ways with ⟨outcome', succeeds', answered⟩ | ⟨e, failed, -⟩ | ⟨refused, -⟩ |
      ⟨limit, last, cut, -⟩
    · obtain rfl := Except.ok.inj (succeeds.symm.trans succeeds')
      exact ⟨by rw [← List.length_map Cycle.event, answered, List.length_cons], answered⟩
    · cases succeeds.symm.trans failed
    · cases succeeds.symm.trans refused
    · cases succeeds.symm.trans cut
  · intro fewer
    rcases ways with ⟨outcome, succeeds, -⟩ | ⟨e, failed, ofCycle⟩ | ⟨refused, none⟩ |
      ⟨limit, last, cut, many⟩
    · refine ⟨fun limit last cut => ?_, fun _ => .inl ⟨outcome, succeeds⟩⟩
      cases succeeds.symm.trans cut
    · refine ⟨fun limit last cut => ?_, fun _ => .inr ⟨e, failed, ofCycle⟩⟩
      cases failed.symm.trans cut
      cases ofCycle
    · refine ⟨fun limit last cut => ?_, fun nests => absurd none nests.ne'⟩
      cases refused.symm.trans cut
    · exact absurd fewer (Nat.not_lt.2 many)

/-- A rule in whose expressions calls are nested in one another. -/
def shouting : Program :=
  .ofParsed [.ofParts "*" ["empty($text) or contains(lower($text), 'a')"]
    [("$shown", "upper(trim($text))")]] (by decide +kernel)

/-- A session in which events can be asked for under two names, of which the rule uses neither. -/
def shoutingSession : Session :=
  Session.ofParts ⟨[("$text", .string "a")], [], [], 0, 64, "5.state", .holding none⟩
    (.ofProgram shouting (Library.standard.register "later" .queue) 3 32)

/-- Two events that were staged are answered after the dispatched one, the latest first. -/
theorem shouting_answers_staged :
    let result := (shoutingSession.queueAll [⟨"form", "open"⟩, ⟨"form", "close"⟩]).dispatch
      (Session.react 1) ⟨"button", "click"⟩ []
    (∃ outcome, result.1 = .ok outcome ∧ outcome.length = 3 ∧ outcome.map Cycle.event =
      [⟨"button", "click"⟩, ⟨"form", "close"⟩, ⟨"form", "open"⟩]) ∧
    ∀ limit last, result.1 ≠ .error (.unboundedCycle limit last) := by
  intro result
  have mute : ∀ rule ∈ shoutingSession.engine.program.rules,
      rule.Mute shoutingSession.engine.library := of_decide_eq_true (by decide +kernel)
  have succeeds : result.1 = .ok [⟨⟨"button", "click"⟩, some 0, ["$shown"]⟩,
      ⟨⟨"form", "close"⟩, some 0, []⟩, ⟨⟨"form", "open"⟩, some 0, []⟩] := by decide +kernel
  obtain ⟨answered, bounded⟩ := mute_rules_cannot_loop (s := shoutingSession) rfl rfl mute
    (Session.react 1) [⟨"form", "open"⟩, ⟨"form", "close"⟩] ⟨"button", "click"⟩ []
  exact ⟨⟨_, succeeds, answered _ succeeds⟩, (bounded (by decide)).1⟩

end Session

end Reflex
