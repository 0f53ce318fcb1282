import Reflex.Session.Firing
import Reflex.Session.Update

/-!
# Dispatches

A dispatch runs cycles until no event is left that was queued during it. Each cycle answers one
event: it chooses a rule and applies the patch of its updates. The first cycle answers the
dispatched event and sees its data; every further cycle answers the event queued last and sees no
data.

* `Session.cycle` answers one event.
* `Session.drain` runs cycles until the frame is empty or the cycles that are left run out.
* `Session.dispatch` is a dispatch, which is refused when too many are under way.
-/

namespace Reflex.Session

/-- What expressions see during a cycle. -/
def scope (s : Session) (data : Fields) : Scope :=
  ⟨s.engine.library, s.store.document, data⟩

/-- Fires a rule: its updates are evaluated and applied as one patch. -/
def fire (react : Reaction) (event : Event) (data : Fields) (rule : CompiledRule) (s : Session) :
    Except EngineError Cycle × Session :=
  let (patch, events) := rule.patch (s.scope data)
  let t := (s.record (.selected rule.index)).queueAll events
  match patch with
  | .error (name, e) => (.error (.update rule.index name e), t)
  | .ok patch =>
    let (changes, u) := t.update react patch
    match changes with
    | .ok changes => (.ok ⟨event, some rule.index, changes⟩, u)
    | .error e => (.error (.store e), u)

/-- Answers one event by the first rule that applies. -/
def cycle (react : Reaction) (rules : List CompiledRule) (event : Event) (data : Fields)
    (s : Session) : Except EngineError Cycle × Session :=
  let (selected, events) := CompiledRule.select (s.scope data) event.origin rules
  let t := s.queueAll events
  match selected with
  | none => (.ok ⟨event, none, []⟩, t)
  | some rule => fire react event data rule t

/-- Puts the rule of a cycle on record if the dispatch is not nested in another. -/
def recordFired (outermost : Bool) (fired? : Option Nat) (s : Session) : Session :=
  if outermost then { s with engine := s.engine.recordFired fired? } else s

/-- Takes an event out of the queue; `engine` is what the engine becomes by giving it out. -/
def take (event : Event) (engine : Engine) (s : Session) : Session :=
  { s with engine }.record (.taken event)

/-- Runs cycles, at most as many as are `left`, beginning with an event and its data. -/
def drain (react : Reaction) (rules : List CompiledRule) (outermost : Bool) :
    Nat → Event → Fields → Session → Except EngineError Outcome × Session
  | 0, event, _, s => (.error (.unboundedCycle s.engine.maxCycles event), s)
  | left + 1, event, data, s =>
    match cycle react rules event data s with
    | (.error e, t) => (.error e, t)
    | (.ok done, t) =>
      let u := t.recordFired outermost done.fired?
      match u.engine.next with
      | none => (.ok [done], u)
      | some (event', engine) =>
        let (rest, v) := drain react rules outermost left event' [] (u.take event' engine)
        (rest.map (done :: ·), v)

/-- Begins a dispatch. -/
def enter (event : Event) (data : Fields) (s : Session) : Session :=
  { s with engine := s.engine.enter event data }.record (.began event data)

/-- Ends a dispatch. -/
def leave (s : Session) : Session :=
  { s with engine := s.engine.leave }.record .ended

/-- Dispatches an event. The rules are those in force at the beginning, to the end. -/
def dispatch (react : Reaction) (event : Event) (data : Fields) (s : Session) :
    Except EngineError Outcome × Session :=
  if s.engine.maxNesting ≤ s.engine.frames.length then
    (.error (.nestingTooDeep s.engine.maxNesting), s)
  else
    let (outcome, t) := drain react s.engine.program.rules s.engine.isIdle s.engine.maxCycles event
      data (s.enter event data)
    (outcome, t.leave)

/-- Dispatches an event where there are no listeners. -/
def dispatchAlone (event : Event) (data : Fields) (s : Session) :
    Except EngineError Outcome × Session :=
  s.dispatch (fun _ t => t) event data

end Reflex.Session
