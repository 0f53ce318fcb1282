import Reflex.Expr.Library
import Reflex.Rule.Compiled
import Reflex.State.Store

/-!
# The rule engine

The engine holds the rules in force and the events that wait. Each dispatch under way has a frame
of its own with the events queued during it; events queued while no dispatch is under way are
staged for the next one. All lists of events have the latest event first, which is the one that is
taken next.

* `Program` is a set of rules that compiles, with its compiled form.
* `Engine.replace` puts other rules in force.
* `Engine.queue` puts an event into the innermost frame, and `Engine.next` takes one out of it.
* `Engine.enter` and `Engine.leave` begin and end a dispatch.
-/

namespace Reflex

/-- A set of rules that compiles. -/
structure Program where
  source : RuleSet
  rules : List CompiledRule
  compiled : source.compile = .ok rules

/-- The program of a set of rules. -/
def Program.ofRules (source : RuleSet) : Except LoadError Program :=
  match h : source.compile with
  | .ok rules => .ok ⟨source, rules, h⟩
  | .error e => .error e

/-- What one cycle of a dispatch did. -/
structure Cycle where
  event : Event
  /-- The position of the rule that fired. -/
  fired? : Option Nat
  /-- What the rule changed. -/
  changes : NameSet
deriving DecidableEq

/-- What a dispatch did, cycle by cycle. -/
abbrev Outcome := List Cycle

namespace Outcome

/-- The rules that fired, in the order of the cycles. -/
def firedRules (outcome : Outcome) : List Nat :=
  outcome.filterMap (·.fired?)

/-- The origins of the events, in the order of the cycles. -/
def origins (outcome : Outcome) : List String :=
  outcome.map (·.event.origin)

/-- Everything that some cycle changed. -/
def changedKeys (outcome : Outcome) : NameSet :=
  NameSet.ofList (outcome.flatMap (·.changes))

end Outcome

/-- The latest dispatch that was not nested in another. -/
structure DispatchRecord where
  origin : String
  event : String
  data : Fields
  /-- The position of the last rule that fired. -/
  fired? : Option Nat

/-- Why a dispatch fails. -/
inductive EngineError where
  | update (rule : Nat) (stateName : String) (cause : EvalError)
  | unboundedCycle (limit : Nat) (last : Event)
  | nestingTooDeep (limit : Nat)
  | store (cause : StoreError)

/-- The wording of a failure. -/
def EngineError.message : EngineError → String
  | .update rule stateName cause =>
    "rule " ++ Text.ofNat rule ++ ": update of `" ++ stateName ++ "` failed: " ++ cause.message
  | .unboundedCycle limit last =>
    "dispatch from `" ++ last.origin ++ "` exceeded " ++ Text.ofNat limit ++
      " cycles (last event `" ++ last.name ++ "`)"
  | .nestingTooDeep limit => "nested dispatch depth exceeded " ++ Text.ofNat limit
  | .store cause => cause.message

/-- The rule engine. -/
structure Engine where
  /-- The rules in force. -/
  program : Program
  /-- Every state variable that the rules in force mention or set. -/
  references : NameSet
  library : Library
  /-- How many cycles a dispatch may run. -/
  maxCycles : Nat
  /-- How many dispatches may be under way at once. -/
  maxNesting : Nat
  /-- The events queued during each dispatch under way, the innermost dispatch first. -/
  frames : List (List Event)
  /-- The events that wait for the next dispatch. -/
  staged : List Event
  last : DispatchRecord

namespace Engine

/-- An engine at rest. -/
def ofProgram (program : Program) (library : Library) (maxCycles maxNesting : Nat) : Engine where
  program := program
  references := program.source.references
  library := library
  maxCycles := maxCycles
  maxNesting := maxNesting
  frames := []
  staged := []
  last := ⟨"", "", [], none⟩

/-- Puts other rules in force. -/
def replace (program : Program) (engine : Engine) : Engine :=
  { engine with program, references := program.source.references }

/-- How many events wait. -/
def pending (engine : Engine) : Nat :=
  engine.frames.flatten.length + engine.staged.length

/-- Puts an event into the innermost frame, or stages it. -/
def queue (event : Event) (engine : Engine) : Engine :=
  match engine.frames with
  | [] => { engine with staged := event :: engine.staged }
  | frame :: frames => { engine with frames := (event :: frame) :: frames }

/-- Takes the latest event out of the innermost frame. -/
def next (engine : Engine) : Option (Event × Engine) :=
  match engine.frames with
  | (event :: frame) :: frames => some (event, { engine with frames := frame :: frames })
  | _ => none

/-- Whether no dispatch is under way. -/
def isIdle (engine : Engine) : Bool :=
  engine.frames.isEmpty

/-- Begins a dispatch. One that is not nested in another takes over the staged events, and is put
on record. -/
def enter (event : Event) (data : Fields) (engine : Engine) : Engine :=
  if engine.isIdle then
    { engine with
      frames := [engine.staged]
      staged := []
      last := ⟨event.origin, event.name, data, none⟩ }
  else { engine with frames := [] :: engine.frames }

/-- Ends a dispatch, and drops what is left in its frame. -/
def leave (engine : Engine) : Engine :=
  { engine with frames := engine.frames.tail }

/-- Puts the rule that a cycle fired on record. -/
def recordFired (fired? : Option Nat) (engine : Engine) : Engine :=
  if fired?.isSome then { engine with last := { engine.last with fired? } } else engine

end Engine

end Reflex
