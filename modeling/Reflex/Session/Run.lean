import Reflex.Rule.Flat
import Reflex.Session.Dispatch

/-!
# Running a session

`Session.perform` answers one request. A listener that is told of changes makes the requests of its
script in order, if it has runs left, and uses up a run. `Session.react` is that reaction; it
counts how deeply scripts may be nested, and `Request.totalRuns` is a depth that no session can
exceed, since every nested script uses up a run.

* `Session.run` answers requests one after the other.
* `Session.since` gives the entries that were added to the journal in the meantime.
-/

namespace Reflex

namespace Answer

/-- The answer to an update. -/
def ofUpdate : Except StoreError NameSet → Answer
  | .ok changes => .names changes
  | .error e => .storeRefused e

/-- The answer to a dispatch. -/
def ofDispatch : Except EngineError Outcome → Answer
  | .ok outcome => .dispatched outcome
  | .error e => .dispatchFailed e

end Answer

namespace Session

/-- Applies a patch. -/
def answerUpdate (react : Reaction) (patch : Patch) (s : Session) : Answer × Session :=
  let (changes, t) := s.update react patch
  (.ofUpdate changes, t)

/-- Dispatches an event. -/
def answerDispatch (react : Reaction) (event : Event) (data : Fields) (s : Session) :
    Answer × Session :=
  let (outcome, t) := s.dispatch react event data
  (.ofDispatch outcome, t)

/-- Reads an assignment text, and applies it if asked to. -/
def assign (react : Reaction) (text : String) (data : Fields) (commit : Bool) (s : Session) :
    Answer × Session :=
  let patch := s.store.patchOf text data
  let preview := Patch.apply s.store.document patch
  if commit then
    let (changes, t) := s.update react patch
    (.assigned patch.keys preview (some changes), t)
  else (.assigned patch.keys preview none, s)

/-- Puts other rules in force, if they compile. -/
def replaceRules (rules : RuleSet) (s : Session) : Answer × Session :=
  match Program.ofRules rules with
  | .error e => (.rulesRefused e, s)
  | .ok program => (.nothing, { s with engine := s.engine.replace program })

/-- Registers a listener, and says of which kind it is. -/
def answerObserve (name : String) (paths : List String) (kind : ListenerKind)
    (script : List Request) (runs : Nat) (s : Session) : Answer × Session :=
  let t := s.observe name paths kind script runs
  (.observed (((t.listener? name).map (·.kind)).getD kind), t)

/-- Answers a request. -/
def perform (react : Reaction) (s : Session) : Request → Answer × Session
  | .get path => (.value (s.store.get path), s)
  | .getOr path default => (.value (s.store.getOr path default), s)
  | .snapshot => (.document s.store.document, s)
  | .key => (.text s.store.key, s)
  | .update v =>
    match Patch.ofValue? v with
    | some patch => s.answerUpdate react patch
    | none => (.storeRefused (.patchType v.typeName), s)
  | .apply patch => s.answerUpdate react patch
  | .define name default => s.answerUpdate react (Patch.put [] name (.default default))
  | .preview patch => (.document (Patch.apply s.store.document patch), s)
  | .assign text data commit => s.assign react text data commit
  | .interpolate template => (.text (s.store.interpolate template), s)
  | .hasBeenUpdated path => (.truth (s.store.hasBeenUpdated path), s)
  | .renderAll => (.nothing, s.renderAll react)
  | .observe name paths kind script runs => s.answerObserve name paths kind script runs
  | .unobserve name =>
    (.truth (s.store.isRegistered name), { s with store := s.store.unobserve name })
  | .connect name on => (.nothing, s.adjustListener name fun l => { l with connected := on })
  | .failWrites on =>
    (.nothing, { s with store := { s.store with slot := { s.store.slot with off := on } } })
  | .slot => (.slot s.store.slot.text? s.store.slot.writes, s)
  | .dispatch event data => s.answerDispatch react event data
  | .init => s.answerDispatch react ⟨initEvent, initEvent⟩ []
  | .queue event => (.count (s.queue event).engine.pending, s.queue event)
  | .pending => (.count s.engine.pending, s)
  | .lastDispatch => (.lastDispatch s.engine.last, s)
  | .references => (.names s.engine.references, s)
  | .limits => (.limits s.engine.maxCycles s.engine.maxNesting, s)
  | .replaceRules rules => s.replaceRules rules
  | .replaceDocument document =>
    match RuleSet.ofDocument document with
    | .ok rules => s.replaceRules rules
    | .error e => (.rulesRefused e, s)

/-- Makes the requests of a listener, in order. -/
def runScript (react : Reaction) (name : String) : List Request → Session → Session
  | [], s => s
  | request :: requests, s =>
    let (answer, t) := s.perform react request
    runScript react name requests (t.record (.answered name answer))

/-- What listeners do, with scripts nested at most as deep as the number says. -/
def react : Nat → Reaction
  | 0, _, s => s
  | depth + 1, name, s =>
    match s.listener? name with
    | none => s
    | some l =>
      if l.script.isEmpty || l.runs == 0 then s
      else
        runScript (react depth) name l.script
          (s.adjustListener name fun l => { l with runs := l.runs - 1 })

end Session

mutual

/-- How many runs the listeners have that a request can bring about. -/
def Request.runs : Request → Nat
  | .observe _ _ _ script n => n + Request.totalRuns script
  | _ => 0

/-- How many runs the listeners have that requests can bring about. -/
def Request.totalRuns : List Request → Nat
  | [] => 0
  | request :: requests => request.runs + Request.totalRuns requests

end

namespace Session

/-- Answers requests one after the other. With each answer it gives the session that it left
behind. -/
def runWith (react : Reaction) : List Request → Session → List (Answer × Session)
  | [], _ => []
  | request :: requests, s =>
    let (answer, t) := perform react s request
    (answer, t) :: runWith react requests t

/-- Answers requests one after the other, where listeners react by their scripts. -/
def run (requests : List Request) (s : Session) : List (Answer × Session) :=
  runWith (react (Request.totalRuns requests)) requests s

/-- The entries that were added to the journal since an earlier moment, in order. -/
def since (earlier later : Session) : List Entry :=
  (later.journal.take (later.journal.length - earlier.journal.length)).reverse

end Session

end Reflex
