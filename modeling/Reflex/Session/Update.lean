import Reflex.Session.Basic

/-!
# Updates

An update patches the document, tells the listeners what changed, and then writes the document to
its slot. Listeners are told one after the other, in the order of registration, and each may make
requests of its own before the next is told. What a listener does is a parameter here, a
`Reaction`; `Reflex.Session.Run` supplies it.

* `Session.notify` tells the listeners that watch a changed state variable.
* `Session.update` is an update, which is refused when too many are under way.
* `Session.renderAll` tells every connected widget to render itself.
-/

namespace Reflex

/-- What a listener does when it is told of changes. -/
abbrev Reaction := String → Session → Session

namespace Session

/-- Tells a listener, which then does what it does. -/
def invoke (react : Reaction) (name : String) (entry : Entry) (s : Session) : Session :=
  (react name (s.record entry)).record (.returned name)

/-- Tells a listener to render itself. -/
def render (react : Reaction) (name : String) (s : Session) : Session :=
  invoke react name (.rendered name) s

/-- Tells a listener of changes to what it watches. A callback is given the present values; a widget
is told to render itself, unless it is disconnected. -/
def tell (react : Reaction) (r : Registration) (s : Session) : Session :=
  match s.listener? r.listener with
  | none => s
  | some l =>
    match l.kind with
    | .callback => invoke react r.listener (.notified r.listener (r.names.map s.store.get)) s
    | _ => if l.isConnected then render react r.listener s else s

/-- Tells the listeners that watch a changed state variable, in the order in which they were
registered when the round began. -/
def notify (react : Reaction) (changes : NameSet) (s : Session) : Session :=
  (s.store.registrations.filter fun r => changes.meets r.names).foldl
    (fun t r => tell react r t) s

/-- Begins an update: the document is the patched one. -/
def commit (patch : Patch) (s : Session) : Session :=
  let store := s.store.commit patch
  { s with store }.record (.committed s.store.document store.document)

/-- Ends an update: the document is written to its slot. -/
def close (s : Session) : Session :=
  { s with store := s.store.close }.record (.closed s.store.text (!s.store.slot.failing))

/-- Applies a patch, and says what it changed. -/
def update (react : Reaction) (patch : Patch) (s : Session) :
    Except StoreError NameSet × Session :=
  if s.store.maxDepth ≤ s.store.depth then (.error (.reentrancyLimit s.store.maxDepth), s)
  else
    let changes := s.store.changesOf patch
    (.ok changes, (notify react changes (s.commit patch)).close)

/-- Tells the connected widgets to render themselves, in the order of registration. -/
def renderAll (react : Reaction) (s : Session) : Session :=
  s.store.registrations.foldl
    (fun t r =>
      match t.listener? r.listener with
      | none => t
      | some l => if l.kind ≠ .callback && l.isConnected then render react r.listener t else t)
    s

end Session

end Reflex
