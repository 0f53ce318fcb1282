import Reflex.Session.Engine

/-!
# Sessions

A session is a store and an engine bound to it, with the listeners that watch the store. A listener
is a name with a script of requests; whenever it is notified it makes these requests, as long as it
has runs left. Everything that happens in a session is written into its journal.

* `Request` is what can be asked of a session, `Answer` what it answers.
* `Entry` is an entry of the journal.
* `Session.start` starts a session.
-/

namespace Reflex

/-- What a listener is. -/
inductive ListenerKind where
  /-- It is given the values of the state variables that it watches. -/
  | callback
  /-- It is told to render itself while it is connected. -/
  | widget
  /-- It is told to render itself, and is connected always. -/
  | plainWidget
deriving DecidableEq

/-- The wording of a kind. -/
def ListenerKind.text : ListenerKind → String
  | .callback => "Listener::Callback"
  | .widget => "Listener::Widget"
  | .plainWidget => "Listener::Widget"

/-- What can be asked of a session. -/
inductive Request where
  | get (path : String)
  | getOr (path : String) (default : Value)
  | snapshot
  | key
  | update (patch : Value)
  | apply (patch : Patch)
  | define (name : String) (default : Value)
  | preview (patch : Patch)
  /-- Reads an assignment text, and applies it if `commit` says so. -/
  | assign (text : String) (data : Fields) (commit : Bool)
  | interpolate (template : String)
  | hasBeenUpdated (path : String)
  | renderAll
  /-- Registers a listener; the kind, the script and the runs count at its first registration. -/
  | observe (listener : String) (paths : List String) (kind : ListenerKind)
      (script : List Request) (runs : Nat)
  | unobserve (listener : String)
  | connect (listener : String) (on : Bool)
  | failWrites (on : Bool)
  | slot
  | dispatch (event : Event) (data : Fields)
  | init
  | queue (event : Event)
  | pending
  | lastDispatch
  | references
  | limits
  | replaceRules (rules : RuleSet)
  /-- Replaces the rules by those of a rule document. -/
  | replaceDocument (document : Value)

instance : Inhabited Request := ⟨.snapshot⟩

/-- What a session answers. -/
inductive Answer where
  | nothing
  | value (v : Value)
  | document (fields : Fields)
  | names (ns : NameSet)
  | text (s : String)
  | truth (b : Bool)
  | count (n : Nat)
  | observed (kind : ListenerKind)
  | slot (text? : Option String) (writes : Nat)
  | dispatched (outcome : Outcome)
  | lastDispatch (record : DispatchRecord)
  | limits (maxCycles maxNesting : Nat)
  /-- The keys that an assignment text sets, the document it would make, and what came of applying
  it. -/
  | assigned (keys : NameSet) (preview : Fields) (applied? : Option (Except StoreError NameSet))
  | storeRefused (e : StoreError)
  | dispatchFailed (e : EngineError)
  | rulesRefused (e : LoadError)

/-- An entry of the journal of a session. -/
inductive Entry where
  /-- A dispatch began. -/
  | began (event : Event) (data : Fields)
  /-- An event was queued. -/
  | queued (event : Event)
  /-- An event was taken out of the queue, for the next cycle. -/
  | taken (event : Event)
  /-- A cycle evaluated the updates of a rule. -/
  | selected (rule : Nat)
  /-- A dispatch ended. -/
  | ended
  /-- An update turned one document into another. -/
  | committed (before after : Fields)
  /-- A callback is given the values that it watches. -/
  | notified (listener : String) (values : List Value)
  /-- A widget is told to render itself. -/
  | rendered (listener : String)
  /-- A request of a listener was answered. -/
  | answered (listener : String) (answer : Answer)
  /-- A listener is done. -/
  | returned (listener : String)
  /-- An update came to its end, and wrote the text of the document. -/
  | closed (text : String) (written : Bool)

/-- A listener. -/
structure Listener where
  kind : ListenerKind
  connected : Bool
  script : List Request
  /-- How many times the script may still be run. -/
  runs : Nat

/-- Whether a listener is told of changes. -/
def Listener.isConnected (l : Listener) : Bool :=
  match l.kind with
  | .widget => l.connected
  | _ => true

/-- A session. -/
structure Session where
  store : Store
  engine : Engine
  /-- The listeners that were ever registered, by name. -/
  listeners : List (String × Listener)
  /-- What happened, the latest entry first. -/
  journal : List Entry

/-- The limits of a session and the name of its document. -/
structure SessionOptions where
  maxCycles : Nat
  maxNesting : Nat
  maxUpdateDepth : Nat
  key : String

/-- The usual limits. -/
def SessionOptions.default : SessionOptions := ⟨1000, 32, 64, "4.state"⟩

/-- Why a session does not start. -/
inductive OpenError where
  | store (e : StoreError)
  | rules (e : LoadError)

namespace Session

/-- Adds an entry to the journal. -/
def record (entry : Entry) (s : Session) : Session :=
  { s with journal := entry :: s.journal }

/-- A session with nothing registered. -/
def ofParts (store : Store) (engine : Engine) : Session :=
  ⟨store, engine, [], []⟩

/-- Starts a session: the document is taken out of its slot, and the rules are compiled. -/
def start (options : SessionOptions) (library : Library) (rules : RuleSet)
    (text? : Option String) : Except OpenError Session := do
  let store ← (Store.load options.key options.maxUpdateDepth text?).mapError .store
  let program ← (Program.ofRules rules).mapError .rules
  return ofParts store (.ofProgram program library options.maxCycles options.maxNesting)

/-- Queues an event. -/
def queue (event : Event) (s : Session) : Session :=
  { s with engine := s.engine.queue event }.record (.queued event)

/-- Queues events one after the other. -/
def queueAll (events : List Event) (s : Session) : Session :=
  events.foldl (fun t event => t.queue event) s

/-- The listener of a name. -/
def listener? (s : Session) (name : String) : Option Listener :=
  s.listeners.lookup name

/-- Changes the listener of a name. -/
def adjustListener (name : String) (f : Listener → Listener) (s : Session) : Session :=
  { s with
    listeners := s.listeners.map fun (n, l) => if n == name then (n, f l) else (n, l) }

/-- Registers a listener, which is made at the first registration. -/
def observe (name : String) (paths : List String) (kind : ListenerKind) (script : List Request)
    (runs : Nat) (s : Session) : Session :=
  let listeners := match s.listener? name with
    | some _ => s.listeners
    | none => s.listeners ++ [(name, ⟨kind, true, script, runs⟩)]
  { s with listeners, store := s.store.observe name paths }

end Session

end Reflex
