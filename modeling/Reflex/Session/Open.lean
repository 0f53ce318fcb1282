import Reflex.Failure
import Reflex.Session.Run
import Reflex.State.Storage

/-!
# Sessions over stored documents

A session begins with the document that is stored under its key and ends with storing the document
that it wrote last. `OpenError.failure` says which step of the beginning failed.
-/

namespace Reflex

/-- The failure of a session that does not start. -/
def OpenError.failure : OpenError → Failure
  | .store e => (Failure.ofCause (.store e)).within "open state store"
  | .rules e => (Failure.ofCause (.rules e)).within "compile rules"

variable {m : Type → Type} [Monad m] [MonadFiles m]

/-- Where a configuration keeps documents. -/
def Config.storage (config : Config) : Storage := ⟨config.dir⟩

/-- The text that is stored for a session. -/
def Config.readStored (config : Config) : Attempt m (Option String) :=
  ExceptT.mk do
    let result ← (config.storage.read config.key : Attempt m (Option String)).run
    return result.mapError fun f => OpenError.failure (.store (.unreadable config.key f.message))

/-- The stored document, without a session. -/
def Config.readDocument (config : Config) : Attempt m Fields := do
  let text? ← config.readStored
  match Store.load config.key config.maxUpdateDepth text? with
  | .ok store => return store.document
  | .error e => throw (OpenError.failure (.store e))

/-- Starts a session with the stored document. -/
def Session.openStored (config : Config) (rules : RuleSet) : Attempt m Session := do
  let text? ← config.readStored
  match Session.start config.sessionOptions .standard rules text? with
  | .ok s => return s
  | .error e => throw e.failure

/-- Stores the document that a session wrote last, if it wrote any. A document that cannot be
stored is lost without a word. -/
def Session.saveStored (config : Config) (s : Session) : m Unit := do
  match s.store.slot.text?, s.store.slot.writes with
  | some text, _ + 1 =>
    let _ ← (config.storage.write config.key text : Attempt m Unit).run
  | _, _ => pure ()

end Reflex
