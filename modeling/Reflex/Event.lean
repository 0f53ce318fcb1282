/-!
# Events

An event has a name and comes from an origin: a button was pressed, a timer ticked.
-/

namespace Reflex

/-- An event that waits to be dispatched. -/
structure Event where
  /-- Where the event comes from. -/
  origin : String
  /-- What happened. -/
  name : String
deriving DecidableEq

/-- The name and the origin of the event that starts a session. -/
def initEvent : String := "init"

/-- The name of an event, marked when the modifier key is held. -/
def modifiedEvent (name : String) (alt : Bool) : String :=
  if alt then "alt-" ++ name else name

end Reflex
