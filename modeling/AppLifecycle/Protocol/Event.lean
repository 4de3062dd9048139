import AppLifecycle.AppId
import AppLifecycle.State
import AppLifecycle.Uuid

/-!
# Events

What the daemon tells its clients unasked. The events about the list carry indices into it, so that
a client that replays them in order keeps a copy of the list.
-/

namespace AppLifecycle

inductive EventPayload where
  | applicationAdded (index : Nat) (id : AppId)
  | applicationRemoved (index : Nat) (id : AppId)
  | applicationMoved (source target : Nat)
  | countChanged (count : Nat)
  /-- Nothing is focused where there is no id. -/
  | focusChanged (id : Option AppId)
  | fieldChanged (id : AppId) (field : ModelField)
  /-- Something outside the shell wants the application to be focused. -/
  | focusRequested (id : AppId)
  /-- An instruction for the compositor that owns the session. -/
  | sessionRequest (session : SessionId) (action : SessionAction)
  /-- The daemon is going away. -/
  | shutdown
deriving DecidableEq

/-- An event as it is sent. -/
structure Event where
  apiVersion : Nat
  /-- When it happened, in words that nobody reads. -/
  timestamp : String
  payload : EventPayload
deriving DecidableEq

/-- The session whose compositor alone is told. -/
def EventPayload.sessionTarget : EventPayload → Option SessionId
  | .sessionRequest session _ => some session
  | _ => none

end AppLifecycle
