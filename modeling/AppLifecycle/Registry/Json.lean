import AppLifecycle.Protocol.Wire
import AppLifecycle.Registry.Basic

/-!
# Registries as JSON

How records and what they do are shown to someone who looks for a fault. Session ids are shown by a
given name.
-/

namespace AppLifecycle

open Json (Value)

def ControllerCall.toJson : ControllerCall → Value
  | .start id args => .array [.string "start", id.toJson, .strings args]
  | .stop id => .array [.string "stop", id.toJson]
  | .suspend id => .array [.string "suspend", id.toJson]
  | .resume id => .array [.string "resume", id.toJson]
  | .terminate pid => .array [.string "terminate", .nat pid]

def Wakelock.toJson (w : Wakelock) : Value :=
  .array [.bool w.held, .nat w.grants, .nat w.releases]

def Record.toJson (sessionName : SessionId → String) (r : Record) : Value := .object [
  ("id", r.id.toJson), ("internal", r.state.toJson), ("state", r.state.shown.toJson),
  ("requested", r.requested.toJson), ("process", r.process.toJson), ("pid", .nat r.pid),
  ("session", .option (fun s => .string (sessionName s.id)) r.session),
  ("focused", .bool r.focused), ("stage", r.stage.toJson), ("exempt", .bool r.exempt),
  ("screenshot", .nat r.screenshot), ("can_be_resumed", .bool r.canBeResumed),
  ("timer", .bool r.timer.isArmed), ("passes", .nat r.passes), ("violations", .nat r.violations)]

namespace Effect

/-- The calls of the process controller. -/
def calls (journal : List Effect) : Value :=
  .array (journal.filterMap fun
    | .call c => some c.toJson
    | _ => none)

/-- The incidents, in words. -/
def incidents (journal : List Effect) : Value :=
  .array (journal.filterMap fun
    | .report incident => some (.string incident.message)
    | _ => none)

/-- What was asked of each session. -/
def actions (sessionName : SessionId → String) (journal : List Effect) : Value :=
  let asked := journal.filterMap fun
    | .ask session action => some (sessionName session.id, action.toJson)
    | _ => none
  .object ((asked.map (·.1)).eraseDups.map fun name =>
    (name, .array ((asked.filter (·.1 = name)).map (·.2))))

end Effect

/-- What is asked of a session, with the compositor that is told. -/
def Session.commandJson (session : Session) (action : SessionAction) : Value := .object [
  ("client", session.compositor.toJson), ("session", session.id.toJson), ("action", action.toJson)]

def LifecycleError.kind : LifecycleError → String
  | .alreadyRunning _ => "already_running"
  | .launchFailed _ _ => "launch_failed"
  | .invalidMetadata _ => "invalid_metadata"
  | .notFound _ => "not_found"
  | .unauthorized _ => "unauthorized"
  | .unsupportedStage _ _ => "unsupported_stage"
  | .loopClosed => "loop_closed"

end AppLifecycle
