import AppLifecycle.Protocol.Response
import AppLifecycle.Registry.Basic

/-!
# Refused requests

Why the daemon refuses a request, and the code and the words that the client gets.
-/

namespace AppLifecycle

/-- Why a request does not reach the registry, or finds nothing there. -/
inductive Refusal where
  | applicationNotFound (id : AppId)
  | permissionDenied (reason : String)
  | rateLimited
  | internal (reason : String)
deriving DecidableEq

namespace Refusal

def message : Refusal → String
  | .applicationNotFound id => s!"Application not found: {id.text}"
  | .permissionDenied reason => s!"Permission denied: {reason}"
  | .rateLimited => "Rate limited"
  | .internal reason => s!"Internal error: {reason}"

def code : Refusal → ErrorCode
  | .applicationNotFound _ => .notFound
  | .permissionDenied _ => .permissionDenied
  | .rateLimited => .rateLimited
  | .internal _ => .internalError

/-- What the client gets. -/
def info (r : Refusal) : ErrorInfo := ⟨r.code, r.message⟩

end Refusal

namespace LifecycleError

def code : LifecycleError → ErrorCode
  | .alreadyRunning _ => .alreadyRunning
  | .launchFailed _ _ => .launchFailed
  | .invalidMetadata _ => .invalidMetadata
  | .notFound _ => .notFound
  | .unauthorized _ => .unauthorized
  | .unsupportedStage _ _ => .unsupportedStage
  | .loopClosed => .internalError

/-- What the client gets. -/
def info (e : LifecycleError) : ErrorInfo := ⟨e.code, e.message⟩

end LifecycleError

/-- Why clients of a role may not give a command, if they may not. -/
def ClientRole.refusal? (role : ClientRole) (command : Command) : Option Refusal :=
  if command.isControlCommand ∧ ¬ role.canControl then
    some (.permissionDenied s!"{role.label} clients cannot change application state")
  else if command.isCompositorCommand ∧ ¬ role.canManageSessions then
    some (.permissionDenied s!"{role.label} clients cannot manage sessions")
  else none

end AppLifecycle
