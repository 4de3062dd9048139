import AppLifecycle.CommandLine
import AppLifecycle.Descriptor
import AppLifecycle.State
import AppLifecycle.Time
import AppLifecycle.Uuid
import AppLifecycle.Wakelock

/-!
# The surroundings

What the lifecycle core asks of the machine it runs on, as data: a `Host` holds the answers that an
operation gets, and the `Effect`s are what it does in turn. Every statement about an operation is
thereby a statement about all answers.
-/

namespace AppLifecycle

/-- Why the machine did not do what it was asked to. -/
inductive HostError where
  | launchFailed (reason : String)
  | stopFailed (reason : String)
  | unknownApplication (id : AppId)
  | noSuchProcess (pid : Nat)
  | wakelockUnavailable (reason : String)
  | permissionDenied (reason : String)
  | inputOutput (reason : String)
  | internal (reason : String)
deriving DecidableEq

/-- An error in words. -/
def HostError.message : HostError → String
  | .launchFailed reason => s!"Launch failed: {reason}"
  | .stopFailed reason => s!"Stop failed: {reason}"
  | .unknownApplication id => s!"Unknown application: {id.text}"
  | .noSuchProcess pid => s!"No such process: {pid}"
  | .wakelockUnavailable reason => s!"Wakelock unavailable: {reason}"
  | .permissionDenied reason => s!"Permission denied: {reason}"
  | .inputOutput reason => s!"IO error: {reason}"
  | .internal reason => s!"Internal error: {reason}"

/-- What the process controller reports. -/
inductive ProcessEvent where
  /-- A process of the application is starting, whoever launched it. -/
  | starting (id : AppId)
  /-- It ended cleanly, or was ended. -/
  | stopped (id : AppId)
  /-- It crashed. -/
  | failed (id : AppId) (duringStartup : Bool)
  /-- It was suspended as asked. -/
  | suspended (id : AppId)
  | focusRequested (id : AppId)
  | resumeRequested (id : AppId)
deriving DecidableEq

def ProcessEvent.id : ProcessEvent → AppId
  | .starting id => id
  | .stopped id => id
  | .failed id _ => id
  | .suspended id => id
  | .focusRequested id => id
  | .resumeRequested id => id

/-- A hold on a graphical session. -/
structure Session where
  id : SessionId
  /-- The process that opened it. -/
  pid : Nat
  /-- The compositor that announced it, to which all that is asked of the session goes. -/
  compositor : ClientId
deriving DecidableEq

/-- The answers an operation gets. -/
structure Host where
  now : Instant
  findMetadata : AppId → Option Descriptor
  /-- The outcome of launching an application with further arguments. -/
  start : AppId → List String → Except HostError Unit
  /-- The outcome of asking the processes of an application to end. -/
  stop : AppId → Except HostError Unit
  /-- The outcome of asking one process to end. -/
  terminate : Nat → Except HostError Unit
  /-- Whether a process belongs to an application. -/
  hasProcess : AppId → Nat → Bool
  commandLine : Nat → Except HostError CommandLine
  /-- The state a session reported last. -/
  sessionState : SessionId → SessionState
  grants : WakelockGrants

/-- A step that should not have been taken, given the state. It is skipped or taken all the same,
and always reported. -/
inductive Violation where
  | processUnknown
  | processFailed (state : InternalState)
  | processStopped (state : InternalState)
  /-- The process failed while its session had not stopped. -/
  | failedInSession (session : SessionState)
  /-- The process stopped while its session had not. -/
  | stoppedInSession (session : SessionState)
  | sessionSuspended (state : InternalState)
  | sessionRemoved (state : InternalState)
  | runningWithProcess (process : ProcessState)
  | suspendWhile (state : InternalState)
  | suspendWithoutSession
  | resumeWhile (state : InternalState)
  | resumeWithoutSession
  | closeWhileArmed
  | closeWithoutSession
deriving DecidableEq, Repr

/-- A violation in words. -/
def Violation.message : Violation → String
  | .processUnknown => "process state cannot go back to unknown"
  | .processFailed state => s!"process failed while {state.label}"
  | .processStopped state => s!"process stopped while {state.label}"
  | .failedInSession session => s!"process failed while the session is {session.label}"
  | .stoppedInSession session => s!"process stopped while the session is {session.label}"
  | .sessionSuspended state => s!"session suspended while {state.label}"
  | .sessionRemoved state => s!"session removed while {state.label}"
  | .runningWithProcess process => s!"running with process {process.label}"
  | .suspendWhile state => s!"suspend while {state.label}"
  | .suspendWithoutSession => "suspend without a session"
  | .resumeWhile state => s!"resume while {state.label}"
  | .resumeWithoutSession => "resume without a session"
  | .closeWhileArmed => "close while the close timer is armed"
  | .closeWithoutSession => "close without a session"

/-- What is reported as an error. -/
inductive Incident where
  | violated (violation : Violation)
  | respawnFailed
  | terminateFailed
deriving DecidableEq, Repr

/-- An incident in words. -/
def Incident.message : Incident → String
  | .violated violation => s!"Lifecycle invariant violated: {violation.message}"
  | .respawnFailed => "Failed to respawn application"
  | .terminateFailed => "Failed to terminate process"

/-- What is asked of the process controller. -/
inductive ControllerCall where
  | start (id : AppId) (args : List String)
  | stop (id : AppId)
  | suspend (id : AppId)
  | resume (id : AppId)
  | terminate (pid : Nat)
deriving DecidableEq

/-- What an operation does outside the registry. -/
inductive Effect where
  | call (call : ControllerCall)
  /-- Something is asked of a session. -/
  | ask (session : Session) (action : SessionAction)
  /-- The hold on a session is given up. -/
  | letGo (session : SessionId)
  | report (incident : Incident)
deriving DecidableEq

end AppLifecycle
