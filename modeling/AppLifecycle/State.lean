/-!
# States

The states of an application as its parts see them: the record's own, the simplified one that
shells are shown, what the shell asks for, and what the process and the session report.
-/

namespace AppLifecycle

/-! ## The record -/

/-- The state of a record. -/
inductive InternalState where
  | starting
  | running
  /-- Suspended as far as the shell is concerned; the process of an exempt application goes on. -/
  | runningInBackground
  /-- The session has been asked to suspend. -/
  | suspendingWaitSession
  /-- The session has suspended and the process has been asked to. -/
  | suspendingWaitProcess
  | suspended
  /-- The session has been asked to close. -/
  | closing
  /-- The process is gone, but the application can be launched again in its place. -/
  | stoppedResumable
  | stopped
deriving DecidableEq, Repr

/-- The state that shells and observers are shown. -/
inductive PublicState where
  | starting
  | running
  | suspended
  | stopped
deriving DecidableEq, Repr

namespace PublicState

def all : List PublicState := [.starting, .running, .suspended, .stopped]

def name : PublicState → String
  | .starting => "starting"
  | .running => "running"
  | .suspended => "suspended"
  | .stopped => "stopped"

end PublicState

namespace InternalState

def all : List InternalState :=
  [.starting, .running, .runningInBackground, .suspendingWaitSession, .suspendingWaitProcess,
    .suspended, .closing, .stoppedResumable, .stopped]

def name : InternalState → String
  | .starting => "starting"
  | .running => "running"
  | .runningInBackground => "running_in_background"
  | .suspendingWaitSession => "suspending_wait_session"
  | .suspendingWaitProcess => "suspending_wait_process"
  | .suspended => "suspended"
  | .closing => "closing"
  | .stoppedResumable => "stopped_resumable"
  | .stopped => "stopped"

/-- The name in diagnostics. -/
def label : InternalState → String
  | .starting => "Starting"
  | .running => "Running"
  | .runningInBackground => "RunningInBackground"
  | .suspendingWaitSession => "SuspendingWaitSession"
  | .suspendingWaitProcess => "SuspendingWaitProcess"
  | .suspended => "Suspended"
  | .closing => "Closing"
  | .stoppedResumable => "StoppedResumable"
  | .stopped => "Stopped"

/-- What of a state is shown. -/
def shown : InternalState → PublicState
  | .starting => .starting
  | .running => .running
  | .runningInBackground => .running
  | .suspendingWaitSession => .running
  | .suspendingWaitProcess => .running
  | .suspended => .suspended
  | .closing => .running
  | .stoppedResumable => .stopped
  | .stopped => .stopped

/-- The states in which an application keeps the device awake. -/
def holdsWakelock : InternalState → Bool
  | .starting => true
  | .running => true
  | .closing => true
  | _ => false

end InternalState

/-! ## The shell -/

/-- What the shell wants of an application. -/
inductive RequestedState where
  | running
  | suspended
deriving DecidableEq, Repr

namespace RequestedState

def all : List RequestedState := [.running, .suspended]

def name : RequestedState → String
  | .running => "running"
  | .suspended => "suspended"

/-- The name in diagnostics. -/
def label : RequestedState → String
  | .running => "Running"
  | .suspended => "Suspended"

end RequestedState

/-! ## The process -/

/-- What is known of a process. -/
inductive ProcessState where
  | unknown
  | running
  | suspended
  | failed
  | stopped
deriving DecidableEq, Repr

namespace ProcessState

def all : List ProcessState := [.unknown, .running, .suspended, .failed, .stopped]

def name : ProcessState → String
  | .unknown => "unknown"
  | .running => "running"
  | .suspended => "suspended"
  | .failed => "failed"
  | .stopped => "stopped"

/-- The name in diagnostics. -/
def label : ProcessState → String
  | .unknown => "Unknown"
  | .running => "Running"
  | .suspended => "Suspended"
  | .failed => "Failed"
  | .stopped => "Stopped"

end ProcessState

/-! ## The session -/

/-- What a graphical session reports of itself. -/
inductive SessionState where
  | starting
  | running
  | suspending
  | suspended
  | stopped
deriving DecidableEq, Repr

namespace SessionState

def all : List SessionState := [.starting, .running, .suspending, .suspended, .stopped]

def name : SessionState → String
  | .starting => "starting"
  | .running => "running"
  | .suspending => "suspending"
  | .suspended => "suspended"
  | .stopped => "stopped"

/-- The name in diagnostics. -/
def label : SessionState → String
  | .starting => "Starting"
  | .running => "Running"
  | .suspending => "Suspending"
  | .suspended => "Suspended"
  | .stopped => "Stopped"

end SessionState

/-- What a compositor is asked to do with a session. -/
inductive SessionAction where
  | suspend
  | resume
  | close
  | stop
deriving DecidableEq, Repr

namespace SessionAction

def all : List SessionAction := [.suspend, .resume, .close, .stop]

def name : SessionAction → String
  | .suspend => "suspend"
  | .resume => "resume"
  | .close => "close"
  | .stop => "stop"

end SessionAction

/-! ## What observers are told of -/

/-- A field of an application whose changes are announced. -/
inductive ModelField where
  | state
  | requestedState
  | focused
  | stage
  | screenshot
  | exemptFromLifecycle
deriving DecidableEq, Repr

namespace ModelField

def all : List ModelField :=
  [.state, .requestedState, .focused, .stage, .screenshot, .exemptFromLifecycle]

def name : ModelField → String
  | .state => "state"
  | .requestedState => "requested_state"
  | .focused => "focused"
  | .stage => "stage"
  | .screenshot => "screenshot"
  | .exemptFromLifecycle => "exempt_from_lifecycle"

end ModelField

end AppLifecycle
