import AppLifecycle.CloseTimer
import AppLifecycle.Host
import AppLifecycle.LifecyclePolicy
import AppLifecycle.Protocol.Response

/-!
# Application records

A record reconciles three independent inputs: what the shell wants of an application, what is known
of its process, and what its session reports. Each input moves the record between its nine states
and has effects: the session is told to suspend, resume or close, the process is suspended, resumed,
launched or ended, the share in the wakelock and the close timer follow the state.

The functions act on a `Scene`: the record together with the wakelock it shares and the journal of
effects.
-/

namespace AppLifecycle

structure Record where
  id : AppId
  descriptor : Descriptor
  arguments : List String
  state : InternalState
  requested : RequestedState
  process : ProcessState
  /-- Zero where no process is known. -/
  pid : Nat
  session : Option Session
  exempt : Bool
  stage : Stage
  focused : Bool
  screenshot : Nat
  timer : CloseTimer
  owner : WakelockOwner
  /-- How often the record was brought in line with what is requested. -/
  passes : Nat
  /-- How many violations there were. -/
  violations : Nat
deriving DecidableEq

namespace Record

/-- A record of an application that has been launched, before it shares the wakelock. -/
def launched (descriptor : Descriptor) (arguments : List String) (exempt : Bool)
    (closeTimeout : Duration) (owner : WakelockOwner) : Record where
  id := descriptor.id
  descriptor
  arguments
  state := .starting
  requested := .running
  process := .unknown
  pid := 0
  session := none
  exempt
  stage := descriptor.stage
  focused := false
  screenshot := 0
  timer := .new closeTimeout
  owner
  passes := 0
  violations := 0

/-- A process was seen at some time, so that there is something to launch again. -/
def canBeResumed (r : Record) : Bool := r.process ≠ .unknown

/-- The application keeps the device awake. -/
def wantsWakelock (r : Record) : Bool := !r.exempt && r.state.holdsWakelock

/-- What shells and observers see. -/
def view (r : Record) : ApplicationView where
  id := r.id
  name := r.descriptor.name
  comment := r.descriptor.comment
  icon := r.descriptor.icon
  state := r.state.shown
  internal := r.state
  requested := r.requested
  process := r.process
  pid := r.pid
  focused := r.focused
  stage := r.stage
  stages := r.descriptor.stages.toList
  orientations := r.descriptor.orientations.toList
  exempt := r.exempt
  canBeResumed := r.canBeResumed
  screenshot := r.screenshot

end Record

/-- A record in the middle of an operation. -/
structure Scene where
  record : Record
  wakelock : Wakelock
  /-- What has been done, in order. -/
  journal : List Effect

namespace Scene

/-! ## Single steps -/

def log (s : Scene) (e : Effect) : Scene := { s with journal := s.journal ++ [e] }

def call (s : Scene) (c : ControllerCall) : Scene := s.log (.call c)

def update (s : Scene) (f : Record → Record) : Scene := { s with record := f s.record }

/-- Reports a violation and counts it. -/
def violate (s : Scene) (v : Violation) : Scene :=
  (s.update fun r => { r with violations := r.violations + 1 }).log (.report (.violated v))

/-- Lets the share in the wakelock follow the state. -/
def syncWakelock (host : Host) (s : Scene) : Scene :=
  if s.record.wantsWakelock then
    { s with wakelock := s.wakelock.acquire host.grants s.record.owner }
  else { s with wakelock := s.wakelock.release s.record.owner }

/-- Moves to another state. The close timer runs while the record is closing only. -/
def enter (host : Host) (state : InternalState) (s : Scene) : Scene :=
  if s.record.state = state then s
  else
    let leavesClosing := s.record.state = .closing
    let entered := s.update fun r =>
      { r with state, timer := if leavesClosing then r.timer.cancel else r.timer }
    entered.syncWakelock host

/-- Asks something of the session; there has to be one. -/
def askSession (s : Scene) (action : SessionAction) (absent : Violation) : Scene :=
  match s.record.session with
  | some session => s.log (.ask session action)
  | none => s.violate absent

/-! ## Reconciliation -/

/-- Begins to suspend a running application. An exempt one goes on in the background. -/
def suspend (host : Host) (s : Scene) : Scene :=
  if s.record.state ≠ .running then s.violate (.suspendWhile s.record.state)
  else
    match s.record.session with
    | none => s.violate .suspendWithoutSession
    | some session =>
      if s.record.exempt then s.enter host .runningInBackground
      else (s.log (.ask session .suspend)).enter host .suspendingWaitSession

/-- Undoes a suspension, as far as it has come. -/
def resume (host : Host) (s : Scene) : Scene :=
  let wakeProcess (s : Scene) : Scene :=
    ((s.enter host .running).call (.resume s.record.id)).update fun r =>
      { r with process := if r.process = .suspended then .running else r.process }
  match s.record.state with
  | .suspended => (wakeProcess s).askSession .resume .resumeWithoutSession
  | .suspendingWaitProcess => (wakeProcess s).askSession .resume .resumeWithoutSession
  | .suspendingWaitSession => (s.enter host .running).askSession .resume .resumeWithoutSession
  | .runningInBackground => s.enter host .running
  | state => s.violate (.resumeWhile state)

/-- Launches the application again in place of a process that is gone. -/
def respawn (host : Host) (s : Scene) : Scene :=
  let s := (s.update fun r => { r with pid := 0, process := .unknown }).enter host .starting
  let s := s.call (.start s.record.id s.record.arguments)
  match host.start s.record.id s.record.arguments with
  | .ok () => s
  | .error _ => (s.log (.report .respawnFailed)).enter host .stopped

/-- Brings the record in line with what is requested, as far as its state allows it now. -/
def reconcile (host : Host) (s : Scene) : Scene :=
  let s := s.update fun r => { r with passes := r.passes + 1 }
  match s.record.requested, s.record.state with
  | .running, .runningInBackground => s.resume host
  | .running, .suspendingWaitSession => s.resume host
  | .running, .suspended => s.resume host
  | .running, .stoppedResumable => s.respawn host
  | .suspended, .running =>
    match s.record.process with
    | .running => s.suspend host
    | .unknown => s
    | process => s.violate (.runningWithProcess process)
  | _, _ => s

/-! ## Closing and stopping -/

/-- Asks the session to close and starts the timer. -/
def beginClose (host : Host) (s : Scene) : Scene :=
  if s.record.timer.isArmed then s.violate .closeWhileArmed
  else
    match s.record.session with
    | none => s.violate .closeWithoutSession
    | some session =>
      ((s.log (.ask session .close)).update fun r =>
        { r with timer := r.timer.arm host.now }).enter host .closing

/-- Ends the application through the controller; failing that, its process; failing that, a launch
that never produced a process is over. -/
def forceStop (host : Host) (s : Scene) : Scene :=
  let s := (s.update fun r => { r with timer := r.timer.cancel }).call (.stop s.record.id)
  match host.stop s.record.id with
  | .ok () => s
  | .error _ =>
    if 0 < s.record.pid then
      let s := s.call (.terminate s.record.pid)
      match host.terminate s.record.pid with
      | .ok () => s
      | .error _ => s.log (.report .terminateFailed)
    else if s.record.state = .starting ∧ s.record.process = .unknown then s.enter host .stopped
    else s

/-! ## What the shell wants -/

/-- The shell asks for a state. -/
def request (host : Host) (value : RequestedState) (s : Scene) : Scene :=
  if s.record.requested = value then s
  else (s.update fun r => { r with requested := value }).reconcile host

/-- The shell exempts the application from the lifecycle, or subjects it to it. -/
def setExempt (host : Host) (exempt : Bool) (s : Scene) : Scene :=
  if s.record.exempt = exempt then s
  else (s.update fun r => { r with exempt }).syncWakelock host

/-- The shell chooses a stage, which has to be supported. -/
def setStage (stage : Stage) (s : Scene) : Bool × Scene :=
  if s.record.descriptor.stages.supports stage then (true, s.update fun r => { r with stage })
  else (false, s)

/-- The shell asks for a new screenshot. -/
def updateScreenshot (s : Scene) : Scene :=
  s.update fun r => { r with screenshot := r.screenshot + 1 }

/-- The shell closes the application. A suspended session is woken first. -/
def close (host : Host) (s : Scene) : Scene :=
  match s.record.state with
  | .starting => s.forceStop host
  | .running => s.beginClose host
  | .runningInBackground => (s.request host .running).beginClose host
  | .suspendingWaitSession => (s.request host .running).beginClose host
  | .suspendingWaitProcess => (s.request host .running).beginClose host
  | .suspended => (s.request host .running).beginClose host
  | .closing => s
  | .stoppedResumable => s.enter host .stopped
  | .stopped => s

/-- Looks at the close timer; whether it fired. -/
def tick (host : Host) (now : Instant) (s : Scene) : Bool × Scene :=
  let (fired, timer) := s.record.timer.poll now
  let s := s.update fun r => { r with timer }
  if fired then (true, s.forceStop host) else (false, s)

/-! ## What the process does -/

def setPid (pid : Nat) (s : Scene) : Scene := s.update fun r => { r with pid }

/-- A process should not end before its session has. -/
def checkSessionStopped (host : Host) (violation : SessionState → Violation) (s : Scene) : Scene :=
  match s.record.session with
  | none => s
  | some session =>
    match host.sessionState session.id with
    | .stopped => s
    | state => s.violate (violation state)

/-- The state of the process has changed. -/
def onProcess (host : Host) (process : ProcessState) (s : Scene) : Scene :=
  if s.record.process = process then s
  else
    let s : Scene := s.update fun r => { r with process }
    let s : Scene :=
      match process with
      | .unknown => s.violate .processUnknown
      | .running => if s.record.state = .stoppedResumable then s.enter host .starting else s
      | .suspended =>
        -- a frozen process could not close
        if s.record.state = .closing then s.call (.resume s.record.id)
        else s.enter host .suspended
      | .failed =>
        let s := s.checkSessionStopped host .failedInSession
        match s.record.state with
        | .starting => s.enter host .stopped
        | .stopped => s
        | .stoppedResumable => s
        | state => s.violate (.processFailed state)
      | .stopped =>
        let s := s.checkSessionStopped host .stoppedInSession
        match s.record.state with
        | .starting => s.enter host .stopped
        | .stoppedResumable => s.enter host .stopped
        | .closing => s.enter host .stopped
        | .suspendingWaitProcess => s.enter host .stopped
        | .stopped => s
        | state => s.violate (.processStopped state)
    s.reconcile host

/-! ## What the session does -/

/-- The session reports a state. -/
def onSession (host : Host) (session : SessionState) (s : Scene) : Scene :=
  match session with
  | .starting => s
  | .suspending => s
  | .running =>
    if s.record.state = .starting then (s.enter host .running).reconcile host else s
  | .suspended =>
    if s.record.state = .suspendingWaitSession then
      (s.enter host .suspendingWaitProcess).call (.suspend s.record.id)
    else s.violate (.sessionSuspended s.record.state)
  | .stopped =>
    if s.record.state = .suspendingWaitProcess ∧ s.record.process ≠ .failed then
      (s.beginClose host).call (.resume s.record.id)
    else if !s.record.canBeResumed || s.record.state = .starting || s.record.state = .running ||
        s.record.state = .closing then
      s.enter host .stopped
    else s.enter host .stoppedResumable

/-- What a session is told when it is attached to a record in a state. -/
def greeting : InternalState → SessionAction
  | .starting => .resume
  | .running => .resume
  | .runningInBackground => .resume
  | .closing => .resume
  | .suspendingWaitSession => .suspend
  | .suspendingWaitProcess => .suspend
  | .suspended => .suspend
  | .stopped => .stop
  | .stoppedResumable => .stop

/-- Gives up the hold on the session, if there is one. -/
def letGoSession (s : Scene) : Scene :=
  match s.record.session with
  | none => s
  | some session => (s.update fun r => { r with session := none }).log (.letGo session.id)

/-- Attaches a session in place of the one before. -/
def attach (session : Session) (s : Scene) : Scene :=
  let s := s.letGoSession.update fun r => { r with session := some session }
  s.log (.ask session (greeting s.record.state))

/-- Detaches the session of an application that has stopped. -/
def detach (s : Scene) : Scene :=
  if s.record.state = .stopped ∨ s.record.state = .stoppedResumable then s.letGoSession
  else s.violate (.sessionRemoved s.record.state)

/-! ## The beginning and the end -/

/-- A new record begins to share the wakelock. -/
def begin (host : Host) (record : Record) (wakelock : Wakelock) (journal : List Effect) : Scene :=
  ({ record, wakelock, journal } : Scene).syncWakelock host

/-- A record is given up: its share in the wakelock and its hold on the session end. -/
def finish (s : Scene) : Wakelock × List Effect :=
  let s := { s with wakelock := s.wakelock.release s.record.owner }
  let s := s.letGoSession
  (s.wakelock, s.journal)

end Scene

end AppLifecycle
