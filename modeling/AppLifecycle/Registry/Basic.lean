import AppLifecycle.Record
import AppLifecycle.Registry.Event

/-!
# The registry

The registry owns the records of all applications in focus order, front first. It takes what shells
ask for, what the process controller reports and what compositors report to the right record,
decides which processes may open sessions, and announces every change.
-/

namespace AppLifecycle

/-- Why an operation was refused. -/
inductive LifecycleError where
  | alreadyRunning (id : AppId)
  | launchFailed (id : AppId) (reason : String)
  | invalidMetadata (id : AppId)
  | notFound (id : AppId)
  | unauthorized (pid : Nat)
  | unsupportedStage (id : AppId) (stage : Stage)
  /-- The registry is not served any more. -/
  | loopClosed
deriving DecidableEq

/-- An error in words. -/
def LifecycleError.message : LifecycleError → String
  | .alreadyRunning id => s!"Application already running: {id.text}"
  | .launchFailed id reason => s!"Failed to launch {id.text}: {reason}"
  | .invalidMetadata id => s!"No valid metadata for application: {id.text}"
  | .notFound id => s!"No such application: {id.text}"
  | .unauthorized pid => s!"Process {pid} is not authorized to open a session"
  | .unsupportedStage id stage =>
    s!"Application {id.text} does not support the {stage.label} stage"
  | .loopClosed => "Lifecycle loop is not running"

structure Registry where
  lifecycle : LifecyclePolicy
  authorization : AuthorizationPolicy
  /-- The records in focus order, front first. -/
  entries : List Record
  focused : Option AppId
  /-- Processes that may open one session each without being applications. -/
  helpers : List Nat
  /-- The events since they were last taken. -/
  events : List RegistryEvent
  wakelock : Wakelock
  /-- The effects since they were last taken. -/
  journal : List Effect
  /-- The number of the next record's share in the wakelock. -/
  nextOwner : Nat

namespace Registry

def empty (lifecycle : LifecyclePolicy) (authorization : AuthorizationPolicy) : Registry where
  lifecycle
  authorization
  entries := []
  focused := none
  helpers := []
  events := []
  wakelock := .idle
  journal := []
  nextOwner := 1

/-! ## Looking -/

/-- The place of the record with exactly this id. -/
def indexOf (reg : Registry) (id : AppId) : Option Nat := reg.entries.findIdx? (·.id = id)

/-- The record of an application. -/
def find (reg : Registry) (id : AppId) : Option Record :=
  reg.entries.find? (·.id = id.normalized)

def findByPid (reg : Registry) (pid : Nat) : Option Record := reg.entries.find? (·.pid = pid)

/-- The id of the record to which a session is attached. -/
def idForSession (reg : Registry) (session : SessionId) : Option AppId :=
  (reg.entries.find? fun r => r.session.map Session.id = some session).map Record.id

def views (reg : Registry) : List ApplicationView := reg.entries.map Record.view

/-- The ids and the focus, as an observer copies them. -/
def projection (reg : Registry) : Projection := ⟨reg.entries.map Record.id, reg.focused⟩

/-! ## Changing one record -/

def emit (reg : Registry) (events : List RegistryEvent) : Registry :=
  { reg with events := reg.events ++ events }

/-- The fields of a record that differ between two moments, in the order in which they are
announced. The focus is announced where it moves. -/
def changedFields (before after : Record) : List ModelField :=
  (if before.state.shown ≠ after.state.shown then [.state] else []) ++
  (if before.requested ≠ after.requested then [.requestedState] else []) ++
  (if before.stage ≠ after.stage then [.stage] else []) ++
  (if before.exempt ≠ after.exempt then [.exemptFromLifecycle] else []) ++
  (if before.screenshot ≠ after.screenshot then [.screenshot] else [])

/-- A record of the registry at the beginning of an operation. -/
def scene (reg : Registry) (record : Record) : Scene := ⟨record, reg.wakelock, reg.journal⟩

/-- Gives up the record at an index. -/
def removeAt (reg : Registry) (index : Nat) : Registry :=
  match reg.entries[index]? with
  | none => reg
  | some record =>
    let (wakelock, journal) := (reg.scene record).finish
    let entries := reg.entries.eraseIdx index
    let reg := ({ reg with entries, wakelock, journal }).emit
      [.removed index record.id, .countChanged entries.length]
    if reg.focused = some record.id then
      ({ reg with focused := none }).emit [.focusChanged none]
    else reg

/-- Runs `f` on the record with this id, announces the fields that it changed, and gives the record
up if it has stopped. -/
def withRecord {α : Type} (id : AppId) (f : Scene → α × Scene) (reg : Registry) :
    Option α × Registry :=
  match reg.indexOf id with
  | none => (none, reg)
  | some index =>
    match reg.entries[index]? with
    | none => (none, reg)
    | some record =>
      let (a, scene) := f (reg.scene record)
      let changed := (changedFields record scene.record).map (RegistryEvent.fieldChanged id)
      let reg := ({ reg with
        entries := reg.entries.set index scene.record
        wakelock := scene.wakelock
        journal := scene.journal }).emit changed
      (some a, if scene.record.state = .stopped then reg.removeAt index else reg)

/-- `withRecord` for a step without a result; whether there was such a record. -/
def onRecord (id : AppId) (f : Scene → Scene) (reg : Registry) : Bool × Registry :=
  let (found, reg) := reg.withRecord id fun s => ((), f s)
  (found.isSome, reg)

/-- Adds a new record at the front; `f` is what happens to it before it is added. -/
def track (host : Host) (descriptor : Descriptor) (arguments : List String) (exempt : Bool)
    (f : Scene → Scene) (reg : Registry) : Registry × Record :=
  let record :=
    Record.launched descriptor arguments exempt reg.lifecycle.closeTimeout ⟨reg.nextOwner⟩
  let scene := f (Scene.begin host record reg.wakelock reg.journal)
  let entries := scene.record :: reg.entries
  let reg := ({ reg with
    entries
    wakelock := scene.wakelock
    journal := scene.journal
    nextOwner := reg.nextOwner + 1 }).emit
      [.added 0 scene.record.id, .countChanged entries.length]
  (reg, scene.record)

def call (reg : Registry) (c : ControllerCall) : Registry :=
  { reg with journal := reg.journal ++ [.call c] }

/-! ## What shells ask for -/

/-- Launches an application. -/
def startApplication (host : Host) (id : AppId) (args : List String) (reg : Registry) :
    Except LifecycleError ApplicationView × Registry :=
  let id := id.normalized
  match reg.indexOf id with
  | some _ => (.error (.alreadyRunning id), reg)
  | none =>
    match host.findMetadata id with
    | none => (.error (.invalidMetadata id), reg)
    | some descriptor =>
      let reg := reg.call (.start id args)
      match host.start id args with
      | .error e => (.error (.launchFailed id e.message), reg)
      | .ok () =>
        let (reg, record) := reg.track host descriptor args (reg.lifecycle.isExempt id) fun s => s
        (.ok record.view, reg)

/-- Success if there was such a record. -/
def orNotFound (id : AppId) : Bool × Registry → Except LifecycleError Unit × Registry
  | (true, reg) => (.ok (), reg)
  | (false, reg) => (.error (.notFound id), reg)

/-- Closes an application. -/
def stopApplication (host : Host) (id : AppId) (reg : Registry) :
    Except LifecycleError Unit × Registry :=
  let id := id.normalized
  orNotFound id (reg.onRecord id (Scene.close host))

/-- Changes the focus flag of the first record with this id, and announces it if it differs. -/
def setFocused (reg : Registry) (id : AppId) (focused : Bool) : Registry :=
  match reg.entries.findIdx? (·.id = id) with
  | none => reg
  | some index =>
    match reg.entries[index]? with
    | none => reg
    | some record =>
      let changed := if record.focused ≠ focused then [.fieldChanged id .focused] else []
      ({ reg with entries := reg.entries.set index { record with focused } }).emit changed

/-- Moves an application to the front and focuses it. -/
def moveToFocusFront (id : AppId) (reg : Registry) : Except LifecycleError Unit × Registry :=
  let id := id.normalized
  match reg.indexOf id with
  | none => (.error (.notFound id), reg)
  | some index =>
    let reg : Registry :=
      match index, reg.entries[index]? with
      | 0, _ => reg
      | _, none => reg
      | index, some record =>
        ({ reg with entries := record :: reg.entries.eraseIdx index }).emit [.moved index 0]
    if reg.focused = some id then (.ok (), reg)
    else
      let reg : Registry :=
        match reg.focused with
        | none => reg
        | some old => ({ reg with focused := none }).setFocused old false
      let reg := reg.setFocused id true
      (.ok (), ({ reg with focused := some id }).emit [.focusChanged (some id)])

/-- Asks for a state; false if there is no such application. Exempt ones stay as they are. -/
def requestState (host : Host) (state : RequestedState) (id : AppId) (reg : Registry) :
    Bool × Registry :=
  let id := id.normalized
  if (reg.indexOf id).isNone then (false, reg)
  else if reg.lifecycle.isExempt id then (true, reg)
  else (true, (reg.onRecord id (Scene.request host state)).2)

def suspendApplication (host : Host) : AppId → Registry → Bool × Registry :=
  requestState host .suspended

def resumeApplication (host : Host) : AppId → Registry → Bool × Registry :=
  requestState host .running

def setExemptFromLifecycle (host : Host) (id : AppId) (exempt : Bool) (reg : Registry) :
    Except LifecycleError Unit × Registry :=
  let id := id.normalized
  orNotFound id (reg.onRecord id (Scene.setExempt host exempt))

def setStage (id : AppId) (stage : Stage) (reg : Registry) :
    Except LifecycleError Unit × Registry :=
  let id := id.normalized
  match reg.withRecord id (Scene.setStage stage) with
  | (some true, reg) => (.ok (), reg)
  | (some false, reg) => (.error (.unsupportedStage id stage), reg)
  | (none, reg) => (.error (.notFound id), reg)

def updateScreenshot (id : AppId) (reg : Registry) : Except LifecycleError Unit × Registry :=
  let id := id.normalized
  orNotFound id (reg.onRecord id Scene.updateScreenshot)

/-- Looks at the close timers that are armed. -/
def tick (host : Host) (now : Instant) (reg : Registry) : Registry :=
  let armed := (reg.entries.filter (·.timer.isArmed)).map Record.id
  armed.foldl (fun reg id => (reg.withRecord id (Scene.tick host now)).2) reg

/-! ## What the process controller reports -/

/-- A process has started. One that was not asked for is tracked from now on. -/
def onProcessStarting (host : Host) (id : AppId) (reg : Registry) : Registry :=
  let id := id.normalized
  let running (reg : Registry) : Registry := (reg.onRecord id (Scene.onProcess host .running)).2
  match reg.indexOf id with
  | none =>
    match host.findMetadata id with
    | none => reg
    | some descriptor =>
      let (reg, _) := reg.track host descriptor [] (reg.lifecycle.isExempt id) fun s => s
      running (reg.emit [.focusRequested id])
  | some index =>
    match reg.entries[index]? with
    | none => reg
    | some record =>
      if record.state = .stoppedResumable then running (reg.emit [.focusRequested id])
      else if record.state = .starting ∧ record.process = .unknown then running reg
      else reg

/-- A process has crashed. -/
def onProcessFailed (host : Host) (id : AppId) (reg : Registry) : Registry :=
  let id := id.normalized
  (reg.onRecord id fun s => (s.onProcess host .failed).setPid 0).2

/-- The exit of a process whose failure was reported before; its record is kept. -/
def keepsExit (r : Record) : Bool :=
  (r.state.shown = .suspended || r.state.shown = .stopped) && r.pid = 0 && r.canBeResumed &&
    r.state ≠ .stopped

/-- A process has ended. -/
def onProcessStopped (host : Host) (id : AppId) (reg : Registry) : Registry :=
  let id := id.normalized
  match (reg.indexOf id).bind (reg.entries[·]?) with
  | none => reg
  | some record =>
    if keepsExit record then reg
    else
      let (_, reg) := reg.onRecord id (Scene.onProcess host .stopped)
      match reg.indexOf id with
      | none => reg
      | some index => reg.removeAt index

/-- A process has been suspended. -/
def onProcessSuspended (host : Host) (id : AppId) (reg : Registry) : Registry :=
  (reg.onRecord id.normalized (Scene.onProcess host .suspended)).2

def onFocusRequested (id : AppId) (reg : Registry) : Registry :=
  reg.emit [.focusRequested id.normalized]

def onResumeRequested (host : Host) (id : AppId) (reg : Registry) : Registry :=
  match reg.find id with
  | none => reg
  | some record =>
    if record.state.shown = .suspended then
      (reg.onRecord id.normalized (Scene.request host .running)).2
    else reg

def handleProcessEvent (host : Host) (event : ProcessEvent) (reg : Registry) : Registry :=
  match event with
  | .starting id => reg.onProcessStarting host id
  | .stopped id => reg.onProcessStopped host id
  | .failed id _ => reg.onProcessFailed host id
  | .suspended id => reg.onProcessSuspended host id
  | .focusRequested id => reg.onFocusRequested id
  | .resumeRequested id => reg.onResumeRequested host id

/-! ## Sessions -/

/-- What stands before `suffix` in `s`, if `s` ends with it. -/
def dropEnd (suffix s : List Char) : List Char :=
  if suffix.isSuffixOf s then s.take (s.length - suffix.length) else s

/-- The application that a desktop file belongs to: the name of the file without its extension. -/
def idOfDesktopFile (hint : String) : Option AppId :=
  match Path.fileName? hint.toList with
  | none => none
  | some file =>
    let id := dropEnd ".desktop".toList file
    if id.isEmpty then none else some (AppId.mk (String.ofList id)).normalized

/-- Notes the process of the record at an index. -/
def setPidAt (reg : Registry) (index pid : Nat) : Registry :=
  { reg with entries := reg.entries.modify index fun r => { r with pid } }

/-- Whether a command line is that of a trusted helper. -/
def isTrusted (reg : Registry) (line : CommandLine) : Bool :=
  reg.authorization.trustedPrefixes.any line.startsWith ||
    reg.authorization.trustedSubstrings.any line.contains

/-- Whether a process may open a session: one of a starting application, a trusted helper, or one
that says which application it is. -/
def authorizeSession (host : Host) (pid : Nat) (reg : Registry) : Bool × Registry :=
  match reg.entries.findIdx? fun r => r.state = .starting && host.hasProcess r.id pid with
  | some index => (true, reg.setPidAt index pid)
  | none =>
    match host.commandLine pid with
    | .error _ => (false, reg)
    | .ok line =>
      if reg.isTrusted line then (true, { reg with helpers := reg.helpers.insert pid })
      else
        match (line.valueOf reg.authorization.desktopFileHint).bind idOfDesktopFile with
        | none => (false, reg)
        | some id =>
          match reg.indexOf id with
          | some index =>
            match reg.entries[index]? with
            | none => (false, reg)
            | some record =>
              if record.state = .starting then (true, reg.setPidAt index pid) else (false, reg)
          | none =>
            match host.findMetadata id with
            | none => (false, reg)
            | some descriptor =>
              let side := line.valueOf reg.authorization.stageHint = some "side_stage"
              let (reg, _) := reg.track host descriptor (line.args.drop 1)
                (reg.lifecycle.isExempt id) fun s =>
                  let s := s.setPid pid
                  if side then (s.setStage .side).2 else s
              (true, reg)

/-- A session has been opened: it is attached to the application of its process. A trusted helper's
session is left alone, and any other is told to stop. -/
def sessionStarting (session : Session) (reg : Registry) :
    Except LifecycleError (Option AppId) × Registry :=
  match reg.entries.find? fun r => r.pid = session.pid && r.state.shown ≠ .running with
  | some record => (.ok (some record.id), (reg.onRecord record.id (Scene.attach session)).2)
  | none =>
    if reg.helpers.contains session.pid then
      (.ok none, { reg with
        helpers := reg.helpers.erase session.pid
        journal := reg.journal ++ [.letGo session.id] })
    else
      (.error (.unauthorized session.pid), { reg with
        journal := reg.journal ++ [.ask session .stop, .letGo session.id] })

/-- A session reports a state. A record that stops with it is rid of it. -/
def sessionStateChanged (host : Host) (session : SessionId) (state : SessionState)
    (reg : Registry) : Registry :=
  match reg.idForSession session with
  | none => reg
  | some id =>
    (reg.onRecord id fun s =>
      let s := s.onSession host state
      if state = .stopped ∧ (s.record.state = .stopped ∨ s.record.state = .stoppedResumable) then
        s.detach
      else s).2

/-- A session has been torn down. -/
def sessionCloseCompleted (host : Host) (session : SessionId) (reg : Registry) : Registry :=
  reg.sessionStateChanged host session .stopped

/-! ## Taking what has gathered -/

/-- The events since they were last taken. -/
def takeEvents (reg : Registry) : List RegistryEvent × Registry :=
  (reg.events, { reg with events := [] })

/-- The effects since they were last taken. -/
def takeJournal (reg : Registry) : List Effect × Registry :=
  (reg.journal, { reg with journal := [] })

/-- The registry is given up with all its records. -/
def drop (reg : Registry) : Registry :=
  let (wakelock, journal) := reg.entries.foldl
    (fun (wakelock, journal) record => ({ record, wakelock, journal } : Scene).finish)
    (reg.wakelock, reg.journal)
  { reg with entries := [], focused := none, wakelock := wakelock.drop, journal }

end Registry

end AppLifecycle
