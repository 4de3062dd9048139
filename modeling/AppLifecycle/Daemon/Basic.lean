import AppLifecycle.Daemon.Refusal
import AppLifecycle.Daemon.SessionTable

/-!
# The daemon

The daemon carries out the commands of clients. It keeps the table of sessions, and it serves the
registry: commands that need an answer are served at once, while what compositors report of their
sessions waits in a queue, which is worked off before the next command that needs an answer.
-/

namespace AppLifecycle

/-- A report of a session that has not reached the registry yet. -/
inductive SessionReport where
  | state (session : SessionId) (state : SessionState)
  | closed (session : SessionId)
deriving DecidableEq

/-- What a report does to the registry. -/
def SessionReport.apply (host : Host) (reg : Registry) : SessionReport → Registry
  | .state session reported => reg.sessionStateChanged host session reported
  | .closed session => reg.sessionCloseCompleted host session

/-- The session that is not held any more after an effect. -/
def Effect.released? : Effect → Option SessionId
  | .letGo session => some session
  | _ => none

/-- What a client is answered, or why it is refused. -/
abbrev Answer := Except ErrorInfo ResponsePayload

structure Daemon where
  registry : Registry
  /-- The registry is served. -/
  serving : Bool
  sessions : SessionTable
  /-- The reports that wait, oldest first. -/
  reports : List SessionReport
  /-- The effects since they were last taken. -/
  effects : List Effect

namespace Daemon

def start (lifecycle : LifecyclePolicy) (authorization : AuthorizationPolicy) : Daemon where
  registry := .empty lifecycle authorization
  serving := true
  sessions := .empty
  reports := []
  effects := []

/-! ## Serving the registry -/

/-- Runs an operation of the registry. Sessions report to it through the table, and the table
forgets those whose hold is given up. -/
def run {α : Type} (host : Host) (f : Host → Registry → α × Registry) (d : Daemon) : α × Daemon :=
  let (a, registry) := f { host with sessionState := d.sessions.stateOf } d.registry
  let (journal, registry) := registry.takeJournal
  (a, { d with
    registry
    sessions := (journal.filterMap Effect.released?).foldl SessionTable.remove d.sessions
    effects := d.effects ++ journal })

/-- Works off the reports that wait. -/
def drain (host : Host) (d : Daemon) : Daemon :=
  d.reports.foldl (fun d report => (d.run host fun host reg => ((), report.apply host reg)).2)
    { d with reports := [] }

/-- Runs an operation that needs an answer, after the reports that wait. -/
def serve {α : Type} (host : Host) (f : Host → Registry → α × Registry) (d : Daemon) :
    Except LifecycleError α × Daemon :=
  if d.serving then
    let (a, d) := (d.drain host).run host f
    (.ok a, d)
  else (.error .loopClosed, d)

/-- `serve` with the answer for the client. -/
def ask {α : Type} (host : Host) (f : Host → Registry → α × Registry) (answer : α → Answer)
    (d : Daemon) : Answer × Daemon :=
  match d.serve host f with
  | (.error e, d) => (.error e.info, d)
  | (.ok a, d) => (answer a, d)

/-- The answer for an outcome of an operation. -/
def outcome {α : Type} (payload : α → ResponsePayload) : Except LifecycleError α → Answer
  | .ok a => .ok (payload a)
  | .error e => .error e.info

/-- The answer for a success. -/
def acknowledged : Except LifecycleError Unit → Answer := outcome fun () => .ack

/-! ## Commands -/

/-- How the daemon fares. -/
def health (reg : Registry) : HealthStatus :=
  ⟨true, true, reg.entries.length, reg.wakelock.held⟩

/-- A compositor announces a session. It is given up again if the registry does not take it. -/
def announce (host : Host) (client : ClientInfo) (session : SessionId) (pid : Nat) (d : Daemon) :
    Answer × Daemon :=
  let d := { d with sessions := d.sessions.register session client.clientId pid }
  let answer : Option AppId → ResponsePayload
    | some id => .sessionAttached id
    | none => .ack
  match d.serve host fun _ reg => reg.sessionStarting ⟨session, pid, client.clientId⟩ with
  | (.error e, d) => (.error e.info, { d with sessions := d.sessions.remove session })
  | (.ok result, d) => (outcome answer result, d)

/-- A compositor reports a state of a session. Reports of unknown sessions are ignored, and only the
compositor that announced a session may report of it. -/
def report (client : ClientInfo) (session : SessionId) (state : SessionState)
    (report : SessionReport) (d : Daemon) : Answer × Daemon :=
  match d.sessions.owner? session with
  | none => (.ok .ack, d)
  | some owner =>
    if owner = client.clientId then
      let d := { d with sessions := d.sessions.setState session state }
      if d.serving then (.ok .ack, { d with reports := d.reports ++ [report] })
      else (.error LifecycleError.loopClosed.info, d)
    else
      let reason := s!"Session {session.text} belongs to another compositor"
      (.error (Refusal.permissionDenied reason).info, d)

/-- Carries out a command that the client may give. -/
def carryOut (host : Host) (client : ClientInfo) (command : Command) (d : Daemon) :
    Answer × Daemon :=
  match command with
  | .listApplications => d.ask host (fun _ reg => (reg.views, reg)) fun views =>
    .ok (.applications views)
  | .getApplication id => d.ask host (fun _ reg => (reg.find id, reg)) fun
    | some record => .ok (.application record.view)
    | none => .error (Refusal.applicationNotFound id).info
  | .startApplication id args =>
    d.ask host (fun host reg => reg.startApplication host id args) (outcome .started)
  | .stopApplication id => d.ask host (fun host reg => reg.stopApplication host id) acknowledged
  | .focusApplication id => d.ask host (fun _ reg => reg.moveToFocusFront id) acknowledged
  | .suspendApplication id =>
    d.ask host (fun host reg => reg.suspendApplication host id) fun ok => .ok (.accepted ok)
  | .resumeApplication id =>
    d.ask host (fun host reg => reg.resumeApplication host id) fun ok => .ok (.accepted ok)
  | .setExemptFromLifecycle id exempt =>
    d.ask host (fun host reg => reg.setExemptFromLifecycle host id exempt) acknowledged
  | .setStage id stage => d.ask host (fun _ reg => reg.setStage id stage) acknowledged
  | .updateScreenshot id => d.ask host (fun _ reg => reg.updateScreenshot id) acknowledged
  | .subscribeEvents => (.ok (.subscribed client.clientId), d)
  | .unsubscribeEvents => (.ok .unsubscribed, d)
  | .getHealth => d.ask host (fun _ reg => (health reg, reg)) fun status => .ok (.health status)
  | .authorizeSession pid =>
    d.ask host (fun host reg => reg.authorizeSession host pid) fun ok => .ok (.authorization ok)
  | .sessionStarting session pid => d.announce host client session pid
  | .sessionStateChanged session state => d.report client session state (.state session state)
  | .sessionCloseCompleted session => d.report client session .stopped (.closed session)
  | .ping => (.ok .pong, d)

/-- Carries out a command, if the client may give it. -/
def handle (host : Host) (client : ClientInfo) (command : Command) (d : Daemon) :
    Answer × Daemon :=
  match client.role.refusal? command with
  | some refusal => (.error refusal.info, d)
  | none => d.carryOut host client command

/-- Answers a request. -/
def respond (host : Host) (client : ClientInfo) (request : Request) (d : Daemon) :
    Response × Daemon :=
  match d.handle host client request.command with
  | (.ok payload, d) => (.success request.requestId payload, d)
  | (.error e, d) => (.error request.requestId e, d)

/-! ## What happens by itself -/

/-- A client has gone: nobody answers for its sessions any more. -/
def disconnect (client : ClientId) (d : Daemon) : Daemon :=
  let lost := (d.sessions.idsOf client).map fun id => SessionReport.state id .stopped
  { d with
    sessions := d.sessions.orphan client
    reports := if d.serving then d.reports ++ lost else d.reports }

/-- The process controller reports something. It does not have to wait. -/
def onProcessEvent (host : Host) (event : ProcessEvent) (d : Daemon) : Daemon :=
  if d.serving then (d.run host fun host reg => ((), reg.handleProcessEvent host event)).2 else d

/-- Time passes. -/
def tick (host : Host) (d : Daemon) : Daemon :=
  if d.serving then (d.run host fun host reg => ((), reg.tick host host.now)).2 else d

/-- The registry is served no longer; false if that was so before. -/
def shutdown (host : Host) (d : Daemon) : Bool × Daemon :=
  if d.serving then (true, { d.drain host with serving := false }) else (false, d)

/-! ## Taking what has gathered -/

/-- The events since they were last taken, as clients are told of them. -/
def takeEvents (d : Daemon) : List EventPayload × Daemon :=
  let (events, registry) := d.registry.takeEvents
  (events.map RegistryEvent.payload, { d with registry })

/-- The effects since they were last taken. -/
def takeEffects (d : Daemon) : List Effect × Daemon := (d.effects, { d with effects := [] })

end Daemon

end AppLifecycle
