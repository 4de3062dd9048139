import AppLifecycle.Daemon.Startup
import AppLifecycle.Rehearsal.Machine.Disk
import AppLifecycle.Rehearsal.Workshop
import AppLifecycle.Server.Basic

/-!
# The daemon on a rehearsed machine

The whole daemon: it reads its configuration, binds its sockets, launches programs and serves
clients until a signal ends it. What it does by itself, it does at its times: the monitor looks at
the processes and the registry is told that time has passed.
-/

namespace AppLifecycle

open Rehearsal

structure Service where
  workshop : Workshop
  server : Server
  disk : Disk
  /-- The sockets and the roles of those who connect through them, in the order of binding. -/
  endpoints : List (Path × ClientRole)
  wakelock : WakelockPolicy
  /-- The process that keeps the device awake. -/
  inhibitor : Option Nat
  tickInterval : Duration
  nextTick : Instant
  /-- How the daemon has ended. -/
  ended : Option ProcessExit

namespace Service

/-- The number of the daemon. -/
def self : Nat := 2000001

/-! ## The daemon's surroundings -/

/-- The outcome of taking the wakelock. -/
def grants (s : Service) : Bool :=
  if s.wakelock.enabled then
    match (s.workshop.machine.spawnInhibitor self s.workshop.env s.wakelock.command).1 with
    | .ok _ => true
    | .error _ => false
  else true

/-- The machine as an operation meets it. -/
def host (s : Service) : Host where
  now := s.workshop.machine.now
  findMetadata := s.workshop.controller.find
  start id args := (s.workshop.launch id args).map fun _ => ()
  stop id := (s.workshop.stop id).map fun _ => ()
  terminate pid := (s.workshop.terminate pid).1
  hasProcess := s.workshop.hasProcess
  commandLine pid := (s.workshop.machine.commandFile pid).commandLine pid
  sessionState _ := .stopped
  grants _ := s.grants

def updateMachine (f : Machine → Machine) (s : Service) : Service :=
  { s with workshop := { s.workshop with machine := f s.workshop.machine } }

/-- The inhibitor is asked to end; it is forgotten when it has. -/
def letSleep (s : Service) : Service :=
  match s.inhibitor with
  | none => s
  | some pid => { s.updateMachine fun m => m.signalLed .terminate pid with inhibitor := none }

/-- The inhibitor runs as long as the registry holds the wakelock. -/
def keepAwake (s : Service) : Service :=
  match s.server.daemon.registry.wakelock.held && s.wakelock.enabled, s.inhibitor with
  | true, none =>
    match s.workshop.machine.spawnInhibitor self s.workshop.env s.wakelock.command with
    | (.ok pid, machine) =>
      { s with workshop := { s.workshop with machine }, inhibitor := some pid }
    | (.error _, _) => s
  | false, some _ => s.letSleep
  | _, _ => s

/-- What was asked of the process controller. -/
def call? : Effect → Option ControllerCall
  | .call call => some call
  | _ => none

/-- The server does something, and what it asks of the machine is done. -/
def act (f : Host → Server → Server) (s : Service) : Service :=
  let (effects, server) := (f s.host s.server).takeEffects
  let workshop := (effects.filterMap call?).foldl Workshop.perform s.workshop
  keepAwake { s with server, workshop }

/-! ## Turns -/

/-- The daemon takes its next turn: an event of a process comes before a message of a client. -/
def turn? (s : Service) : Option Service :=
  match s.workshop.controller.stream with
  | event :: stream =>
    let controller := { s.workshop.controller with stream }
    let s := { s with workshop := { s.workshop with controller } }
    some (s.act fun host server => server.step (.processEvent host event))
  | [] =>
    if s.server.queue.isEmpty then none else some (s.act fun host server => server.handleNext host)

/-- Takes so many turns at most. -/
def turns : Nat → Service → Service
  | 0, s => s
  | fuel + 1, s =>
    match s.turn? with
    | none => s
    | some s => turns fuel s

/-- More turns than a rehearsal takes at one go. -/
def patience : Nat := 1000

/-- Lets all take turns until nothing is left to do for now. -/
def settle (s : Service) : Service :=
  ((s.turns patience).act Server.settle).turns patience

/-! ## Time -/

/-- The registry is told that time has passed. -/
def tick (s : Service) : Service :=
  let ticked := s.act fun host server => server.onDaemon (Daemon.tick host)
  settle { ticked with nextTick := s.workshop.machine.now.add s.tickInterval }

/-- Whether the registry is to be told that time has passed. -/
def isDue (s : Service) : Bool := s.ended.isNone && s.nextTick ≤ s.workshop.machine.now

/-- Time passes on the machine. -/
def passOnMachine (t : Instant) (s : Service) : Service :=
  settle { s with workshop := s.workshop.passUntil t }

/-- Time passes until some instant. -/
def passUntil (s : Service) (t : Instant) : Service :=
  let passed := s.passOnMachine t
  if passed.isDue then passed.tick else passed

/-- Lets time pass until the next thing happens. -/
def passOn (s : Service) : Service :=
  let w := s.workshop
  let mine := if s.ended.isNone then some s.nextTick else none
  let next := Workshop.earlier (Workshop.earlier w.machine.nextWake? w.monitor) mine
  match next with
  | some t => s.passUntil t
  | none => s

/-- Lets time pass until something holds, or for too long. -/
def waitFor (holds : Service → Bool) : Nat → Service → Service
  | 0, s => s
  | fuel + 1, s => if holds s then s else waitFor holds fuel s.passOn

/-! ## Beginning and end -/

/-- How many requests a client may make in a second. -/
def requestBudget : Nat := 30

/-- Starts the daemon with a command line. -/
def start (outside : List Nat) (env : Environment) (args : List String) (disk : Disk) :
    Except StartupFailure Service := do
  let options ← (Options.ofArgs env args).mapError .usage
  let path := options.configPath env
  let refused (e : ConfigError) : StartupFailure := .failed (.configNotLoaded path e)
  let text ← (disk.read path.text).mapError fun e => refused (.notRead e.message)
  let policy ← (Policy.ofToml env text).mapError refused
  let shells := options.shellSocket policy.daemon
  let compositors := options.compositorSocketPath policy.daemon
  let notBound (path : Path) (reason : String) : StartupFailure := .failed (.notBound path reason)
  let disk ← (disk.bind shells.text).mapError (notBound shells)
  let disk ← (disk.bind compositors.text).mapError (notBound compositors)
  let machine := Machine.idle (self :: outside)
  let workshop := Workshop.start machine self env policy.applications policy.lifecycle.startupGrace
  let daemon := Daemon.start policy.lifecycle policy.authorization
  return {
    workshop := { workshop with monitor := some machine.now }
    server := .start (.new requestBudget (.ofSeconds 1)) daemon
    disk
    endpoints := [(shells, .shell), (compositors, .compositor)]
    wakelock := policy.wakelock
    inhibitor := none
    tickInterval := policy.lifecycle.tickInterval
    nextTick := machine.now
    ended := none }

/-- The signals on which the daemon ends in order. -/
def orderly (signal : Signal) : Bool :=
  [Signal.terminate, Signal.interrupt, Signal.ofName? "HUP" |>.getD .terminate].contains signal

/-- The daemon takes its sockets away. -/
def removeSockets (s : Service) : Service :=
  { s with disk := s.endpoints.foldl (fun d (path, _) => d.remove (Disk.place path.text)) s.disk }

/-- The daemon gets a signal. If it ends in order it tells everybody, lets the device sleep and
takes its sockets away. -/
def signalled (signal : Signal) (s : Service) : Service :=
  if s.ended.isSome then s
  else
    let s :=
      if orderly signal then
        let told := s.act fun host server => (server.broadcast .shutdown).settle host
        { told.letSleep.removeSockets with ended := some (.code 0) }
      else if signal.disposition = .ends then { s with ended := some (.signal signal) }
      else s
    if s.ended.isSome then
      { s.updateMachine fun m => Machine.tidy { m with outside := m.outside.erase self } with
        workshop.monitor := none }
    else s

end Service

end AppLifecycle
