import AppLifecycle.Policy.Json
import AppLifecycle.Process.Controller
import AppLifecycle.Rehearsal.ManagedProcess

/-!
# The process controller on a rehearsed machine

The controller launches programs on a machine, and a monitor looks at the processes ten times a
second once it has been started.
-/

namespace AppLifecycle

open Json (Value Fields)
open Machine (Process)
open Rehearsal

structure Workshop where
  machine : Machine
  controller : Controller
  /-- The program that the controller belongs to. -/
  self : Nat
  env : List (String × String)
  /-- When the monitor looks next, if it runs. -/
  monitor : Option Instant
  /-- Somebody receives the events. -/
  listening : Bool
  /-- The processes that were launched, the newest first. -/
  launched : List (AppId × Nat)

namespace Workshop

/-- How often the monitor looks. -/
def monitorPeriod : Duration := .ofMillis 100

def start (machine : Machine) (self : Nat) (env : List (String × String))
    (catalog : List Descriptor) (grace : Duration) : Workshop :=
  ⟨machine, .start catalog grace, self, Machine.environment env, none, true, []⟩

/-! ## The controller's operations -/

/-- Launches an application and announces it. -/
def launch (w : Workshop) (id : AppId) (args : List String) : Except HostError Workshop := do
  let d ← w.controller.launchable id
  let (pid, machine) ← w.machine.spawn w.self w.env d.env (d.argv args) (d.cwd.map Path.text)
  return { w with
    machine
    controller := (w.controller.track id pid machine.now).announce id
    launched := (id, pid) :: w.launched }

/-- Asks the process of an application to end; it is thawed first, because a frozen one would not
notice. -/
def stop (w : Workshop) (id : AppId) : Except HostError Workshop := do
  let t ← w.controller.stoppable id
  return { w with
    machine := (w.machine.signalLed .continue_ t.pid).signalLed .terminate t.pid
    controller := w.controller.markStopping id }

def suspend (w : Workshop) (id : AppId) : Workshop :=
  match w.controller.tracked? id with
  | none => w
  | some t => { w with
      machine := w.machine.signalLed .stop t.pid
      controller := w.controller.suspended id }

def resume (w : Workshop) (id : AppId) : Workshop :=
  match w.controller.tracked? id with
  | none => w
  | some t => { w with machine := w.machine.signalLed .continue_ t.pid }

def hasProcess (w : Workshop) (id : AppId) (pid : Nat) : Bool :=
  (w.controller.tracked? id).any fun t => w.machine.owns t.pid pid

def terminate (w : Workshop) (pid : Nat) : Except HostError Unit × Workshop :=
  let (result, machine) := w.machine.terminatePid (UInt32.ofNat pid)
  (result, { w with machine })

/-- The monitor looks at the processes. It ends if it has something to report and nobody receives
it. -/
def look (w : Workshop) : Workshop :=
  let exits (pid : Nat) : Option ProcessExit := (w.machine.process? pid).bind Process.exit
  let ended := (w.controller.tracked.map Tracked.pid).filter fun pid => (exits pid).isSome
  let collected := w.controller.collect exits w.machine.now
  let reported := collected.collected.length.repeat Controller.reportNext collected
  let next := some (w.machine.now.add monitorPeriod)
  { w with
    machine := ended.foldl (fun m pid => ((m.collect? pid).map (·.2)).getD m) w.machine
    controller := reported
    monitor := if !w.listening && !ended.isEmpty then none else next }

/-- Carries out what was asked of the controller. -/
def perform (w : Workshop) : ControllerCall → Workshop
  | .start id args =>
    match w.launch id args with
    | .ok w => w
    | .error _ => w
  | .stop id =>
    match w.stop id with
    | .ok w => w
    | .error _ => w
  | .suspend id => w.suspend id
  | .resume id => w.resume id
  | .terminate pid => (w.terminate pid).2

/-! ## Time -/

/-- The earlier one of two instants that may come. -/
def earlier : Option Instant → Option Instant → Option Instant
  | some a, some b => some (if a ≤ b then a else b)
  | none, b => b
  | a, none => a

/-- Time passes until some instant. -/
def passUntil (w : Workshop) (t : Instant) : Workshop :=
  let w := { w with machine := w.machine.passUntil t }
  if w.monitor.any (· ≤ w.machine.now) then w.look else w

/-- Lets time pass until something holds, or until nothing will happen any more, or for too long. -/
def waitFor (holds : Workshop → Bool) : Nat → Workshop → Workshop
  | 0, w => w
  | fuel + 1, w =>
    if holds w then w
    else
      match earlier w.machine.nextWake? w.monitor with
      | some t => waitFor holds fuel (w.passUntil t)
      | none => w

/-! ## Steps -/

/-- An event of a process in words. -/
def eventJson (event : ProcessEvent) : Value :=
  let name :=
    match event with
    | .starting _ => "starting"
    | .stopped _ => "stopped"
    | .failed _ true => "failed_during_startup"
    | .failed _ false => "failed"
    | .suspended _ => "suspended"
    | .focusRequested _ => "focus_requested"
    | .resumeRequested _ => "resume_requested"
  .object [("event", .string name), ("id", event.id.toJson)]

/-- The newest process of an application. -/
def pidOf (w : Workshop) (id : AppId) : Nat := (w.launched.lookup id).getD Machine.nobody

/-- An error; the numbers of processes in it are not shown. -/
def errorJson (w : Workshop) (e : HostError) : Value :=
  let message := w.launched.foldl (fun s (_, pid) => s.replace (toString pid) "PID") e.message
  .object [("error", .string "host"), ("message", .string message)]

/-- The outcome of a request that may fail. -/
def requested (w : Workshop) : Except HostError Workshop → Value × Workshop
  | .ok w => (.string "ok", w)
  | .error e => (w.errorJson e, w)

def terminateStep (w : Workshop) (id : AppId) : Value × Workshop :=
  match w.terminate (w.pidOf id) with
  | (.ok (), w) => (.string "ok", w)
  | (.error e, w) => (w.errorJson e, w)

/-- What a step results in. -/
def step? (w : Workshop) : Value → Option (Value × Workshop) :=
  let silent (w : Workshop) : Value × Workshop := (.null, w)
  let shown (b : Bool) : Value × Workshop := (.bool b, w)
  Json.step? "do" [
    ("start", Json.step
      ((fun id args => w.requested (w.launch id args)) <$> idField <*> argsField)),
    ("stop", Json.step ((fun id => w.requested (w.stop id)) <$> idField)),
    ("suspend", Json.step ((fun id => silent (w.suspend id)) <$> idField)),
    ("resume", Json.step ((fun id => silent (w.resume id)) <$> idField)),
    ("has_process", Json.step
      ((fun id pid => shown (w.hasProcess id pid)) <$> idField <*> pidField)),
    ("has_child_of", Json.step
      ((fun id other => shown (w.hasProcess id (w.pidOf other))) <$> idField
        <*> Fields.required "of" AppId.decoder)),
    ("terminate", Json.step (w.terminateStep <$> idField)),
    ("signal", Json.step
      ((fun id name => silent { w with
          machine :=
            (w.machine.signalProcess ((Signal.ofName? name).getD ⟨0⟩) (w.pidOf id)).settle })
        <$> idField <*> Fields.required "signal" Json.text)),
    ("state", Json.step
      ((fun id want =>
          let reached (w : Workshop) : Bool := w.machine.stateName (w.pidOf id) = want
          let after := w.waitFor reached Machine.longWait
          if reached after then (.bool true, after) else shown false)
        <$> idField <*> Fields.required "want" Json.text)),
    ("find_metadata", Json.step
      ((fun id => (.option Descriptor.toJson (w.controller.find id), w)) <$> idField)),
    ("subscribe", .bare (.object [("error", .string "panic")], w)),
    ("monitor", .bare (silent { w with monitor := some w.machine.now })),
    ("await", .bare (silent (w.waitFor (!·.controller.stream.isEmpty) Machine.longWait))),
    ("unlisten", .bare (silent { w with listening := false })),
    ("monitor_ends", .bare (
      let after := w.waitFor (·.monitor.isNone) Machine.longWait
      (.bool after.monitor.isNone, after)))]

/-- A step, and the events that somebody has received in it. -/
def answer? (w : Workshop) (v : Value) : Option (Value × Workshop) := do
  let (result, w) ← w.step? v
  let (events, controller) := w.controller.takeStream
  let received := if w.listening then events.map eventJson else []
  return (.object [("result", result), ("events", .array received)], { w with controller })

end Workshop

end AppLifecycle
