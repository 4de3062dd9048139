import AppLifecycle.Config.Raw
import AppLifecycle.Rehearsal.Machine.Children
import AppLifecycle.Rehearsal.Script

/-!
# Rehearsed processes

A program with one child that leads a group, and one that does not.
-/

namespace AppLifecycle

open Json (Value Fields)
open Rehearsal

/-- A child, and how it ended if that was asked. -/
structure Child where
  pid : Nat
  exit : Option ProcessExit

structure ProcessRehearsal where
  machine : Machine
  env : List (String × String)
  managed : Option Child
  plain : Option Child

/-- The error that the machine gives. -/
def HostError.toJson (e : HostError) : Value :=
  .object [("error", .string "host"), ("message", .string e.message)]

/-- The outcome of a request. -/
def HostError.okOr : Except HostError Unit → Value
  | .ok () => .string "ok"
  | .error e => e.toJson

namespace ProcessRehearsal

/-- The number of the program itself. -/
def self : Nat := 2000000

def start (env : List (String × String)) : ProcessRehearsal :=
  ⟨.idle [self], Machine.environment env, none, none⟩

/-- Takes note of how a child ended, if it has. -/
def look (m : Machine) (c : Child) : Child × Machine :=
  match m.collect? c.pid with
  | some (exit, m) => ({ c with exit := some exit }, m)
  | none => (c, m)

/-- Waits until a child has ended. -/
def await (m : Machine) (c : Child) : Child × Machine :=
  if c.exit.isSome then (c, m)
  else look (m.waitFor (·.isGone c.pid) Machine.longWait) c

/-- A step that concerns the child that leads a group. -/
def onManaged (r : ProcessRehearsal) (f : Child → Value × Child × Machine) :
    Value × ProcessRehearsal :=
  match r.managed with
  | none => (.null, r)
  | some c =>
    let (result, c, machine) := f c
    (result, { r with machine, managed := some c })

/-- A signal for the group of the child. -/
def signal (r : ProcessRehearsal) (signal : Signal) (result : Child → Machine → Value) :
    Value × ProcessRehearsal :=
  r.onManaged fun c =>
    let m := r.machine.signalLed signal c.pid
    (result c m, c, m)

/-- Waits for a child with a command line. -/
def awaitChild (m : Machine) (parent : Nat) (line : String) : Option Nat × Machine :=
  let m := m.waitFor (fun m => (m.childWith? parent line).isSome) Machine.longWait
  (m.childWith? parent line, m)

/-- Whether the child owns a process, which is named by what it is. -/
def ownsTarget (r : ProcessRehearsal) (target : String) : Value × ProcessRehearsal :=
  r.onManaged fun c =>
    let m := r.machine
    let owns (pid : Nat) : Value := .bool (m.owns c.pid pid)
    match target with
    | "self" => (owns c.pid, c, m)
    | "driver" => (owns self, c, m)
    | "nobody" => (owns Machine.nobody, c, m)
    | line =>
      let (pid, m) := awaitChild m c.pid line
      (.bool (pid.any (m.owns c.pid)), c, m)

/-- Asks a process to end as if it were a foreign one. Its number is not shown. -/
def terminateTarget (r : ProcessRehearsal) (target : String) : Value × ProcessRehearsal :=
  let pid := (match target with
    | "managed" => r.managed.map Child.pid
    | "plain" => r.plain.map Child.pid
    | _ => none).getD Machine.nobody
  let (result, machine) := r.machine.terminatePid (UInt32.ofNat pid)
  let shown :=
    match result with
    | .error (.noSuchProcess _) =>
      if pid = Machine.nobody then HostError.okOr result
      else .object [("error", .string "host"), ("message", .string "No such process: PID")]
    | _ => HostError.okOr result
  (shown, { r with machine })

def spawn (r : ProcessRehearsal) (args : List String) (settings : List (String × String))
    (dir : Option String) : Value × ProcessRehearsal :=
  match r.machine.spawn self r.env settings args dir with
  | .ok (pid, machine) =>
    let leads := (machine.process? pid).any (·.group = pid)
    (.object [("leads_group", .bool leads)], { r with machine, managed := some ⟨pid, none⟩ })
  | .error e => (e.toJson, r)

def spawnPlain (r : ProcessRehearsal) (args : List String) : Value × ProcessRehearsal :=
  match r.machine.launch ⟨args, r.env, none, self, false, false⟩ with
  | .ok (pid, machine) => (.null, { r with machine := machine.settle, plain := some ⟨pid, none⟩ })
  | .error _ => (.null, r)

/-- What a step results in. -/
def step? (r : ProcessRehearsal) : Value → Option (Value × ProcessRehearsal) :=
  let ok : Child → Machine → Value := fun _ _ => .string "ok"
  Json.step? "do" [
    ("spawn", Json.step (r.spawn <$> Fields.required "argv" (Json.list Json.text)
      <*> Fields.defaulted "set" [] (Json.dictionary Json.text)
      <*> Fields.optional "cwd" Json.text)),
    ("wait", .bare (r.onManaged fun c =>
      let (c, m) := await r.machine c
      (.option ProcessExit.toJson c.exit, c, m))),
    ("try_wait", .bare (r.onManaged fun c =>
      let (c, m) := look r.machine c
      (.option ProcessExit.toJson c.exit, c, m))),
    ("wait_gone", .bare (r.onManaged fun c =>
      let m := r.machine.waitFor (·.isGone c.pid) Machine.longWait
      (.bool (m.isGone c.pid), c, m))),
    ("terminate", .bare (r.signal .terminate ok)),
    ("kill", .bare (r.signal .kill ok)),
    ("thaw", .bare (r.signal .continue_ ok)),
    ("freeze", .bare (r.signal .stop fun c m =>
      .array [.string "ok", .bool (m.stateName c.pid = "stopped")])),
    ("owns", Json.step (r.ownsTarget <$> Fields.required "target" Json.text)),
    ("spawn_plain", Json.step (r.spawnPlain <$> Fields.required "argv" (Json.list Json.text))),
    ("wait_plain", .bare (
      match r.plain with
      | none => (.null, r)
      | some c =>
        let (c, machine) := await r.machine c
        (.option (fun e => .object e.members) c.exit, { r with machine, plain := some c }))),
    ("terminate_pid", Json.step (r.terminateTarget <$> Fields.required "target" Json.text))]

/-- Holds the wakelock by a command and gives it back. -/
def inhibit (env : List (String × String)) (command : List String) : Value :=
  match (Machine.idle [self]).spawnInhibitor self (Machine.environment env) command with
  | (.error e, _) => e.toJson
  | (.ok pid, m) =>
    let ended := (m.signalLed .terminate pid).waitFor (·.isGone pid) Machine.longWait
    .object [("held_by_child", .bool (!m.isGone pid)),
      ("gone_after_release",
        .bool (ended.isGone pid && ended.now ≤ m.now.add Machine.shortWait))]

/-- The command lines of a process that waits for input and calls itself by some arguments, and of a
process that there is not. -/
def inspect (args : List String) : Except HostError CommandLine × Except HostError CommandLine :=
  let (pid, m) := (Machine.idle [self]).addIdle self args
  ((m.commandFile pid).commandLine pid, (m.commandFile Machine.nobody).commandLine Machine.nobody)

end ProcessRehearsal

end AppLifecycle
