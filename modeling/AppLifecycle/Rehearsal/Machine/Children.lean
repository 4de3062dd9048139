import AppLifecycle.Process.Inhibitor
import AppLifecycle.Process.Inspector
import AppLifecycle.Process.Termination
import AppLifecycle.Rehearsal.Machine.Run

/-!
# Children on a rehearsed machine

What a program does with its children: it launches them, each as the leader of a group, sends
signals to the groups, asks who belongs to a group, and reads command lines.
-/

namespace AppLifecycle.Machine

/-- The number of a process that there never is. -/
def nobody : Nat := 2147483647

/-- Why a program could not be launched. -/
def launchRefusal (program : String) (e : SystemError) : HostError :=
  .launchFailed s!"Failed to spawn {program}: {e.message}"

/-- Launches a program as the leader of a group, with settings over the inherited environment. -/
def spawn (m : Machine) (parent : Nat) (env settings : List (String × String)) (args : List String)
    (dir : Option String) : Except HostError (Nat × Machine) :=
  match args with
  | [] => .error (.launchFailed "Empty argv")
  | program :: _ =>
    match m.launch ⟨args, setAll env settings, dir, parent, true, false⟩ with
    | .ok (pid, m) => .ok (pid, m.settle)
    | .error e => .error (launchRefusal program e)

/-- A signal for the group of a process, which may have gone. -/
def signalLed (m : Machine) (signal : Signal) (pid : Nat) : Machine :=
  (m.signalGroup signal pid).settle

/-- Whether a process is the leader of a group or belongs to it. -/
def owns (m : Machine) (leader pid : Nat) : Bool :=
  pid = leader || (m.process? pid).any (·.group = leader)

/-- What the system answers about signals. -/
def answers (m : Machine) : SignalAnswers where
  groupOf pid :=
    (m.processes.find? fun p => Int32.ofNat p.pid = pid).map fun p => Int32.ofNat p.group
  send whom :=
    let reached := m.processes.any fun p =>
      Int32.ofNat p.pid = whom || -Int32.ofNat p.group = whom
    if reached then .ok () else .error .noSuchProcess

/-- Asks a foreign process to end. -/
def terminatePid (m : Machine) (pid : UInt32) : Except HostError Unit × Machine :=
  let t := Termination.ofPid m.answers pid
  let m := t.sent.foldl (fun m whom => m.signalAll .terminate fun p =>
    Int32.ofNat p.pid = whom || -Int32.ofNat p.group = whom) m
  (t.result, m.settle)

/-- What is found in the place of the file with the command line of a process. -/
def commandFile (m : Machine) (pid : Nat) : CommandFile :=
  match m.process? pid with
  | none => .absent
  | some p =>
    if p.isAlive then .bytes (p.args.flatMap fun arg => arg.toUTF8.toList ++ [0]) else .bytes []

/-- Whether a process has ended, whoever knows of it. -/
def isGone (m : Machine) (pid : Nat) : Bool := !(m.process? pid).any Process.isAlive

/-- The state of a process as seen from outside. -/
def stateName (m : Machine) (pid : Nat) : String :=
  match m.process? pid with
  | none => "gone"
  | some p => if !p.isAlive then "gone" else if p.frozen then "stopped" else "alive"

/-- A living child with a command line. -/
def childWith? (m : Machine) (parent : Nat) (line : String) : Option Nat :=
  (m.processes.find? fun p =>
    p.isAlive && p.parent = parent && " ".intercalate p.args = line).map Process.pid

/-- A process that waits for a line of input and calls itself by some arguments. -/
def addIdle (m : Machine) (parent : Nat) (args : List String) : Nat × Machine :=
  let line := args.headD "" :: "-c" :: "read x" :: args
  let m' := m.add {
    pid := m.next, parent, group := parent, session := parent, program := "sh", args := line
    dir := Files.workDirectory, ignored := [], frozen := false, held := [], inputOpen := true
    work := shellWork m.next parent [] line, exit := none }
  (m.next, m'.settle)

/-- Nobody writes to the input of a process any more. -/
def closeInput (m : Machine) (pid : Nat) : Machine :=
  match m.process? pid with
  | some p => (m.put { p with inputOpen := false }).settle
  | none => m

/-- More steps of time than any wait takes. -/
def longWait : Nat := 1000

/-- How long a wait for a signal to take effect is. -/
def shortWait : Duration := .ofSeconds 5

/-- Launches an inhibitor and gives it the time in which it must not end. -/
def spawnInhibitor (m : Machine) (parent : Nat) (env : List (String × String))
    (command : List String) : Except HostError Nat × Machine :=
  match m.spawn parent env [] command none with
  | .error e => (.error (.wakelockUnavailable e.message), m)
  | .ok (pid, m) =>
    let m := m.passUntil (m.now.add Inhibitor.patience)
    let (exit, m) : Option ProcessExit × Machine :=
      match m.collect? pid with
      | some (exit, m) => (some exit, m)
      | none => (none, m)
    ((Inhibitor.outcome command (.ok exit)).map fun () => pid, m)

end AppLifecycle.Machine
