import AppLifecycle.Process.Exit
import AppLifecycle.Rehearsal.Machine.Files
import AppLifecycle.Rehearsal.Shell.Syntax
import AppLifecycle.Time

/-!
# Processes of a rehearsed machine

A process sleeps, runs a shell script or does something at once. Signals end it, freeze it or wake
the traps of its script; while it is frozen they wait.
-/

namespace AppLifecycle.Machine

open Shell (Script)

/-- What a shell still has to do. -/
inductive Task where
  | run (s : Script)
  /-- Runs if the last command succeeded. -/
  | ifDone (s : Script)
  /-- Runs if the last command failed. -/
  | ifFailed (s : Script)
  | negate
  /-- The test of a loop has run. -/
  | tested (wanted : Bool) (test body : Script)
  /-- A body runs with a parameter set to each of some values. -/
  | turns (name : String) (values : List String) (body : Script)
  /-- The test of a condition has run. -/
  | decided (yes no : Script)
  | leave (code : Nat)
deriving Repr

/-- What a shell waits for. -/
inductive Wait where
  | nothing
  /-- A command in the foreground. -/
  | child (pid : Nat)
  /-- Commands in the background; the status of the last one counts, if it was asked for. -/
  | jobs (pids : List Nat) (counts : Bool)
  /-- A line of input. -/
  | input
deriving DecidableEq, Repr

structure ShellState where
  tasks : List Task
  /-- The status of the last command. -/
  status : Nat
  /-- The parameters that commands inherit. -/
  env : List (String × String)
  /-- The other parameters. -/
  locals : List (String × String)
  /-- The positional parameters, from `$0` on. -/
  args : List String
  /-- What is done on a signal; zero stands for the end of the shell. -/
  traps : List (Nat × Script)
  /-- The signals whose traps have not run yet, oldest first. -/
  caught : List Signal
  /-- The process that the whole script counts as. -/
  main : Nat
  /-- The last command that was put into the background. -/
  lastJob : Option Nat
  wait : Wait
deriving Repr

/-- What a process does. -/
inductive Work where
  | ending (code : Nat)
  /-- Sleeps until some instant, or for ever. -/
  | sleeping (wake : Option Instant)
  | shell (state : ShellState)
deriving Repr

structure Process where
  pid : Nat
  parent : Nat
  group : Nat
  session : Nat
  /-- The name of the program. -/
  program : String
  args : List String
  dir : List String
  /-- The signals that have no effect. -/
  ignored : List Signal
  frozen : Bool
  /-- The signals that came while the process was frozen, oldest first. -/
  held : List Signal
  /-- Whether somebody may still write to the input of the process. -/
  inputOpen : Bool
  work : Work
  /-- How it ended; it stays until that is collected. -/
  exit : Option ProcessExit
deriving Repr

namespace Process

def isAlive (p : Process) : Bool := p.exit.isNone

def finish (exit : ProcessExit) (p : Process) : Process :=
  { p with exit := some exit, frozen := false, held := [] }

/-- The trap for a signal. -/
def trap? (p : Process) (signal : Signal) : Option ShellState :=
  match p.work with
  | .shell s => if (s.traps.lookup signal.number).isSome then some s else none
  | _ => none

/-- What a signal does to a process that is not frozen. -/
def react (p : Process) (signal : Signal) : Process :=
  if !p.isAlive || (p.ignored.contains signal && signal.isMild) then p
  else
    match p.trap? signal with
    | some s => { p with work := .shell { s with caught := s.caught ++ [signal] } }
    | none =>
      match signal.disposition with
      | .ends => p.finish (.signal signal)
      | .stops => { p with frozen := true }
      | .continues => p
      | .ignored => p

/-- What a signal does to a process. -/
def signalled (signal : Signal) (p : Process) : Process :=
  if !p.isAlive || signal.number = 0 then p
  else if signal = .kill ∨ signal = .stop then p.react signal
  else if signal = .continue_ then
    (p.held.foldl react { p with frozen := false, held := [] }).react signal
  else if p.frozen then { p with held := p.held ++ [signal] }
  else p.react signal

/-- The letter of a process in a listing. -/
def letter (p : Process) : String :=
  if !p.isAlive then "Z" else if p.frozen then "T" else "S"

/-- The line of a process in a listing: its number, program, state, parent, group and session. -/
def statLine (p : Process) : String :=
  s!"{p.pid} ({p.program}) {p.letter} {p.parent} {p.group} {p.session} 0 -1 0"

end Process

end AppLifecycle.Machine

namespace AppLifecycle

open Machine (Process)

structure Machine where
  now : Instant
  /-- The number of the next process. -/
  next : Nat
  /-- The processes outside that start others. -/
  outside : List Nat
  /-- The processes, also those that have ended and have not been collected. -/
  processes : List Process

namespace Machine

/-- The process that takes over those whose parent has gone. -/
def reaper : Nat := 1

/-- A machine in which nothing runs yet. -/
def idle (outside : List Nat) : Machine := ⟨⟨0⟩, 3000000, outside, []⟩

def process? (m : Machine) (pid : Nat) : Option Process := m.processes.find? (·.pid = pid)

def put (m : Machine) (p : Process) : Machine :=
  { m with processes := m.processes.map fun q => if q.pid = p.pid then p else q }

/-- Processes whose parent has gone are taken over; those of them that have ended vanish. -/
def tidy (m : Machine) : Machine :=
  let runs (pid : Nat) : Bool :=
    m.outside.contains pid || m.processes.any fun p => p.pid = pid && p.isAlive
  let adopted := m.processes.map fun p => if runs p.parent then p else { p with parent := reaper }
  { m with processes := adopted.filter fun p => p.isAlive || p.parent ≠ reaper }

/-- A signal for all processes of a kind. -/
def signalAll (m : Machine) (signal : Signal) (whom : Process → Bool) : Machine :=
  let touched := m.processes.map fun p => if whom p then p.signalled signal else p
  tidy { m with processes := touched }

def signalProcess (m : Machine) (signal : Signal) (pid : Nat) : Machine :=
  m.signalAll signal (·.pid = pid)

def signalGroup (m : Machine) (signal : Signal) (group : Nat) : Machine :=
  m.signalAll signal (·.group = group)

/-- Takes note of the end of a process and forgets it. -/
def collect? (m : Machine) (pid : Nat) : Option (ProcessExit × Machine) := do
  let exit ← (← m.process? pid).exit
  return (exit, { m with processes := m.processes.filter (·.pid ≠ pid) })

end Machine

end AppLifecycle
