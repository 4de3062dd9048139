import AppLifecycle.Rehearsal.Machine.Launch

/-!
# Running a rehearsed machine

Each process takes a step when it can: a sleeper ends when its time has come, and a shell goes on to
its next task unless it waits. The machine settles when no process can take a step; then only time
or a signal brings it further.
-/

namespace AppLifecycle.Machine

open Shell (Script Word)

/-- The status that the end of a command counts as. -/
def statusOf : ProcessExit → Nat
  | .code n => n
  | .signal s => 128 + s.number

/-- The greatest number of a signal. -/
def lastSignal : Nat := 64

/-- The signal of a number, or of a name in either case; zero stands for the end of the shell. -/
def signalOf? (s : String) : Option Signal :=
  match s.toNat? with
  | some n => if n ≤ lastSignal then some ⟨n⟩ else none
  | none => if s.toUpper = "EXIT" then some ⟨0⟩ else Signal.ofName? s.toUpper

namespace ShellState

/-- Goes on with a status. -/
def done (s : ShellState) (status : Nat) : ShellState := { s with status, wait := .nothing }

def push (s : ShellState) (tasks : List Task) : ShellState := { s with tasks := tasks ++ s.tasks }

/-- Sets a parameter; one that is inherited stays so. -/
def assign (s : ShellState) (name value : String) : ShellState :=
  if (s.env.lookup name).isSome then { s with env := setAll s.env [(name, value)] }
  else { s with locals := setAll s.locals [(name, value)] }

/-- A parameter is inherited from now on. -/
def publish (s : ShellState) (setting : String) : ShellState :=
  match setting.splitOn "=" with
  | [name] =>
    match s.locals.lookup name with
    | some value =>
      { s with env := setAll s.env [(name, value)], locals := s.locals.filter (·.1 ≠ name) }
    | none => s
  | name :: value => { s with
      env := setAll s.env [(name, "=".intercalate value)]
      locals := s.locals.filter (·.1 ≠ name) }
  | [] => s

end ShellState

/-- A shell goes on in a state. -/
def goOn (m : Machine) (p : Process) (s : ShellState) : Machine :=
  m.put { p with work := .shell s }

/-- A shell ends, after the trap for that. -/
def leave (m : Machine) (p : Process) (s : ShellState) (code : Nat) : Machine :=
  match s.traps.lookup 0 with
  | some script =>
    m.goOn p { s with tasks := [.run script, .leave code], traps := s.traps.filter (·.1 ≠ 0) }
  | none => m.put (p.finish (.code (code % 256)))

/-- A shell sets what is done on a signal. -/
def setTrap (p : Process) (s : ShellState) (action : String) (signal : Signal) :
    Process × ShellState :=
  let traps := s.traps.filter (·.1 ≠ signal.number)
  let heeded := p.ignored.filter (· ≠ signal)
  match action, Script.ofString action with
  | "", _ => ({ p with ignored := signal :: heeded }, { s with traps })
  | "-", _ => ({ p with ignored := heeded }, { s with traps })
  | _, some script =>
    ({ p with ignored := heeded }, { s with traps := (signal.number, script) :: traps })
  | _, none => (p, s)

/-- A shell sends a signal to processes and groups, its own one by the number zero. The status
tells whether all could be reached; one that is no number is a fault. -/
def sendAll (m : Machine) (own : Nat) (signal : Signal) : List String → Machine × Nat
  | [] => (m, 0)
  | target :: rest =>
    let (m, reached) : Machine × Option Bool :=
      match target.toInt? with
      | some (.ofNat 0) => (m.signalGroup signal own, some true)
      | some (.ofNat pid) => (m.signalProcess signal pid, some (m.process? pid).isSome)
      | some (.negSucc n) =>
        (m.signalGroup signal (n + 1), some (m.processes.any (·.group = n + 1)))
      | none => (m, none)
    match reached with
    | none => (m, 2)
    | some reached =>
      let (m, status) := sendAll m own signal rest
      (m, if reached then status else max status 1)

/-- A shell carries out `kill`. -/
def killCommand (m : Machine) (own : Nat) (args : List String) : Machine × Nat :=
  let (signal, targets) : Option Signal × List String :=
    match args with
    | "-s" :: name :: "--" :: targets => (signalOf? name, targets)
    | "-s" :: name :: targets => (signalOf? name, targets)
    | "--" :: targets => (some .terminate, targets)
    | a :: rest =>
      if a.startsWith "-" then (signalOf? (a.drop 1).toString, rest) else (some .terminate, args)
    | [] => (none, [])
  match signal with
  | some signal => m.sendAll own signal targets
  | none => (m, 2)

/-- A shell goes on after `kill`, unless it has hit itself. -/
def afterKill (m : Machine) (pid status : Nat) : Machine :=
  match m.process? pid with
  | none => m
  | some p =>
    match p.work with
    | .shell s => if p.isAlive then m.goOn p (s.done status) else m
    | _ => m

/-- The commands of a shell that are running in the background. -/
def jobsOf (m : Machine) (p : Process) : List Nat :=
  (m.processes.filter (·.parent = p.pid)).map Process.pid

/-- A shell launches a command and waits for it. -/
def callProgram (m : Machine) (p : Process) (s : ShellState) (env : List (String × String))
    (args : List String) : Machine :=
  match m.launch ⟨args, env, none, p.pid, false, p.inputOpen⟩ with
  | .ok (child, m) => m.goOn p { s with wait := .child child }
  | .error .noSuchFile => m.goOn p (s.done 127)
  | .error _ => m.goOn p (s.done 126)

/-- A shell becomes another program. -/
def become (m : Machine) (p : Process) (s : ShellState) (env : List (String × String))
    (args : List String) : Machine :=
  let search := (env.lookup "PATH").getD searchPath
  match Files.findProgram p.dir search (args.headD "") with
  | .ok (name, program) =>
    m.put { p with program := name, args, work := m.workOf p.pid p.parent env p.dir program args }
  | .error .noSuchFile => m.leave p s 127
  | .error _ => m.leave p s 126

/-- The commands that a shell carries out itself. -/
def builtins : List String :=
  ["exit", "trap", "wait", "kill", "set", "shift", "cd", "read", "exec", "eval", "export", "unset",
    "umask", ":", "true", "false", "echo", "printf", "pwd", "test", "["]

/-- A shell carries out a command; `env` is what the command inherits. -/
def command (m : Machine) (p : Process) (s : ShellState) (env : List (String × String))
    (args : List String) : Machine :=
  match args with
  | [] => m.goOn p (s.done 0)
  | ["exit"] => m.leave p s s.status
  | "exit" :: code :: _ => m.leave p s ((code.toNat?.filter (· < 2147483648)).getD 2)
  | "trap" :: "--" :: rest => trapCommand rest
  | "trap" :: rest => trapCommand rest
  | ["wait"] => m.goOn p { s with wait := .jobs (m.jobsOf p) false }
  | "wait" :: pids => m.goOn p { s with wait := .jobs (pids.filterMap String.toNat?) true }
  | "kill" :: rest =>
    let (m, status) := (m.goOn p s).killCommand p.group rest
    m.afterKill p.pid status
  | "set" :: "--" :: rest => m.goOn p { s.done 0 with args := s.args.take 1 ++ rest }
  | "set" :: _ => m.goOn p (s.done 0)
  | "shift" :: rest =>
    let n := (rest.head?.bind String.toNat?).getD 1
    if n < s.args.length then
      m.goOn p { s.done 0 with args := s.args.take 1 ++ s.args.drop (n + 1) }
    else m.leave p s 2
  | "unset" :: names => m.goOn p { s.done 0 with
      env := s.env.filter fun setting => setting.1 ∉ names
      locals := s.locals.filter fun setting => setting.1 ∉ names }
  | "cd" :: path :: _ =>
    match Files.enter p.dir path with
    | .ok dir => m.goOn { p with dir } (s.done 0)
    | .error _ => m.goOn p (s.done 2)
  | "read" :: _ => m.goOn p { s with wait := .input }
  | "exec" :: rest => if rest.isEmpty then m.goOn p (s.done 0) else m.become p s env rest
  | "eval" :: rest =>
    match Script.ofString (" ".intercalate rest) with
    | some script => m.goOn p ((s.done 0).push [.run script])
    | none => m.leave p s 2
  | "export" :: settings => m.goOn p (settings.foldl ShellState.publish (s.done 0))
  | "umask" :: _ => m.goOn p (s.done 0)
  | _ =>
    match Utility.run (.ofMachine m p.pid p.dir env) args with
    | some (status, _) => m.goOn p (s.done status)
    | none => m.callProgram p s env args
where
  trapCommand : List String → Machine
    | action :: signals =>
      let (p, s) :=
        (signals.filterMap signalOf?).foldl (fun (p, s) x => setTrap p s action x) (p, s)
      m.goOn p (s.done 0)
    | [] => m.goOn p (s.done 0)

/-- A shell of its own for a script, as a child of a shell. -/
def fork (m : Machine) (p : Process) (s : ShellState) (script : Script) (behind : Bool) : Machine :=
  let state := { s with
    tasks := [.run script], traps := [], caught := [], lastJob := none, wait := .nothing }
  m.add { p with
    pid := m.next, parent := p.pid, held := []
    ignored := if behind then .interrupt :: .quit :: p.ignored else p.ignored
    inputOpen := p.inputOpen && !behind
    work := .shell state }

/-- A script in the background. A program takes the place of the shell that was made for it. -/
def lead : Script → Script
  | .simple settings (w :: ws) =>
    if (Shell.literal? w).any fun name => name ∈ builtins then .simple settings (w :: ws)
    else .simple settings ([.text "exec"] :: w :: ws)
  | s => s

/-- A shell does a task. -/
def perform (m : Machine) (p : Process) (s : ShellState) : Task → Machine
  | .leave code => m.leave p s code
  | .negate => m.goOn p (s.done (if s.status = 0 then 1 else 0))
  | .ifDone script => m.goOn p (if s.status = 0 then s.push [.run script] else s)
  | .ifFailed script => m.goOn p (if s.status = 0 then s else s.push [.run script])
  | .decided yes no => m.goOn p (s.push [.run (if s.status = 0 then yes else no)])
  | .turns _ [] _ => m.goOn p s
  | .turns name (value :: values) body =>
    m.goOn p ((s.assign name value).push [.run body, .turns name values body])
  | .tested wanted test body =>
    if (s.status = 0) = wanted then
      m.goOn p (s.push [.run body, .run (.loop wanted test body)])
    else m.goOn p (s.done 0)
  | .run script =>
    match script with
    | .nothing => m.goOn p s
    | .both a b => m.goOn p (s.push [.run a, .ifDone b])
    | .either a b => m.goOn p (s.push [.run a, .ifFailed b])
    | .sequence a b => m.goOn p (s.push [.run a, .run b])
    | .negated a => m.goOn p (s.push [.run a, .negate])
    | .loop wanted test body => m.goOn p (s.push [.run test, .tested wanted test body])
    | .choice test yes no => m.goOn p (s.push [.run test, .decided yes no])
    | .each name words body =>
      let values := s.expand (.ofMachine m p.pid p.dir s.env) words
      m.goOn p ((s.done 0).push [.turns name values body])
    | .apart a => (m.fork p s a false).goOn p { s with wait := .child m.next }
    | .background a =>
      (m.fork p s (lead a) true).goOn p { s.done 0 with lastJob := some m.next }
    | .simple settings words =>
      let view := View.ofMachine m p.pid p.dir s.env
      let values := settings.map fun (name, w) => (name, s.expandWhole view w)
      match s.expand view words with
      | [] => m.goOn p (values.foldl (fun s (name, value) => s.assign name value) (s.done 0))
      | args => m.command p s (setAll s.env values) args

/-- Whether a shell heeds its traps while it waits. -/
def heedsTraps : Wait → Bool
  | .child _ => false
  | _ => true

/-- A shell runs the trap for a signal that it has caught; what it waited for is given up. -/
def runTrap (m : Machine) (p : Process) (s : ShellState) (signal : Signal) : Machine :=
  let script := (s.traps.lookup signal.number).getD .nothing
  let status := if s.wait = .nothing then s.status else 128 + signal.number
  m.goOn p ({ s.done status with caught := s.caught.tail }.push [.run script])

/-- A shell whose background commands have ended goes on. -/
def jobsEnded (m : Machine) (p : Process) (s : ShellState) (pids : List Nat) (counts : Bool) :
    Machine :=
  let last := (pids.getLast?.bind m.process?).bind Process.exit
  let status := if counts then (last.map statusOf).getD 127 else 0
  { m with processes := m.processes.filter fun q => q.pid ∉ pids }.goOn p (s.done status)

/-- The next step of a shell, if it can take one. -/
def stepShell (m : Machine) (p : Process) (s : ShellState) : Option Machine :=
  match s.caught, heedsTraps s.wait with
  | signal :: _, true => some (m.runTrap p s signal)
  | _, _ =>
    match s.wait with
    | .child pid =>
      match m.collect? pid with
      | some (exit, m) => some (m.goOn p (s.done (statusOf exit)))
      | none => if (m.process? pid).isNone then some (m.goOn p (s.done 127)) else none
    | .jobs pids counts =>
      if pids.any fun pid => (m.process? pid).any Process.isAlive then none
      else some (m.jobsEnded p s pids counts)
    | .input => if p.inputOpen then none else some (m.goOn p (s.done 1))
    | .nothing =>
      match s.tasks with
      | [] => some (m.leave p s s.status)
      | task :: tasks => some (m.perform p { s with tasks } task)

/-- The next step of a process, if it can take one. -/
def stepProcess (m : Machine) (p : Process) : Option Machine :=
  if !p.isAlive || p.frozen then none
  else
    match p.work with
    | .ending code => some (m.put (p.finish (.code code)))
    | .sleeping none => none
    | .sleeping (some wake) => if wake ≤ m.now then some (m.put (p.finish (.code 0))) else none
    | .shell s => m.stepShell p s

/-- The next step of the machine, if a process can take one. -/
def step? (m : Machine) : Option Machine := (m.processes.findSome? m.stepProcess).map tidy

/-- Takes so many steps at most. -/
def run : Nat → Machine → Machine
  | 0, m => m
  | fuel + 1, m =>
    match m.step? with
    | none => m
    | some m => run fuel m

/-- More steps than scripts without endless loops take. -/
def patience : Nat := 10000

/-- Lets all processes go on until none can. -/
def settle (m : Machine) : Machine := m.run patience

/-- The next instant at which a sleeper wakes. -/
def nextWake? (m : Machine) : Option Instant :=
  m.processes.foldl (fun (least : Option Instant) p =>
    match p.work with
    | .sleeping (some wake) =>
      if p.isAlive && !p.frozen then
        some (match least with
          | some t => if t ≤ wake then t else wake
          | none => wake)
      else least
    | _ => least) none

/-- Time passes until some instant. -/
def passUntil (m : Machine) (t : Instant) : Machine :=
  ({ m with now := if m.now ≤ t then t else m.now }).settle

/-- Lets time pass until something holds, or until nothing will happen any more, or for too long. -/
def waitFor (holds : Machine → Bool) : Nat → Machine → Machine
  | 0, m => m
  | fuel + 1, m =>
    if holds m then m
    else
      match m.nextWake? with
      | some t => waitFor holds fuel (m.passUntil t)
      | none => m

end AppLifecycle.Machine
