import AppLifecycle.Rehearsal.Machine.Expansion

/-!
# Launching processes on a rehearsed machine

A process is launched in a directory, with arguments and parameters. It stays in the group of its
parent or leads a group and a session of its own.
-/

namespace AppLifecycle.Machine

open Shell (Script)

/-- A process that is to be launched. -/
structure Launch where
  args : List String
  env : List (String × String)
  /-- Where it runs, if not where its parent does. -/
  dir : Option String
  parent : Nat
  /-- Leads a group and a session of its own. -/
  leads : Bool
  /-- Somebody may write to its input. -/
  inputOpen : Bool

/-- The search path of a process that is not told another one. -/
def searchPath : String := "/usr/local/sbin:/usr/local/bin:/usr/sbin:/usr/bin:/sbin:/bin"

/-- The environment of a program on the machine; there is always a search path. -/
def environment (env : List (String × String)) : List (String × String) :=
  if (env.lookup "PATH").isSome then env else ("PATH", searchPath) :: env

/-- Sets parameters over others. -/
def setAll (env settings : List (String × String)) : List (String × String) :=
  settings.foldl (fun env (name, value) => (name, value) :: env.filter (·.1 ≠ name)) env

/-- A time to sleep, in seconds or with a unit. -/
def sleepTime? (s : String) : Option Duration :=
  let chars := s.toList
  let (number, unit) : List Char × Nat :=
    match chars.getLast? with
    | some 's' => (chars.dropLast, 1)
    | some 'm' => (chars.dropLast, 60)
    | some 'h' => (chars.dropLast, 3600)
    | some 'd' => (chars.dropLast, 86400)
    | _ => (chars, 1)
  let whole := number.takeWhile Char.isDigit
  let rest := number.dropWhile Char.isDigit
  let part := (rest.drop 1).take 9
  if (rest.headD '.' ≠ '.') || !part.all Char.isDigit || number.isEmpty then none
  else
    let digits := whole ++ part ++ List.replicate (9 - part.length) '0'
    (String.ofList digits).toNat?.map fun n => ⟨n * unit⟩

/-- How a shell begins. -/
def shellWork (pid parent : Nat) (env : List (String × String)) (args : List String) : Work :=
  let begin_ (s : Script) (args : List String) : Work :=
    .shell ⟨[.run s], 0, env, [("PPID", toString parent)], args, [], [], pid, none, .nothing⟩
  match args with
  | name :: "-c" :: text :: rest =>
    match Script.ofString text with
    | some s => begin_ s (if rest.isEmpty then [name] else rest)
    | none => .ending 2
  | [_] => .ending 0
  | _ => .ending 127

/-- What a program begins with. -/
def workOf (m : Machine) (pid parent : Nat) (env : List (String × String)) (dir : List String)
    (program : Program) (args : List String) : Work :=
  match program with
  | .shell => shellWork pid parent env args
  | .sleep =>
    if args.tail = ["infinity"] then .sleeping none
    else
      match args.tail.mapM sleepTime? with
      | some (t :: ts) => .sleeping (some (ts.foldl Instant.add (m.now.add t)))
      | _ => .ending 1
  | .utility =>
    let name := ((args.headD "").splitOn "/").getLastD ""
    .ending (((Utility.run (.ofMachine m parent dir env) (name :: args.tail)).map (·.1)).getD 0)

/-- Adds a process. -/
def add (m : Machine) (p : Process) : Machine :=
  { m with next := m.next + 1, processes := m.processes ++ [p] }

/-- Launches a process; its number and the machine afterwards. -/
def launch (m : Machine) (l : Launch) : Except SystemError (Nat × Machine) := do
  let parent := m.process? l.parent
  let above := (parent.map Process.dir).getD Files.workDirectory
  let dir ← (l.dir.map (Files.enter above)).getD (.ok above)
  let search := (l.env.lookup "PATH").getD searchPath
  let (name, program) ← Files.findProgram dir search (l.args.headD "")
  let pid := m.next
  let group := if l.leads then pid else (parent.map Process.group).getD l.parent
  let session := if l.leads then pid else (parent.map Process.session).getD l.parent
  return (pid, m.add {
    pid, parent := l.parent, group, session, program := name, args := l.args, dir
    ignored := (parent.map Process.ignored).getD [], frozen := false, held := []
    inputOpen := l.inputOpen, work := m.workOf pid l.parent l.env dir program l.args,
    exit := none })

end AppLifecycle.Machine
