import AppLifecycle.Rehearsal.Machine.Process

/-!
# Utilities of a rehearsed machine

Commands that do something at once and end: each has a status and something that it writes.
-/

namespace AppLifecycle.Machine

/-- What a command can look at. -/
structure View where
  dir : List String
  env : List (String × String)
  /-- The text of a file. -/
  read : List String → Option String
  /-- Where a link leads. -/
  link : List String → Option String

namespace View

/-- The line of a process, and the places its input and its output come from and go to. The command
itself runs as a child of `parent`. -/
def ofMachine (m : Machine) (parent : Nat) (dir : List String) (env : List (String × String)) :
    View where
  dir
  env
  read components :=
    match components with
    | ["proc", "self", "stat"] => (m.process? parent).map fun p =>
      { p with pid := m.next, parent, program := "cat" }.statLine ++ "\n"
    | ["proc", pid, "stat"] => (pid.toNat?.bind m.process?).map fun p => p.statLine ++ "\n"
    | _ => if Files.isPlain components then some "" else none
  link components :=
    match components with
    | ["proc", "self", "fd", "0"] => some "/dev/null"
    | ["proc", pid, "fd", n] =>
      if (pid.toNat?.bind m.process?).isSome ∧ ["0", "1", "2"].contains n then some "/dev/null"
      else none
    | _ => none

/-- Whether there is something at a path. -/
def has (v : View) (path : String) : Bool :=
  let place := Files.resolve v.dir path
  (Files.kind? place).isSome || (v.read place).isSome

end View

namespace Utility

/-- A test of one text. -/
def testOne (v : View) (op a : String) : Option Bool :=
  let kind := Files.kind? (Files.resolve v.dir a)
  match op with
  | "-n" => some (a ≠ "")
  | "-z" => some (a = "")
  | "-t" | "-p" | "-S" | "-L" | "-h" => some false
  | "-c" => some (["/dev/null", "/dev/zero"].contains a)
  | "-d" => some (kind = some .directory)
  | "-f" => some (v.has a && kind ≠ some .directory)
  | "-x" => some (kind.isSome && kind ≠ some .plain)
  | "-e" | "-r" | "-w" => some (v.has a)
  | _ => none

/-- A test of two texts. -/
def testTwo (a op b : String) : Option Bool :=
  let numbers (f : Int → Int → Bool) : Option Bool := do return f (← a.toInt?) (← b.toInt?)
  match op with
  | "=" => some (a = b)
  | "!=" => some (a ≠ b)
  | "-eq" => numbers (· == ·)
  | "-ne" => numbers (· != ·)
  | "-lt" => numbers (· < ·)
  | "-le" => numbers (· ≤ ·)
  | "-gt" => numbers (· > ·)
  | "-ge" => numbers (· ≥ ·)
  | _ => none

/-- The outcome of a test, unless it has a fault. -/
def test (v : View) : List String → Option Bool
  | [] => some false
  | [a] => some (a ≠ "")
  | "!" :: rest => (test v rest).map (!·)
  | [op, a] => testOne v op a
  | [a, op, b] => testTwo a op b
  | op :: a :: "-a" :: rest => do return (← testOne v op a) && (← test v rest)
  | op :: a :: "-o" :: rest => do return (← testOne v op a) || (← test v rest)
  | a :: op :: b :: "-a" :: rest => do return (← testTwo a op b) && (← test v rest)
  | a :: op :: b :: "-o" :: rest => do return (← testTwo a op b) || (← test v rest)
  | _ => none

def testStatus (v : View) (args : List String) : Nat :=
  match test v args with
  | some true => 0
  | some false => 1
  | none => 2

/-- Writes a format with its arguments put in. -/
def format : List Char → List String → List Char
  | '\\' :: 'n' :: rest, args => '\n' :: format rest args
  | '%' :: 's' :: rest, args => (args.headD "").toList ++ format rest args.tail
  | '%' :: 'd' :: rest, args => (args.headD "0").toList ++ format rest args.tail
  | '%' :: '%' :: rest, args => '%' :: format rest args
  | c :: rest, args => c :: format rest args
  | [], _ => []

/-- The texts of files, and whether all of them could be read. -/
def concatenate (v : View) (paths : List String) : Nat × String :=
  let texts := paths.map fun path => v.read (Files.resolve v.dir path)
  (if texts.all Option.isSome then 0 else 1, String.join (texts.filterMap fun t => t))

/-- The environment, a line for each parameter. -/
def settings (v : View) : String :=
  String.join (v.env.map fun (name, value) => s!"{name}={value}\n")

/-- The status of a command and what it writes, if it is one that ends at once. -/
def run (v : View) : List String → Option (Nat × String)
  | [] => none
  | "true" :: _ => some (0, "")
  | ":" :: _ => some (0, "")
  | "false" :: _ => some (1, "")
  | "echo" :: "-n" :: args => some (0, " ".intercalate args)
  | "echo" :: args => some (0, " ".intercalate args ++ "\n")
  | "printf" :: form :: args => some (0, String.ofList (format form.toList args))
  | "pwd" :: _ => some (0, Files.text v.dir ++ "\n")
  | "cat" :: paths => some (concatenate v paths)
  | ["readlink", path] => some <|
    match v.link (Files.resolve v.dir path) with
    | some target => (0, target ++ "\n")
    | none => (1, "")
  | ["printenv"] => some (0, settings v)
  | ["env"] => some (0, settings v)
  | "printenv" :: names =>
    let values := names.map (v.env.lookup ·)
    some (if values.all Option.isSome then 0 else 1,
      String.join (values.filterMap fun value => value.map (· ++ "\n")))
  | "ls" :: paths => some (if paths.all v.has then 0 else 2, "")
  | "test" :: args => some (testStatus v args, "")
  | "[" :: args => some (if args.getLast? = some "]" then testStatus v args.dropLast else 2, "")
  | _ => none

end Utility

end AppLifecycle.Machine
