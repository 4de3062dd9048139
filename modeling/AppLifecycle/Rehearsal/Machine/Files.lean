import AppLifecycle.Path
import AppLifecycle.SystemError

/-!
# Files of a rehearsed machine

A few places that every machine has: directories, programs and plain files.
-/

namespace AppLifecycle.Machine

/-- What is found at a path. -/
inductive FileKind where
  | directory
  | program (name : String)
  | plain
deriving DecidableEq, Repr

/-- What a program does. -/
inductive Program where
  | shell
  | sleep
  /-- It does something at once and ends. -/
  | utility
deriving DecidableEq, Repr

namespace Program

/-- The programs that end at once. -/
def utilities : List String :=
  ["true", "false", "echo", "printf", "pwd", "cat", "readlink", "test", "[", "kill", "env", "ls",
    "id", "date", "uname", "printenv"]

def ofName? (name : String) : Option Program :=
  if name = "sh" ∨ name = "dash" then some .shell
  else if name = "sleep" then some .sleep
  else if name ∈ utilities then some .utility
  else none

end Program

namespace Files

/-- Where programs are. -/
def programDirectories : List (List String) := [["bin"], ["usr", "bin"]]

def directories : List (List String) :=
  [[], ["bin"], ["usr"], ["usr", "bin"], ["usr", "lib"], ["usr", "local"], ["usr", "local", "bin"],
    ["usr", "sbin"], ["usr", "share"], ["sbin"], ["lib"], ["tmp"], ["var"], ["var", "tmp"],
    ["var", "lib"], ["etc"], ["proc"], ["sys"], ["dev"], ["home"], ["root"], ["run"], ["opt"],
    ["srv"], ["mnt"], ["media"], ["work"]]

def plainFiles : List (List String) :=
  [["etc", "passwd"], ["etc", "group"], ["etc", "hosts"], ["etc", "hostname"], ["dev", "null"],
    ["dev", "zero"], ["proc", "stat"], ["proc", "uptime"]]

/-- Whether there is a plain file at a path. -/
def isPlain (components : List String) : Bool := plainFiles.contains components

/-- The directory in which processes begin, unless they are told another one. -/
def workDirectory : List String := ["work"]

/-- The components of a path, seen from a directory. -/
def resolve (dir : List String) (path : String) : List String :=
  let start := if path.toList.head? = some '/' then [] else dir
  ((Path.pieces path.toList).map String.ofList).foldl (fun at_ piece =>
    if piece = "" ∨ piece = "." then at_
    else if piece = ".." then at_.dropLast
    else at_ ++ [piece]) start

/-- The text of a resolved path. -/
def text (components : List String) : String :=
  if components.isEmpty then "/" else String.join (components.map ("/" ++ ·))

def kind? (components : List String) : Option FileKind :=
  if components ∈ directories then some .directory
  else if isPlain components then some .plain
  else
    match components.getLast? with
    | some name =>
      if components.dropLast ∈ programDirectories ∧ (Program.ofName? name).isSome then
        some (.program name)
      else none
    | none => none

/-- Why nothing is found at a path: there is nothing, or a component before the last one is no
directory. -/
def absence : List String → List String → SystemError
  | _, [] => .noSuchFile
  | above, c :: rest =>
    let here := above ++ [c]
    match rest, kind? here with
    | [], _ => .noSuchFile
    | _ :: _, some .directory => absence here rest
    | _ :: _, some _ => .notDirectory
    | _ :: _, none => .noSuchFile

/-- Changes to a directory. -/
def enter (dir : List String) (path : String) : Except SystemError (List String) :=
  let target := resolve dir path
  if path.isEmpty then .error .noSuchFile
  else
    match kind? target with
    | some .directory => .ok target
    | some _ => .error .notDirectory
    | none => .error (absence [] target)

/-- The program at a path. -/
def programAt (dir : List String) (path : String) : Except SystemError (String × Program) :=
  let target := resolve dir path
  match kind? target with
  | some (.program name) =>
    match Program.ofName? name with
    | some program => .ok (name, program)
    | none => .error .noSuchFile
  | some _ => .error .permissionDenied
  | none => .error (absence [] target)

/-- The program of a name: a path if there is a slash in it, and otherwise looked for in the
directories of a search path. -/
def findProgram (dir : List String) (search : String) (name : String) :
    Except SystemError (String × Program) :=
  if name.isEmpty then .error .noSuchFile
  else if name.toList.contains '/' then programAt dir name
  else
    let found := (search.splitOn ":").findSome? fun place =>
      match programAt dir (if place.isEmpty then name else place ++ "/" ++ name) with
      | .ok program => some program
      | .error _ => none
    match found with
    | some program => .ok program
    | none => .error .noSuchFile

end Files

end AppLifecycle.Machine
