import AppLifecycle.Rehearsal.Machine.Files

/-!
# The disk of a rehearsed machine

Files and directories that were made beside those that every machine has. Paths are seen from the
directory in which processes begin.
-/

namespace AppLifecycle

inductive DiskEntry where
  | directory
  | text (content : String)
  | socket
deriving DecidableEq

structure Disk where
  /-- What was made, by the components of its path; the newest comes first. -/
  entries : List (List String × DiskEntry)

namespace Disk

open Machine (Files.resolve Files.workDirectory Files.kind?)

def place (path : String) : List String := Files.resolve Files.workDirectory path

def entry? (d : Disk) (components : List String) : Option DiskEntry :=
  (d.entries.lookup components).or <|
    match Files.kind? components with
    | some .directory => some .directory
    | some _ => some (.text "")
    | none => none

def put (d : Disk) (components : List String) (entry : DiskEntry) : Disk :=
  ⟨(components, entry) :: d.entries.filter (·.1 ≠ components)⟩

def remove (d : Disk) (components : List String) : Disk :=
  ⟨d.entries.filter (·.1 ≠ components)⟩

/-- Makes the directories on a way. -/
def makeDirectories (d : Disk) : List String → List String → Except SystemError Disk
  | _, [] => .ok d
  | above, c :: rest =>
    let here := above ++ [c]
    match d.entry? here, rest with
    | none, _ => (d.put here .directory).makeDirectories here rest
    | some .directory, _ => d.makeDirectories here rest
    | some _, [] => .error .fileExists
    | some _, _ :: _ => .error .notDirectory

/-- Why nothing is found at a path. -/
def absence (d : Disk) : List String → List String → SystemError
  | _, [] => .noSuchFile
  | above, c :: rest =>
    let here := above ++ [c]
    match rest, d.entry? here with
    | [], _ => .noSuchFile
    | _ :: _, some .directory => d.absence here rest
    | _ :: _, some _ => .notDirectory
    | _ :: _, none => .noSuchFile

/-- The text at a path. -/
def read (d : Disk) (path : String) : Except SystemError String :=
  match d.entry? (place path) with
  | some (.text content) => .ok content
  | some .directory => .error .isDirectory
  | some .socket => .error .noSuchFile
  | none => .error (if path.isEmpty then .noSuchFile else d.absence [] (place path))

/-- A disk with some files. -/
def ofFiles (files : List (String × String)) : Disk :=
  files.foldl (fun d (path, content) =>
    let components := place path
    let d :=
      match d.makeDirectories [] components.dropLast with
      | .ok d => d
      | .error _ => d
    d.put components (.text content)) ⟨[]⟩

/-- The number of bytes at which the path of a socket is too long. -/
def socketPathLimit : Nat := 108

/-- Makes a socket. Something stale in its place is removed, and the directories on the way to it
are made. -/
def bind (d : Disk) (path : String) : Except String Disk := do
  let components := place path
  let d ←
    match d.entry? components with
    | none => .ok d
    | some .directory => .error SystemError.isDirectory.message
    | some _ => .ok (d.remove components)
  let d ← (d.makeDirectories [] components.dropLast).mapError SystemError.message
  if path.utf8ByteSize ≥ socketPathLimit then .error "path must be shorter than SUN_LEN"
  return d.put components .socket

/-- Whether there is something at a path. -/
def has (d : Disk) (path : String) : Bool := (d.entry? (place path)).isSome

end Disk

end AppLifecycle
