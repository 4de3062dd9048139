import AppLifecycle.Host

/-!
# Looking at processes

The system keeps the command line of each process in a file.
-/

namespace AppLifecycle

/-- What is found in the place of a file with a command line. -/
inductive CommandFile where
  | absent
  | unreadable (reason : String)
  | bytes (content : List UInt8)

/-- The command line of a process. One without arguments is that of a process that is gone, or of
one that never was a program. -/
def CommandFile.commandLine (pid : Nat) : CommandFile → Except HostError CommandLine
  | .absent => .error (.noSuchProcess pid)
  | .unreadable reason => .error (.inputOutput reason)
  | .bytes content =>
    let line := CommandLine.ofBytes content
    if line.isEmpty then .error (.noSuchProcess pid) else .ok line

end AppLifecycle
