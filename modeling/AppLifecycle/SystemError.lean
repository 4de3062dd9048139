/-!
# Refusals of the system

What the operating system says when it does not do what it is asked. Each refusal has a number and a
text, and both are shown.
-/

namespace AppLifecycle

inductive SystemError where
  | notPermitted
  | noSuchFile
  | noSuchProcess
  | permissionDenied
  | fileExists
  | notDirectory
  | isDirectory
deriving DecidableEq

namespace SystemError

def number : SystemError → Nat
  | .notPermitted => 1
  | .noSuchFile => 2
  | .noSuchProcess => 3
  | .permissionDenied => 13
  | .fileExists => 17
  | .notDirectory => 20
  | .isDirectory => 21

def text : SystemError → String
  | .notPermitted => "Operation not permitted"
  | .noSuchFile => "No such file or directory"
  | .noSuchProcess => "No such process"
  | .permissionDenied => "Permission denied"
  | .fileExists => "File exists"
  | .notDirectory => "Not a directory"
  | .isDirectory => "Is a directory"

/-- A refusal in words. -/
def message (e : SystemError) : String := s!"{e.text} (os error {e.number})"

end SystemError

end AppLifecycle
