import AppLifecycle.Config.Report
import AppLifecycle.SystemError

/-!
# Checking a configuration file

The program reads the file that its first argument names and reports on it. All that it decides is
in `Report.ofArgs`; here are only the file, the environment and the streams.
-/

namespace AppLifecycle

/-- The variables that say where things are. -/
def pathVariables : List String :=
  ["TETHER_CONFIG", "XDG_CONFIG_HOME", "XDG_RUNTIME_DIR", "XDG_DATA_HOME", "XDG_STATE_HOME", "HOME",
    "USER"]

/-- The variables of the environment that are set. -/
def readEnvironment : IO Environment := do
  let settings ← pathVariables.mapM fun name => do
    return (← IO.getEnv name).map fun value => (name, value)
  return settings.filterMap fun s => s

/-- What is found instead of a file that cannot be read. -/
def FileContent.ofError : IO.Error → FileContent
  | .noFileOrDirectory .. => .missing
  | .permissionDenied .. => .unreadable SystemError.permissionDenied.message
  | .inappropriateType _ code _ =>
    if code.toNat = SystemError.notDirectory.number then .missing
    else .unreadable SystemError.isDirectory.message
  | e => .unreadable (toString e)

/-- What is found at a path. -/
def readContent (path : String) : IO FileContent := do
  try
    match String.fromUTF8? (← IO.FS.readBinFile path) with
    | some content => return .text content
    | none => return .unreadable "stream did not contain valid UTF-8"
  catch e => return .ofError e

end AppLifecycle

open AppLifecycle in
/-- Reports on the file that the first argument names. -/
def main (args : List String) : IO UInt32 := do
  let env ← readEnvironment
  let content ← readContent (args.headD "")
  let report := Report.ofArgs env (fun _ => content) args
  IO.print report.stdout
  IO.eprint report.stderr
  return UInt32.ofNat report.exit
