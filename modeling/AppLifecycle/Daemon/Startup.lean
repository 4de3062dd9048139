import AppLifecycle.Config.Load
import AppLifecycle.Daemon.Options
import AppLifecycle.Server.Endpoint
import AppLifecycle.Text.Quoted

/-!
# Starting the daemon

Before it serves anybody the daemon reads its configuration and binds two sockets, first the one for
shells. If something fails it says what it was about and, step by step, why.
-/

namespace AppLifecycle

/-- Why the daemon does not start. -/
inductive StartupError where
  | configNotLoaded (path : Path) (error : ConfigError)
  | notBound (path : Path) (reason : String)

namespace StartupError

/-- What the daemon was about. -/
def context : StartupError → String
  | .configNotLoaded path _ => s!"Failed to load config from {Text.quote path.text}"
  | .notBound path _ => s!"Failed to bind {Text.quote path.text}"

/-- The causes, each the cause of the one before it. -/
def causes : StartupError → List String
  | .configNotLoaded _ (.notRead reason) => [(ConfigError.notRead reason).message, reason]
  | .configNotLoaded _ error => [error.message]
  | .notBound _ reason => [(ConnectionError.inputOutput reason).message, reason]

/-- A line for each cause; they are numbered if there are several. -/
def causeLines (causes : List String) : List String :=
  match causes with
  | [cause] => ["    " ++ cause]
  | causes => causes.zipIdx.map fun (cause, i) => s!"    {i}: {cause}"

/-- What is written about an error. What is wrong with a text that cannot be read is left open. -/
def report (e : StartupError) : String :=
  let header := s!"Error: {e.context}\n\nCaused by:\n"
  match e with
  | .configNotLoaded _ .notParsed => header ++ s!"    0: {ConfigError.notParsed.message}: "
  | _ => header ++ String.join ((causeLines e.causes).map (· ++ "\n"))

end StartupError

/-- How a run of the daemon that has not served anybody ends. -/
inductive StartupFailure where
  | usage (error : UsageError)
  | failed (error : StartupError)

namespace StartupFailure

/-- The exit code: asking for help is no fault. -/
def exitCode : StartupFailure → Nat
  | .usage .helpWanted => 0
  | .usage _ => 2
  | .failed _ => 1

end StartupFailure

end AppLifecycle
