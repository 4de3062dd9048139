import AppLifecycle.Host
import AppLifecycle.Process.Exit

/-!
# The inhibitor

The system's wakelock is held by a process that keeps the device awake while it runs. One that ends
at once has not taken the lock.
-/

namespace AppLifecycle

namespace Inhibitor

/-- How long an inhibitor has to run before the lock counts as taken. -/
def patience : Duration := .ofMillis 50

/-- Whether the lock is taken, given the outcome of the launch: an error, the end of the process
within that time, or nothing. -/
def outcome (command : List String) : Except HostError (Option ProcessExit) → Except HostError Unit
  | .error e => .error (.wakelockUnavailable e.message)
  | .ok none => .ok ()
  | .ok (some exit) =>
    let line := " ".intercalate command
    .error (.wakelockUnavailable s!"{line} exited immediately ({exit.describe})")

end Inhibitor

end AppLifecycle
