import AppLifecycle.Path

/-!
# Default paths

Where the daemon and its tools look for files, by the variables of the environment. None of the
places needs special rights.
-/

namespace AppLifecycle

/-- The environment variables that are set. -/
abbrev Environment := List (String × String)

namespace Environment

def get? (env : Environment) (name : String) : Option String :=
  (env.find? (·.1 = name)).map (·.2)

/-- A directory for the daemon beneath the home directory. -/
def homeDir? (env : Environment) (parts : List String) : Option Path :=
  (env.get? "HOME").map fun home => (parts.foldl Path.join ⟨home⟩).join "tether"

/-- The configuration file. -/
def configPath (env : Environment) : Path :=
  match env.get? "TETHER_CONFIG", env.get? "XDG_CONFIG_HOME" with
  | some path, _ => ⟨path⟩
  | none, some base => (Path.mk base).join "tether" |>.join "config.toml"
  | none, none => ((env.homeDir? [".config"]).getD ⟨"/etc/tether"⟩).join "config.toml"

/-- The socket for shells. -/
def socketPath (env : Environment) : Path :=
  match env.get? "XDG_RUNTIME_DIR" with
  | some base => (Path.mk base).join "tether" |>.join "tetherd.sock"
  | none =>
    let user := (env.get? "USER").getD "unknown"
    (Path.mk s!"/tmp/tether-{user}").join "tetherd.sock"

def dataDir (env : Environment) : Path :=
  match env.get? "XDG_DATA_HOME" with
  | some base => (Path.mk base).join "tether"
  | none => (env.homeDir? [".local", "share"]).getD ⟨"/tmp/tether/data"⟩

def logDir (env : Environment) : Path :=
  match env.get? "XDG_STATE_HOME" with
  | some base => (Path.mk base).join "tether"
  | none => (env.homeDir? [".local", "state"]).getD ⟨"/tmp/tether/logs"⟩

end Environment

/-- The compositors' socket, in the directory of the shells' socket. -/
def compositorSocketBeside (socket : Path) : Path := socket.withFileName "compositor.sock"

end AppLifecycle
