import AppLifecycle.Config.Load

/-!
# Reports on configuration files

What a user is told who has a configuration file checked: a summary of the policy in it, or all that
is wrong with it.
-/

namespace AppLifecycle

/-- What is found at a path. -/
inductive FileContent where
  | missing
  | unreadable (reason : String)
  | text (content : String)

/-- What a check writes, and its exit code. -/
structure Report where
  exit : Nat
  stdout : String
  stderr : String
deriving DecidableEq

namespace Report

/-- Lines with an end each. -/
def lines (l : List String) : String := String.join (l.map (· ++ "\n"))

/-- The user did not say which file to check. -/
def usage (env : Environment) : Report :=
  ⟨2, "", lines ["Usage: validate-config [config-file]", "",
    "Validates a tetherd configuration file.", "",
    "If no path is provided, uses: " ++ env.configPath.text]⟩

def missingFile (path : String) : Report :=
  ⟨1, "", lines ["Error: Configuration file not found: " ++ path]⟩

/-- One line about an application. -/
def applicationLine (d : Descriptor) : String :=
  s!"  - {d.id.text} [{d.stage.name} stage]: {d.name} (" ++ " ".intercalate d.exec ++ ")"

def success (p : Policy) : Report :=
  let wakelock := if p.wakelock.enabled then "enabled" else "disabled"
  let applications :=
    if p.applications.isEmpty then []
    else ["", "Applications:"] ++ p.applications.map applicationLine
  ⟨0, lines (["✓ Configuration is valid", "", "Summary:",
    s!"  Config version: {RawConfig.currentVersion}",
    s!"  Close timeout: {p.lifecycle.closeTimeout.text}",
    "  Exemptions: " ++ ", ".intercalate p.lifecycle.exemptions,
    s!"  Wakelock: {wakelock}",
    s!"  Applications: {p.applications.length}"] ++ applications), ""⟩

/-- What is wrong, line by line. -/
def errorLines : ConfigError → List String
  | .notRead reason => ["Failed to read file: " ++ reason]
  | .notParsed => ["TOML parse error:"]
  | .unsupportedVersion version =>
    [s!"Unsupported config version: {version} (expected {RawConfig.currentVersion})"]
  | .invalid faults =>
    s!"Validation errors ({faults.length}):" :: faults.map fun f => s!"  - {f.message}"

def failure (e : ConfigError) : Report :=
  ⟨1, "", lines (["✗ Configuration validation failed", ""] ++ errorLines e)⟩

/-- The report on what was found at a path. -/
def ofContent (env : Environment) (path : String) (content : FileContent) : Report :=
  match content with
  | .missing => missingFile path
  | .unreadable reason => failure (.notRead reason)
  | .text content =>
    match Policy.ofToml env content with
    | .ok policy => success policy
    | .error e => failure e

/-- The report for the arguments behind the name of the program; only the first one counts. -/
def ofArgs (env : Environment) (find : String → FileContent) : List String → Report
  | [] => usage env
  | path :: _ => ofContent env path (find path)

end Report

end AppLifecycle
