import AppLifecycle.Policy
import AppLifecycle.Toml.Document

/-!
# Reading a policy

A configuration is a TOML document. It is decoded, its version is checked, and only then is it
validated; a policy comes out of it if nothing is wrong.
-/

namespace AppLifecycle

/-- Why a text gives no policy. -/
inductive ConfigError where
  /-- There is no text. -/
  | notRead (reason : String)
  /-- The text is no document, or the document is no configuration. -/
  | notParsed
  | unsupportedVersion (version : Nat)
  | invalid (faults : List ConfigFault)

namespace ConfigError

def message : ConfigError → String
  | .notRead reason => s!"Failed to read config file: {reason}"
  | .notParsed => "Failed to parse TOML"
  | .unsupportedVersion version => s!"Unsupported config version: {version}"
  | .invalid faults =>
    let list := ", ".intercalate (faults.map ConfigFault.describe)
    s!"Validation failed: [{list}]"

end ConfigError

namespace RawConfig

/-- The version of configurations that is understood. -/
def currentVersion : Nat := 1

/-- The configuration in a text. -/
def ofToml? (text : String) : Option RawConfig := do
  let document ← Toml.parse text
  (Json.decodeDocument RawConfig.decoder document).toOption

/-- Refuses a configuration that is of another version or not valid. -/
def check (raw : RawConfig) : Except ConfigError Unit :=
  if raw.version ≠ currentVersion then .error (.unsupportedVersion raw.version)
  else if raw.faults.isEmpty then .ok ()
  else .error (.invalid raw.faults)

end RawConfig

namespace Policy

/-- The policy in a text. -/
def ofToml (env : Environment) (text : String) : Except ConfigError Policy :=
  match RawConfig.ofToml? text with
  | none => .error .notParsed
  | some raw => raw.check.map fun () => .ofRaw env raw

end Policy

end AppLifecycle
