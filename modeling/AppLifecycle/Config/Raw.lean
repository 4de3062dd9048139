import AppLifecycle.Json.Decode
import AppLifecycle.Path

/-!
# Configuration as written

A configuration as it stands in a file: every setting may be missing, and no value has been looked
at beyond its type.
-/

namespace AppLifecycle

open Json (Value Decoder Fields)

/-- An application as written. -/
structure RawApplication where
  id : String
  name : String
  exec : List String
  comment : Option String
  icon : Option String
  stage : Option String
  supportedStages : Option (List String)
  supportedOrientations : Option (List String)
  env : List (String × String)
  cwd : Option Path

/-- Where the daemon keeps its things. -/
structure RawDaemon where
  socketPath : Option Path
  compositorSocketPath : Option Path
  logDir : Option Path
  dataDir : Option Path

/-- Times in milliseconds, and who is exempt from the lifecycle. -/
structure RawLifecycle where
  closeTimeoutMs : Option Nat
  tickIntervalMs : Option Nat
  startupGraceMs : Option Nat
  exemptions : Option (List String)

/-- How a process that asks for a session is recognised. -/
structure RawAuthorization where
  trustedPrefixes : Option (List String)
  trustedSubstrings : Option (List String)
  desktopFileHint : Option String
  stageHint : Option String

/-- How the device is kept awake. -/
structure RawWakelock where
  enabled : Option Bool
  command : Option (List String)

structure RawConfig where
  version : Nat
  daemon : RawDaemon
  lifecycle : RawLifecycle
  authorization : RawAuthorization
  wakelock : RawWakelock
  applications : List RawApplication

namespace Json

/-- A path is written as a string. -/
def path : Decoder Path
  | _, .string token => do return ⟨← ofRead token.read⟩
  | _, node => wrongType "path string" node

/-- The entries of an object in order; an entry replaces an earlier one of the same key. -/
def decodeEntries {α : Type} (d : Decoder α) (site : Site) :
    List (Token String × Node) → List (String × α) → Except Failure (List (String × α))
  | [], seen => .ok seen
  | (key, value) :: rest, seen => do
    let k ← ofRead key.read
    let a ← d site value
    decodeEntries d site rest (seen.filter (·.1 ≠ k) ++ [(k, a)])

/-- An object whose keys are data. -/
def dictionary {α : Type} (d : Decoder α) : Decoder (List (String × α))
  | site, .object members ending => do
    let site ← site.enter
    let entries ← decodeEntries d site members []
    ofRead (Fault.check ending)
    return entries
  | site, .keyless _ => do
    let _ ← site.enter
    failFault .malformed
  | _, node => wrongType "a map" node

/-- A list of strings. -/
def texts : Decoder (List String) := list text

end Json

namespace RawApplication

def decoder : Decoder RawApplication := Json.record "struct RawApplication"
  (RawApplication.mk <$> Fields.required "id" Json.text
    <*> Fields.required "name" Json.text
    <*> Fields.required "exec" Json.texts
    <*> Fields.optional "comment" Json.text
    <*> Fields.optional "icon" Json.text
    <*> Fields.optional "stage" Json.text
    <*> Fields.optional "supported_stages" Json.texts
    <*> Fields.optional "supported_orientations" Json.texts
    <*> Fields.defaulted "env" [] (Json.dictionary Json.text)
    <*> Fields.optional "cwd" Json.path)

def toJson (a : RawApplication) : Value := .object [
  ("id", .string a.id), ("name", .string a.name), ("exec", .strings a.exec),
  ("comment", .option .string a.comment), ("icon", .option .string a.icon),
  ("stage", .option .string a.stage),
  ("supported_stages", .option .strings a.supportedStages),
  ("supported_orientations", .option .strings a.supportedOrientations),
  ("env", .object (a.env.map fun (k, v) => (k, .string v))),
  ("cwd", .option (fun p => .string p.text) a.cwd)]

end RawApplication

namespace RawDaemon

def empty : RawDaemon := ⟨none, none, none, none⟩

def decoder : Decoder RawDaemon := Json.record "struct RawDaemonConfig"
  (RawDaemon.mk <$> Fields.optional "socket_path" Json.path
    <*> Fields.optional "compositor_socket_path" Json.path
    <*> Fields.optional "log_dir" Json.path
    <*> Fields.optional "data_dir" Json.path)

def toJson (d : RawDaemon) : Value :=
  let path (p : Option Path) : Value := .option (fun p => .string p.text) p
  .object [("socket_path", path d.socketPath),
    ("compositor_socket_path", path d.compositorSocketPath), ("log_dir", path d.logDir),
    ("data_dir", path d.dataDir)]

end RawDaemon

namespace RawLifecycle

def empty : RawLifecycle := ⟨none, none, none, none⟩

def decoder : Decoder RawLifecycle := Json.record "struct RawLifecycle"
  (RawLifecycle.mk <$> Fields.optional "close_timeout_ms" Json.word64
    <*> Fields.optional "tick_interval_ms" Json.word64
    <*> Fields.optional "startup_grace_ms" Json.word64
    <*> Fields.optional "exemptions" Json.texts)

def toJson (l : RawLifecycle) : Value := .object [
  ("close_timeout_ms", .option .nat l.closeTimeoutMs),
  ("tick_interval_ms", .option .nat l.tickIntervalMs),
  ("startup_grace_ms", .option .nat l.startupGraceMs),
  ("exemptions", .option .strings l.exemptions)]

end RawLifecycle

namespace RawAuthorization

def empty : RawAuthorization := ⟨none, none, none, none⟩

def decoder : Decoder RawAuthorization := Json.record "struct RawAuthorization"
  (RawAuthorization.mk <$> Fields.optional "trusted_prefixes" Json.texts
    <*> Fields.optional "trusted_substrings" Json.texts
    <*> Fields.optional "desktop_file_hint" Json.text
    <*> Fields.optional "stage_hint" Json.text)

def toJson (a : RawAuthorization) : Value := .object [
  ("trusted_prefixes", .option .strings a.trustedPrefixes),
  ("trusted_substrings", .option .strings a.trustedSubstrings),
  ("desktop_file_hint", .option .string a.desktopFileHint),
  ("stage_hint", .option .string a.stageHint)]

end RawAuthorization

namespace RawWakelock

def empty : RawWakelock := ⟨none, none⟩

def decoder : Decoder RawWakelock := Json.record "struct RawWakelock"
  (RawWakelock.mk <$> Fields.optional "enabled" Json.boolean
    <*> Fields.optional "command" Json.texts)

def toJson (w : RawWakelock) : Value := .object [
  ("enabled", .option .bool w.enabled), ("command", .option .strings w.command)]

end RawWakelock

namespace RawConfig

def decoder : Decoder RawConfig := Json.record "struct RawConfig"
  (RawConfig.mk <$> Fields.required "config_version" Json.word32
    <*> Fields.defaulted "daemon" .empty RawDaemon.decoder
    <*> Fields.defaulted "lifecycle" .empty RawLifecycle.decoder
    <*> Fields.defaulted "authorization" .empty RawAuthorization.decoder
    <*> Fields.defaulted "wakelock" .empty RawWakelock.decoder
    <*> Fields.defaulted "applications" [] (Json.list RawApplication.decoder))

def toJson (c : RawConfig) : Value := .object [
  ("config_version", .nat c.version), ("daemon", c.daemon.toJson),
  ("lifecycle", c.lifecycle.toJson), ("authorization", c.authorization.toJson),
  ("wakelock", c.wakelock.toJson),
  ("applications", .array (c.applications.map RawApplication.toJson))]

end RawConfig

end AppLifecycle
