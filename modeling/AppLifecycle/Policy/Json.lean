import AppLifecycle.CommandLine
import AppLifecycle.Policy
import AppLifecycle.Protocol.Wire

/-!
# Policies as JSON

How policies and what they consist of are shown to tools. Times are texts of whole milliseconds.
-/

namespace AppLifecycle

open Json (Value)

def Duration.toJson (d : Duration) : Value := .string (toString d.millis)

def Path.toJson (p : Path) : Value := .string p.text

def StageSet.toJson (s : StageSet) : Value := .array (s.toList.map Stage.toJson)

def OrientationSet.toJson (s : OrientationSet) : Value := .array (s.toList.map Orientation.toJson)

def Descriptor.toJson (d : Descriptor) : Value := .object [
  ("app_id", d.id.toJson), ("name", .string d.name), ("comment", .option .string d.comment),
  ("icon", .option .string d.icon), ("exec", .strings d.exec),
  ("env", .object (d.env.map fun (k, v) => (k, .string v))),
  ("cwd", .option Path.toJson d.cwd), ("stage", d.stage.toJson),
  ("supported_stages", d.stages.toJson), ("supported_orientations", d.orientations.toJson)]

def DaemonPaths.toJson (p : DaemonPaths) : Value := .object [
  ("socket_path", p.socket.toJson), ("compositor_socket_path", p.compositorSocket.toJson),
  ("log_dir", p.logDir.toJson), ("data_dir", p.dataDir.toJson)]

def LifecyclePolicy.toJson (p : LifecyclePolicy) : Value := .object [
  ("close_timeout_ms", p.closeTimeout.toJson), ("tick_interval_ms", p.tickInterval.toJson),
  ("startup_grace_ms", p.startupGrace.toJson), ("exemptions", .strings p.exemptions)]

def AuthorizationPolicy.toJson (p : AuthorizationPolicy) : Value := .object [
  ("trusted_prefixes", .strings p.trustedPrefixes),
  ("trusted_substrings", .strings p.trustedSubstrings),
  ("desktop_file_hint", .string p.desktopFileHint), ("stage_hint", .string p.stageHint)]

def WakelockPolicy.toJson (p : WakelockPolicy) : Value := .object [
  ("enabled", .bool p.enabled), ("command", .strings p.command)]

def Policy.toJson (p : Policy) : Value := .object [
  ("daemon", p.daemon.toJson), ("lifecycle", p.lifecycle.toJson),
  ("authorization", p.authorization.toJson), ("wakelock", p.wakelock.toJson),
  ("applications", .array (p.applications.map Descriptor.toJson))]

/-- A command line, and what it says to each of a list of questions. -/
def CommandLine.toJson (queries : List String) (c : CommandLine) : Value := .object [
  ("args", .strings c.args), ("is_empty", .bool c.isEmpty), ("joined", .string c.joined),
  ("queries", .array (queries.map fun q => .object [
    ("starts_with", .bool (c.startsWith q)), ("contains", .bool (c.contains q)),
    ("value_of", .option .string (c.valueOf q))]))]

end AppLifecycle
