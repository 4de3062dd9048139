import AppLifecycle.Config.Validation
import AppLifecycle.DefaultPaths
import AppLifecycle.Descriptor
import AppLifecycle.LifecyclePolicy

/-!
# Policies

A policy is a configuration with every setting filled in and every name understood. A name that is
not understood counts for nothing; validation has refused it before.
-/

namespace AppLifecycle

/-- Where the daemon keeps its things. -/
structure DaemonPaths where
  socket : Path
  compositorSocket : Path
  logDir : Path
  dataDir : Path
deriving DecidableEq

/-- How the device is kept awake. -/
structure WakelockPolicy where
  enabled : Bool
  /-- A command that keeps the device awake as long as it runs. -/
  command : List String
deriving DecidableEq

namespace WakelockPolicy

def standard : WakelockPolicy where
  enabled := true
  command := ["systemd-inhibit", "--what=sleep:idle", "--who=tetherd",
    "--why=Application is active", "--mode=block", "sleep", "infinity"]

end WakelockPolicy

structure Policy where
  daemon : DaemonPaths
  lifecycle : LifecyclePolicy
  authorization : AuthorizationPolicy
  wakelock : WakelockPolicy
  applications : List Descriptor
deriving DecidableEq

namespace RawDaemon

def paths (env : Environment) (raw : RawDaemon) : DaemonPaths :=
  let socket := raw.socketPath.getD env.socketPath
  { socket
    compositorSocket := raw.compositorSocketPath.getD (compositorSocketBeside socket)
    logDir := raw.logDir.getD env.logDir
    dataDir := raw.dataDir.getD env.dataDir }

end RawDaemon

namespace RawLifecycle

def policy (raw : RawLifecycle) : LifecyclePolicy where
  closeTimeout :=
    (raw.closeTimeoutMs.map Duration.ofMillis).getD LifecyclePolicy.standard.closeTimeout
  tickInterval :=
    (raw.tickIntervalMs.map Duration.ofMillis).getD LifecyclePolicy.standard.tickInterval
  startupGrace :=
    (raw.startupGraceMs.map Duration.ofMillis).getD LifecyclePolicy.standard.startupGrace
  exemptions := raw.exemptions.getD LifecyclePolicy.standard.exemptions

end RawLifecycle

namespace RawAuthorization

def policy (raw : RawAuthorization) : AuthorizationPolicy where
  trustedPrefixes := raw.trustedPrefixes.getD AuthorizationPolicy.standard.trustedPrefixes
  trustedSubstrings := raw.trustedSubstrings.getD AuthorizationPolicy.standard.trustedSubstrings
  desktopFileHint := raw.desktopFileHint.getD AuthorizationPolicy.standard.desktopFileHint
  stageHint := raw.stageHint.getD AuthorizationPolicy.standard.stageHint

end RawAuthorization

namespace RawWakelock

def policy (raw : RawWakelock) : WakelockPolicy where
  enabled := raw.enabled.getD WakelockPolicy.standard.enabled
  command := raw.command.getD WakelockPolicy.standard.command

end RawWakelock

namespace RawApplication

/-- The default stage. -/
def defaultStage (raw : RawApplication) : Stage := (raw.stage.bind Stage.ofName?).getD .main

def descriptor (raw : RawApplication) : Descriptor where
  id := (AppId.mk raw.id).normalized
  name := raw.name
  comment := raw.comment
  icon := raw.icon
  exec := raw.exec
  env := raw.env
  cwd := raw.cwd
  stage := raw.defaultStage
  stages :=
    match raw.supportedStages with
    | none => .ofList [raw.defaultStage]
    | some names => .ofList (names.filterMap Stage.ofName?)
  orientations :=
    match raw.supportedOrientations with
    | none => .standard
    | some names => .ofList (names.filterMap Orientation.ofName?)

end RawApplication

namespace Policy

/-- The policy that a configuration describes. -/
def ofRaw (env : Environment) (raw : RawConfig) : Policy where
  daemon := raw.daemon.paths env
  lifecycle := raw.lifecycle.policy
  authorization := raw.authorization.policy
  wakelock := raw.wakelock.policy
  applications := raw.applications.map RawApplication.descriptor

/-- The first application with an id. -/
def getApplication (p : Policy) (id : AppId) : Option Descriptor :=
  p.applications.find? (·.id = id)

end Policy

end AppLifecycle
