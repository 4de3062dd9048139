import AppLifecycle.AppId
import AppLifecycle.Time

/-!
# Lifecycle and authorization policy

The times that bound an application's transitions, the applications that take no part in them, and
how a process that asks for a session is recognised.
-/

namespace AppLifecycle

structure LifecyclePolicy where
  /-- How long a session may take to close. -/
  closeTimeout : Duration
  /-- How often deadlines are looked at. -/
  tickInterval : Duration
  /-- A process that dies sooner than this has failed to start. -/
  startupGrace : Duration
  /-- Ids and package names of applications that are never suspended. -/
  exemptions : List String
deriving DecidableEq

namespace LifecyclePolicy

def standard : LifecyclePolicy where
  closeTimeout := .ofMillis 3000
  tickInterval := .ofMillis 100
  startupGrace := .ofSeconds 2
  exemptions := ["unity8-dash"]

/-- Whether the id, or its package section, is among the exemptions. -/
def isExempt (p : LifecyclePolicy) (id : AppId) : Bool :=
  p.exemptions.any fun e => e = id.text || e = id.package

end LifecyclePolicy

structure AuthorizationPolicy where
  /-- Programs that may always open sessions, by the start of their name. -/
  trustedPrefixes : List String
  /-- Programs that may always open sessions, by a piece of their command line. -/
  trustedSubstrings : List String
  /-- The start of the argument that names the desktop file of an application. -/
  desktopFileHint : String
  /-- The start of the argument that names the stage of an application. -/
  stageHint : String
deriving DecidableEq

namespace AuthorizationPolicy

def standard : AuthorizationPolicy where
  trustedPrefixes := ["maliit-server"]
  trustedSubstrings := ["qt5/libexec/QtWebProcess"]
  desktopFileHint := "--desktop_file_hint="
  stageHint := "--stage_hint="

end AuthorizationPolicy

end AppLifecycle
