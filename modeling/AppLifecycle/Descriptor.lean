import AppLifecycle.AppId
import AppLifecycle.Path
import AppLifecycle.Stage

/-!
# Descriptors

What is known of an application before it runs.
-/

namespace AppLifecycle

structure Descriptor where
  id : AppId
  name : String
  comment : Option String
  icon : Option String
  /-- The program and the arguments it always gets. -/
  exec : List String
  /-- Environment variables to set. -/
  env : List (String × String)
  cwd : Option Path
  stage : Stage
  stages : StageSet
  orientations : OrientationSet
deriving DecidableEq

namespace Descriptor

/-- A descriptor that says no more than how to launch an application. -/
def basic (id : AppId) (name : String) (exec : List String) : Descriptor where
  id
  name
  comment := none
  icon := none
  exec
  env := []
  cwd := none
  stage := .main
  stages := .standard
  orientations := .standard

/-- Chooses the stages; the default stage is always supported. -/
def withStages (d : Descriptor) (stage : Stage) (supported : StageSet) : Descriptor :=
  { d with stage, stages := .ofList (stage :: supported.toList) }

/-- The whole command line of a launch. -/
def argv (d : Descriptor) (extra : List String) : List String := d.exec ++ extra

end Descriptor

end AppLifecycle
