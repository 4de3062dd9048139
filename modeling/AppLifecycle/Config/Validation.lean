import AppLifecycle.Config.Raw
import AppLifecycle.Stage
import AppLifecycle.Text.Blank

/-!
# Validation of configurations

Everything that is wrong with a configuration is reported, in a fixed order: repeated ids, then the
faults of each application, then those of the settings.
-/

namespace AppLifecycle

/-- Something wrong with a configuration. -/
inductive ConfigFault where
  | application (id message : String)
  | duplicateId (id : String)
  | invalidStage (name : String)
  | invalidOrientation (name : String)
  | setting (message : String)
deriving DecidableEq

namespace ConfigFault

/-- A fault in words. -/
def message : ConfigFault → String
  | .application id message => s!"Application '{id}': {message}"
  | .duplicateId id => s!"Duplicate application ID: {id}"
  | .invalidStage name => s!"Invalid stage '{name}' (expected \"main\" or \"side\")"
  | .invalidOrientation name => s!"Invalid orientation '{name}'"
  | .setting message => s!"Global config error: {message}"

/-- A fault in a list of faults. -/
def describe : ConfigFault → String
  | .application id message =>
    "ApplicationError \x7b app_id: " ++ Text.quote id ++ ", message: " ++ Text.quote message ++
      " \x7d"
  | .duplicateId id => s!"DuplicateAppId({Text.quote id})"
  | .invalidStage name => s!"InvalidStage({Text.quote name})"
  | .invalidOrientation name => s!"InvalidOrientation({Text.quote name})"
  | .setting message => s!"GlobalError({Text.quote message})"

end ConfigFault

/-! ## Names -/

/-- A name without blanks around it, in lower case. All names are ASCII, and no other character has
an ASCII letter of one of them as its lower case. -/
def plainName (name : String) : String :=
  String.ofList ((Text.trim name.toList).map Char.toLower)

/-- The stage of a name. -/
def Stage.ofName? (name : String) : Option Stage :=
  match plainName name with
  | "main" => some .main
  | "main_stage" => some .main
  | "side" => some .side
  | "side_stage" => some .side
  | _ => none

/-- The orientation of a name. -/
def Orientation.ofName? (name : String) : Option Orientation :=
  match plainName name with
  | "portrait" => some .portrait
  | "landscape" => some .landscape
  | "inverted_portrait" => some .invertedPortrait
  | "inverted-portrait" => some .invertedPortrait
  | "inverted_landscape" => some .invertedLandscape
  | "inverted-landscape" => some .invertedLandscape
  | _ => none

/-! ## Applications -/

namespace RawApplication

def fault (a : RawApplication) (message : String) : ConfigFault := .application a.id message

/-- What is wrong with the id. -/
def idFaults (a : RawApplication) : List ConfigFault :=
  if a.id.isEmpty then [a.fault "id cannot be empty"]
  else if a.id.toList.any fun c => Text.isBlank c || c = '/' then
    [a.fault "id cannot contain whitespace or '/'"]
  else []

/-- What is wrong with the command. -/
def execFaults (a : RawApplication) : List ConfigFault :=
  match a.exec with
  | [] => [a.fault "exec cannot be empty"]
  | program :: _ => if program.isEmpty then [a.fault "exec cannot be empty"] else []

/-- What is wrong with the name of the default stage. -/
def stageFaults (a : RawApplication) : List ConfigFault :=
  match a.stage with
  | none => []
  | some name => if (Stage.ofName? name).isSome then [] else [.invalidStage name]

/-- What is wrong with the list of stages. -/
def stageListFaults (a : RawApplication) : List ConfigFault :=
  match a.supportedStages with
  | none => []
  | some names =>
    let parsed := names.filterMap Stage.ofName?
    (if names.isEmpty then [a.fault "supported_stages cannot be empty"] else []) ++
    (names.filter fun name => (Stage.ofName? name).isNone).map ConfigFault.invalidStage ++
    match a.stage.bind Stage.ofName? with
    | none => []
    | some stage =>
      if !parsed.isEmpty && !parsed.contains stage then
        [a.fault "stage must be one of supported_stages"]
      else []

/-- What is wrong with the list of orientations. -/
def orientationFaults (a : RawApplication) : List ConfigFault :=
  match a.supportedOrientations with
  | none => []
  | some names =>
    (if names.isEmpty then [a.fault "supported_orientations cannot be empty"] else []) ++
    (names.filter fun name => (Orientation.ofName? name).isNone).map ConfigFault.invalidOrientation

def faults (a : RawApplication) : List ConfigFault :=
  a.idFaults ++ a.execFaults ++ a.stageFaults ++ a.stageListFaults ++ a.orientationFaults

end RawApplication

/-! ## The whole -/

namespace RawConfig

/-- The ids that have come before, each as often as it comes again. -/
def repeatedIds (seen : List String) : List RawApplication → List ConfigFault
  | [] => []
  | a :: rest =>
    if seen.contains a.id then .duplicateId a.id :: repeatedIds seen rest
    else repeatedIds (a.id :: seen) rest

/-- A time that is zero. -/
def zeroFaults (name : String) (value : Option Nat) : List ConfigFault :=
  if value = some 0 then [.setting s!"lifecycle.{name} must be greater than zero"] else []

/-- A hint that is empty. -/
def hintFaults (name : String) (value : Option String) : List ConfigFault :=
  if value.any String.isEmpty then [.setting s!"authorization.{name} cannot be empty"] else []

/-- Everything wrong with a configuration. -/
def faults (c : RawConfig) : List ConfigFault :=
  repeatedIds [] c.applications ++ c.applications.flatMap RawApplication.faults ++
  zeroFaults "close_timeout_ms" c.lifecycle.closeTimeoutMs ++
  zeroFaults "tick_interval_ms" c.lifecycle.tickIntervalMs ++
  hintFaults "desktop_file_hint" c.authorization.desktopFileHint ++
  hintFaults "stage_hint" c.authorization.stageHint ++
  if c.wakelock.command.any List.isEmpty then [.setting "wakelock.command cannot be empty"] else []

end RawConfig

end AppLifecycle
