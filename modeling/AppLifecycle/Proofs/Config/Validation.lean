import AppLifecycle.Policy
import AppLifecycle.Proofs.AppId
import Mathlib.Data.List.Forall2
import Mathlib.Data.List.Nodup

/-!
# Valid configurations

Nothing is wrong with a configuration exactly if it is well-formed (`WellFormed`), which is said
here without the checks: of each application, and of the settings that are given. The policy honours
such a configuration (`Honoured`): no setting that is given is lost, nor a name where names are
read, no id is left empty where ids are shortened, and a default stands only for what is not given
and is none that would be refused.
-/

namespace AppLifecycle

/-! ## What is asked of a configuration, and of its policy -/

/-- An id is not empty, and holds neither blanks nor slashes. -/
structure AppId.WellFormed (id : AppId) : Prop where
  nonempty : id.text ≠ ""
  plain : ∀ c ∈ id.text.toList, Text.isBlank c = false ∧ c ≠ '/'

/-- A command line begins with a program. -/
def NamesProgram (exec : List String) : Prop :=
  ∃ program arguments, exec = program :: arguments ∧ program ≠ ""

/-- There are names, and each of them is understood. -/
def Understood {α : Type} (read : String → Option α) (names : List String) : Prop :=
  names ≠ [] ∧ ∀ name ∈ names, (read name).isSome = true

/-- The members of a set are those that are named, and no name is lost. -/
def Names {α : Type} (read : String → Option α) (names : List String) (holds : α → Bool) : Prop :=
  (∀ name ∈ names, ∃ a, read name = some a ∧ holds a = true) ∧
    ∀ a, holds a = true → ∃ name ∈ names, read name = some a

/-- A value is the one that is given, or else the default. -/
structure Settles {α : Type} (given : Option α) (standard value : α) : Prop where
  kept : ∀ a, given = some a → value = a
  standard : given = none → value = standard

namespace RawApplication

structure WellFormed (a : RawApplication) : Prop where
  id : (AppId.mk a.id).WellFormed
  program : NamesProgram a.exec
  stage : ∀ name, a.stage = some name → (Stage.ofName? name).isSome = true
  stages : ∀ names, a.supportedStages = some names → Understood Stage.ofName? names
  /-- A stage that is given is one of those that are listed. -/
  listed : ∀ name names, a.stage = some name → a.supportedStages = some names →
    Stage.ofName? name ∈ names.map Stage.ofName?
  orientations : ∀ names, a.supportedOrientations = some names →
    Understood Orientation.ofName? names

/-- A descriptor says what was written, under the short id. An application that does not say
otherwise is on the main stage, and supports the stage that it is on and every orientation. -/
structure Described (a : RawApplication) (d : Descriptor) : Prop where
  id : d.id = (AppId.mk a.id).normalized
  wellFormed : d.id.WellFormed
  name : d.name = a.name
  comment : d.comment = a.comment
  icon : d.icon = a.icon
  exec : d.exec = a.exec
  program : NamesProgram d.exec
  env : d.env = a.env
  cwd : d.cwd = a.cwd
  stage : ∀ name, a.stage = some name → Stage.ofName? name = some d.stage
  stage_standard : a.stage = none → d.stage = .main
  stages : ∀ names, a.supportedStages = some names → Names Stage.ofName? names d.stages.supports
  stages_standard : a.supportedStages = none →
    ∀ stage, d.stages.supports stage = true ↔ stage = d.stage
  orientations : ∀ names, a.supportedOrientations = some names →
    Names Orientation.ofName? names d.orientations.supports
  orientations_standard : a.supportedOrientations = none →
    ∀ orientation, d.orientations.supports orientation = true

end RawApplication

structure RawDaemon.Honoured (env : Environment) (raw : RawDaemon) (p : DaemonPaths) : Prop where
  socket : Settles raw.socketPath env.socketPath p.socket
  compositorSocket :
    Settles raw.compositorSocketPath (compositorSocketBeside p.socket) p.compositorSocket
  logDir : Settles raw.logDir env.logDir p.logDir
  dataDir : Settles raw.dataDir env.dataDir p.dataDir

structure RawLifecycle.Honoured (raw : RawLifecycle) (p : LifecyclePolicy) : Prop where
  closeTimeout : Settles (raw.closeTimeoutMs.map .ofMillis) (.ofMillis 3000) p.closeTimeout
  tickInterval : Settles (raw.tickIntervalMs.map .ofMillis) (.ofMillis 100) p.tickInterval
  startupGrace : Settles (raw.startupGraceMs.map .ofMillis) (.ofMillis 2000) p.startupGrace
  exemptions : Settles raw.exemptions ["unity8-dash"] p.exemptions
  closeTimeout_pos : 0 < p.closeTimeout.nanos
  tickInterval_pos : 0 < p.tickInterval.nanos

structure RawAuthorization.Honoured (raw : RawAuthorization) (p : AuthorizationPolicy) :
    Prop where
  trustedPrefixes : Settles raw.trustedPrefixes ["maliit-server"] p.trustedPrefixes
  trustedSubstrings :
    Settles raw.trustedSubstrings ["qt5/libexec/QtWebProcess"] p.trustedSubstrings
  desktopFileHint : Settles raw.desktopFileHint "--desktop_file_hint=" p.desktopFileHint
  stageHint : Settles raw.stageHint "--stage_hint=" p.stageHint
  desktopFileHint_ne : p.desktopFileHint ≠ ""
  stageHint_ne : p.stageHint ≠ ""

structure RawWakelock.Honoured (raw : RawWakelock) (p : WakelockPolicy) : Prop where
  enabled : Settles raw.enabled true p.enabled
  command : Settles raw.command WakelockPolicy.standard.command p.command
  command_ne : p.command ≠ []

namespace RawConfig

structure WellFormed (c : RawConfig) : Prop where
  ids : (c.applications.map RawApplication.id).Nodup
  applications : ∀ a ∈ c.applications, a.WellFormed
  closeTimeout : c.lifecycle.closeTimeoutMs ≠ some 0
  tickInterval : c.lifecycle.tickIntervalMs ≠ some 0
  desktopFileHint : c.authorization.desktopFileHint ≠ some ""
  stageHint : c.authorization.stageHint ≠ some ""
  command : c.wakelock.command ≠ some []

/-- A policy has an application for each that was written, in the same order, and all settings, as
they were given or by default, and they can be used. -/
structure Honoured (env : Environment) (c : RawConfig) (p : Policy) : Prop where
  daemon : c.daemon.Honoured env p.daemon
  lifecycle : c.lifecycle.Honoured p.lifecycle
  authorization : c.authorization.Honoured p.authorization
  wakelock : c.wakelock.Honoured p.wakelock
  applications : List.Forall₂ RawApplication.Described c.applications p.applications

end RawConfig

/-! ## Faults of an application -/

/-- The faults of a list of names, whatever they are names of. -/
lemma nameFaults_eq_nil {α : Type} {read : String → Option α} {names : List String}
    {empty : ConfigFault} {unread : String → ConfigFault} :
    ((if names.isEmpty then [empty] else []) ++
      (names.filter fun name => (read name).isNone).map unread = []) ↔ Understood read names := by
  rw [List.append_eq_nil_iff, List.map_eq_nil_iff, List.filter_eq_nil_iff]
  refine and_congr ?_ (forall₂_congr fun name _ => ?_)
  · cases names <;> simp
  · cases read name <;> simp

namespace RawApplication

variable {a : RawApplication}

lemma idFaults_eq_nil : a.idFaults = [] ↔ (AppId.mk a.id).WellFormed := by
  unfold idFaults
  split
  · rename_i empty
    refine iff_of_false (List.cons_ne_nil _ _) fun wellFormed => wellFormed.nonempty ?_
    exact String.isEmpty_iff.mp empty
  · rename_i nonempty
    split
    · rename_i found
      obtain ⟨c, hc, bad⟩ := List.any_eq_true.mp found
      refine iff_of_false (List.cons_ne_nil _ _) fun wellFormed => ?_
      obtain ⟨unblank, noSlash⟩ := wellFormed.plain c hc
      simp [unblank, noSlash] at bad
    · rename_i clean
      refine iff_of_true rfl ⟨fun empty => nonempty (String.isEmpty_iff.mpr empty), fun c hc => ?_⟩
      have good := List.any_eq_false.mp (Bool.eq_false_iff.mpr clean) c hc
      simpa using good

lemma execFaults_eq_nil : a.execFaults = [] ↔ NamesProgram a.exec := by
  unfold execFaults NamesProgram
  split
  · rename_i none
    rw [none]
    simp
  · rename_i program arguments some
    rw [some]
    by_cases empty : program = "" <;> simp [String.isEmpty_iff, empty]

lemma stageFaults_eq_nil :
    a.stageFaults = [] ↔ ∀ name, a.stage = some name → (Stage.ofName? name).isSome = true := by
  unfold stageFaults
  split
  · rename_i absent
    simp [absent]
  · rename_i name given
    simp [given, Option.isSome_iff_ne_none]

/-- Whether the stage is listed is only looked at where both are understood. -/
lemma stageListFaults_eq_nil :
    a.stageListFaults = [] ↔ ∀ names, a.supportedStages = some names →
      Understood Stage.ofName? names ∧ ∀ stage, a.stage.bind Stage.ofName? = some stage →
        some stage ∈ names.map Stage.ofName? := by
  unfold stageListFaults
  split
  · rename_i absent
    simp [absent]
  · rename_i names given
    dsimp only
    rw [List.append_eq_nil_iff, nameFaults_eq_nil]
    have one : (∀ names', a.supportedStages = some names' → Understood Stage.ofName? names' ∧
        ∀ stage, a.stage.bind Stage.ofName? = some stage →
          some stage ∈ names'.map Stage.ofName?) ↔
        Understood Stage.ofName? names ∧ ∀ stage, a.stage.bind Stage.ofName? = some stage →
          some stage ∈ names.map Stage.ofName? := by
      simp [given]
    rw [one]
    refine and_congr_right fun understood => ?_
    split
    · rename_i none
      simp [none]
    · rename_i stage some
      -- as all names are understood and there are some, there are stages to look at
      obtain ⟨name, hname⟩ := List.exists_mem_of_ne_nil names understood.1
      obtain ⟨first, hfirst⟩ := Option.isSome_iff_exists.mp (understood.2 name hname)
      have nonempty : (names.filterMap Stage.ofName?).isEmpty = false := by
        rw [List.isEmpty_eq_false_iff_exists_mem]
        exact ⟨first, List.mem_filterMap.mpr ⟨name, hname, hfirst⟩⟩
      simp [some, nonempty]

lemma orientationFaults_eq_nil :
    a.orientationFaults = [] ↔ ∀ names, a.supportedOrientations = some names →
      Understood Orientation.ofName? names := by
  unfold orientationFaults
  split
  · rename_i absent
    simp [absent]
  · rename_i names given
    rw [nameFaults_eq_nil]
    simp [given]

/-- Nothing is wrong with an application exactly if it is well-formed. -/
theorem faults_eq_nil : a.faults = [] ↔ a.WellFormed := by
  unfold faults
  rw [List.append_eq_nil_iff, List.append_eq_nil_iff, List.append_eq_nil_iff,
    List.append_eq_nil_iff, idFaults_eq_nil, execFaults_eq_nil, stageFaults_eq_nil,
    stageListFaults_eq_nil, orientationFaults_eq_nil]
  constructor
  · rintro ⟨⟨⟨⟨id, program⟩, stage⟩, stages⟩, orientations⟩
    refine ⟨id, program, stage, fun names given => (stages names given).1, ?_, orientations⟩
    intro name names hname given
    obtain ⟨first, hfirst⟩ := Option.isSome_iff_exists.mp (stage name hname)
    rw [hfirst]
    refine (stages names given).2 first ?_
    rw [hname]
    exact hfirst
  · intro wellFormed
    refine ⟨⟨⟨⟨wellFormed.id, wellFormed.program⟩, wellFormed.stage⟩, fun names given => ?_⟩,
      wellFormed.orientations⟩
    refine ⟨wellFormed.stages names given, fun stage understood => ?_⟩
    obtain ⟨name, hname, hstage⟩ := Option.bind_eq_some_iff.mp understood
    rw [← hstage]
    exact wellFormed.listed name names hname given

end RawApplication

/-! ## Faults of the settings -/

namespace RawConfig

lemma repeatedIds_eq_nil {seen : List String} {applications : List RawApplication} :
    repeatedIds seen applications = [] ↔
      (applications.map RawApplication.id).Nodup ∧ ∀ a ∈ applications, a.id ∉ seen := by
  induction applications generalizing seen with
  | nil => simp [repeatedIds]
  | cons a rest ih =>
    unfold repeatedIds
    by_cases known : a.id ∈ seen
    · simp [known]
    · rw [if_neg (by simpa using known), ih, List.forall_mem_cons]
      simp only [List.map_cons, List.nodup_cons, List.mem_cons, not_or, List.mem_map, not_exists,
        not_and]
      constructor
      · rintro ⟨distinct, others⟩
        exact ⟨⟨fun b hb => (others b hb).1, distinct⟩, known, fun b hb => (others b hb).2⟩
      · rintro ⟨⟨differs, distinct⟩, -, others⟩
        exact ⟨distinct, fun b hb => ⟨differs b hb, others b hb⟩⟩

lemma zeroFaults_eq_nil {name : String} {value : Option Nat} :
    zeroFaults name value = [] ↔ value ≠ some 0 := by
  unfold zeroFaults
  split <;> simp_all

lemma hintFaults_eq_nil {name : String} {value : Option String} :
    hintFaults name value = [] ↔ value ≠ some "" := by
  unfold hintFaults
  cases value <;> simp [String.isEmpty_iff]

lemma commandFaults_eq_nil {fault : ConfigFault} {command : Option (List String)} :
    (if command.any List.isEmpty then [fault] else []) = [] ↔ command ≠ some [] := by
  cases command <;> simp

/-- Nothing is wrong with a configuration exactly if it is well-formed. -/
theorem faults_eq_nil {c : RawConfig} : c.faults = [] ↔ c.WellFormed := by
  unfold faults
  simp only [List.append_eq_nil_iff, repeatedIds_eq_nil, List.flatMap_eq_nil_iff,
    RawApplication.faults_eq_nil, zeroFaults_eq_nil, hintFaults_eq_nil, commandFaults_eq_nil]
  constructor
  · rintro ⟨⟨⟨⟨⟨⟨⟨ids, -⟩, applications⟩, close⟩, tick⟩, desktop⟩, stage⟩, command⟩
    exact ⟨ids, applications, close, tick, desktop, stage, command⟩
  · intro wellFormed
    exact ⟨⟨⟨⟨⟨⟨⟨wellFormed.ids, fun _ _ => List.not_mem_nil⟩, wellFormed.applications⟩,
      wellFormed.closeTimeout⟩, wellFormed.tickInterval⟩, wellFormed.desktopFileHint⟩,
      wellFormed.stageHint⟩, wellFormed.command⟩

end RawConfig

/-! ## What becomes of a valid configuration -/

/-- An id stays well-formed without its version. -/
lemma AppId.WellFormed.normalized {id : AppId} (h : id.WellFormed) : id.normalized.WellFormed := by
  unfold AppId.normalized
  split
  · rename_i short hshort
    obtain ⟨version, hlong⟩ := AppId.eq_append_of_shortForm? hshort
    refine ⟨fun empty => ?_, fun c hc => ?_⟩
    · have section_ := AppId.underscore_mem_shortForm? hshort
      rw [String.ofList_eq_empty_iff.mp empty] at section_
      cases section_
    · rw [String.toList_ofList] at hc
      refine h.plain c ?_
      rw [hlong]
      exact List.mem_append_left _ hc
  · exact h

@[simp] lemma StageSet.supports_ofList {stages : List Stage} {stage : Stage} :
    (StageSet.ofList stages).supports stage = true ↔ stage ∈ stages := by
  cases stage <;> simp [StageSet.ofList, StageSet.supports]

@[simp] lemma OrientationSet.supports_ofList {orientations : List Orientation}
    {orientation : Orientation} :
    (OrientationSet.ofList orientations).supports orientation = true ↔
      orientation ∈ orientations := by
  cases orientation <;> simp [OrientationSet.ofList, OrientationSet.supports]

/-- Where all names are understood, leaving out those that are not loses none. -/
lemma Understood.names {α : Type} {read : String → Option α} {names : List String}
    {holds : α → Bool} (h : Understood read names)
    (collected : ∀ a, holds a = true ↔ a ∈ names.filterMap read) : Names read names holds := by
  refine ⟨fun name hname => ?_, fun a ha => ?_⟩
  · obtain ⟨a, understood⟩ := Option.isSome_iff_exists.mp (h.2 name hname)
    exact ⟨a, understood, (collected a).mpr (List.mem_filterMap.mpr ⟨name, hname, understood⟩)⟩
  · exact List.mem_filterMap.mp ((collected a).mp ha)

namespace RawApplication

variable {a : RawApplication}

lemma descriptor_stages {names : List String} (given : a.supportedStages = some names) :
    a.descriptor.stages = .ofList (names.filterMap Stage.ofName?) := by
  unfold descriptor
  rw [given]

lemma descriptor_orientations {names : List String} (given : a.supportedOrientations = some names) :
    a.descriptor.orientations = .ofList (names.filterMap Orientation.ofName?) := by
  unfold descriptor
  rw [given]

theorem WellFormed.described (h : a.WellFormed) : a.Described a.descriptor where
  id := rfl
  wellFormed := h.id.normalized
  name := rfl
  comment := rfl
  icon := rfl
  exec := rfl
  program := h.program
  env := rfl
  cwd := rfl
  stage name given := by
    obtain ⟨stage, understood⟩ := Option.isSome_iff_exists.mp (h.stage name given)
    have chosen : a.descriptor.stage = stage := by
      show (a.stage.bind Stage.ofName?).getD .main = stage
      rw [given, Option.bind_some, understood, Option.getD_some]
    rw [understood, chosen]
  stage_standard absent := by
    show (a.stage.bind Stage.ofName?).getD .main = .main
    rw [absent, Option.bind_none, Option.getD_none]
  stages names given := by
    refine (h.stages names given).names fun stage => ?_
    rw [descriptor_stages given, StageSet.supports_ofList]
  stages_standard absent stage := by
    unfold descriptor
    rw [absent]
    dsimp only
    rw [StageSet.supports_ofList, List.mem_singleton]
  orientations names given := by
    refine (h.orientations names given).names fun orientation => ?_
    rw [descriptor_orientations given, OrientationSet.supports_ofList]
  orientations_standard absent orientation := by
    unfold descriptor
    rw [absent]
    cases orientation <;> rfl

end RawApplication

lemma Settles.getD {α : Type} (given : Option α) (standard : α) :
    Settles given standard (given.getD standard) where
  kept a some := by rw [some, Option.getD_some]
  standard none := by rw [none, Option.getD_none]

/-- A time that is given and is not zero, or else a default that is not. -/
lemma nanos_getD_pos {given : Option Nat} {standard : Duration} (h : given ≠ some 0)
    (positive : 0 < standard.nanos) : 0 < ((given.map Duration.ofMillis).getD standard).nanos := by
  cases given with
  | none => exact positive
  | some n =>
    have nonzero : n ≠ 0 := fun zero => h (congrArg some zero)
    show 0 < n * 1000000
    omega

/-- The same of a setting that must not be empty. -/
lemma getD_ne {α : Type} {given : Option α} {standard empty : α} (h : given ≠ some empty)
    (nonempty : standard ≠ empty) : given.getD standard ≠ empty := by
  cases given with
  | none => exact nonempty
  | some a => exact fun same => h (congrArg some same)

lemma RawDaemon.honoured (raw : RawDaemon) (env : Environment) :
    raw.Honoured env (raw.paths env) :=
  ⟨.getD _ _, .getD _ _, .getD _ _, .getD _ _⟩

namespace RawConfig

variable {c : RawConfig}

lemma WellFormed.lifecycle (h : c.WellFormed) : c.lifecycle.Honoured c.lifecycle.policy where
  closeTimeout := .getD _ _
  tickInterval := .getD _ _
  startupGrace := .getD _ _
  exemptions := .getD _ _
  closeTimeout_pos := nanos_getD_pos h.closeTimeout (by decide)
  tickInterval_pos := nanos_getD_pos h.tickInterval (by decide)

lemma WellFormed.authorization (h : c.WellFormed) :
    c.authorization.Honoured c.authorization.policy where
  trustedPrefixes := .getD _ _
  trustedSubstrings := .getD _ _
  desktopFileHint := .getD _ _
  stageHint := .getD _ _
  desktopFileHint_ne := getD_ne h.desktopFileHint (by decide)
  stageHint_ne := getD_ne h.stageHint (by decide)

lemma WellFormed.wakelock (h : c.WellFormed) : c.wakelock.Honoured c.wakelock.policy where
  enabled := .getD _ _
  command := .getD _ _
  command_ne := getD_ne h.command (by decide)

theorem WellFormed.honoured (h : c.WellFormed) (env : Environment) :
    c.Honoured env (.ofRaw env c) where
  daemon := c.daemon.honoured env
  lifecycle := h.lifecycle
  authorization := h.authorization
  wakelock := h.wakelock
  applications := by
    refine List.forall₂_map_right_iff.mpr (List.forall₂_same.mpr fun a ha => ?_)
    exact (h.applications a ha).described

/-- Nothing is wrong with a configuration exactly if it is well-formed, and then the policy
describes every application as it was written, with all the names that were given, has every setting
as it was given or else by default, and its settings can be used. -/
theorem valid_and_honoured (env : Environment) (c : RawConfig) :
    (c.faults = [] ↔ c.WellFormed) ∧ (c.faults = [] → c.Honoured env (.ofRaw env c)) := by
  refine ⟨faults_eq_nil, fun faultless => ?_⟩
  have wellFormed := faults_eq_nil.mp faultless
  exact wellFormed.honoured env

/-- The clock is given by its long id, with names of stages and orientations in several spellings;
the notes are given without anything that may be left out. Of the settings some are given. -/
def deskConfig : RawConfig where
  version := 1
  daemon := { RawDaemon.empty with
    socketPath := some ⟨"/run/desk/shell.sock"⟩
    dataDir := some ⟨"/srv/desk"⟩ }
  lifecycle := { RawLifecycle.empty with
    closeTimeoutMs := some 1500
    startupGraceMs := some 0
    exemptions := some ["notes"] }
  authorization := { RawAuthorization.empty with
    trustedPrefixes := some []
    stageHint := some "--stage=" }
  wakelock := ⟨some false, some ["sleep", "infinity"]⟩
  applications := [
    { id := "com.desk_clock_1.0", name := "Clock", exec := ["clock", "--tick"]
      comment := some "Shows the time", icon := some "clock", stage := some " Side_Stage"
      supportedStages := some ["main", "SIDE", "side"]
      supportedOrientations := some ["inverted-portrait"], env := [("TZ", "UTC")]
      cwd := some ⟨"/srv/clock"⟩ },
    { id := "notes", name := "Notes", exec := ["notes"], comment := none, icon := none
      stage := none, supportedStages := none, supportedOrientations := none, env := []
      cwd := none }]

theorem deskConfig_valid_and_honoured :
    deskConfig.faults = [] ∧ deskConfig.WellFormed ∧
    deskConfig.Honoured [] (.ofRaw [] deskConfig) ∧
    (Policy.ofRaw [] deskConfig).daemon.socket = ⟨"/run/desk/shell.sock"⟩ ∧
    (Policy.ofRaw [] deskConfig).daemon.dataDir = ⟨"/srv/desk"⟩ ∧
    (Policy.ofRaw [] deskConfig).lifecycle =
      { LifecyclePolicy.standard with
        closeTimeout := .ofMillis 1500, startupGrace := .ofMillis 0, exemptions := ["notes"] } ∧
    (Policy.ofRaw [] deskConfig).authorization =
      { AuthorizationPolicy.standard with trustedPrefixes := [], stageHint := "--stage=" } ∧
    (Policy.ofRaw [] deskConfig).wakelock = ⟨false, ["sleep", "infinity"]⟩ ∧
    (Policy.ofRaw [] deskConfig).applications.map (fun d => (d.id, d.comment, d.icon, d.env)) =
      [(⟨"com.desk_clock"⟩, some "Shows the time", some "clock", [("TZ", "UTC")]),
        (⟨"notes"⟩, none, none, [])] ∧
    (Policy.ofRaw [] deskConfig).applications.map (fun d => (d.cwd, d.stage, d.stages)) =
      [(some ⟨"/srv/clock"⟩, .side, ⟨true, true⟩), (none, .main, ⟨true, false⟩)] := by
  have faultless : deskConfig.faults = [] := by decide +kernel
  obtain ⟨valid, honoured⟩ := valid_and_honoured [] deskConfig
  exact ⟨faultless, valid.mp faultless, honoured faultless, rfl, rfl, rfl, rfl, rfl,
    by decide +kernel, by decide +kernel⟩

end RawConfig

end AppLifecycle
