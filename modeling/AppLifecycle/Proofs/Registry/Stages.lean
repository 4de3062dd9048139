import AppLifecycle.Proofs.Config.Catalog
import AppLifecycle.Proofs.Registry.Reachable

/-!
# Stages that are supported

A record begins on the default stage of its application, and is moved to supported stages only
(`Staged`). So it is the catalog that decides whether a record is ever on a stage that its
application does not support. In a valid configuration a stage that is given is one of those that
are listed; but where no stage is given, the default one may be missing from the list
(`LeavesOutDefault`).
-/

namespace AppLifecycle

namespace RawApplication

variable {a : RawApplication}

/-- No stage is given, and the stages that are listed are all others than the default one. -/
def LeavesOutDefault (a : RawApplication) : Prop :=
  a.stage = none ∧ ∃ names, a.supportedStages = some names ∧
    ∀ name ∈ names, Stage.ofName? name ≠ some .main

theorem WellFormed.supports_default_iff (h : a.WellFormed) :
    a.descriptor.stages.supports a.descriptor.stage = true ↔ ¬a.LeavesOutDefault := by
  cases listed : a.supportedStages with
  | none =>
    have alone : a.descriptor.stages = .ofList [a.descriptor.stage] := by
      unfold RawApplication.descriptor
      rw [listed]
    refine iff_of_true ?_ ?_
    · rw [alone, StageSet.supports_ofList]
      exact List.mem_singleton_self _
    · rintro ⟨-, names, given, -⟩
      rw [listed] at given
      cases given
  | some names =>
    rw [descriptor_stages listed, StageSet.supports_ofList, List.mem_filterMap]
    cases given : a.stage with
    | none =>
      have main : a.descriptor.stage = .main := by
        show (a.stage.bind Stage.ofName?).getD .main = .main
        rw [given]
        rfl
      rw [main]
      constructor
      · rintro ⟨name, hname, means⟩ ⟨-, names', same, others⟩
        obtain rfl : names = names' := Option.some.inj (listed.symm.trans same)
        exact others name hname means
      · intro free
        by_contra missing
        exact free ⟨given, names, listed, fun name hname means => missing ⟨name, hname, means⟩⟩
    | some name =>
      -- the stage that is given is looked for in the list by validation
      obtain ⟨other, hother, same⟩ := List.mem_map.mp (h.listed name names given listed)
      refine iff_of_true ⟨other, hother, same.trans (h.described.stage name given)⟩ ?_
      rintro ⟨absent, -⟩
      rw [given] at absent
      cases absent

end RawApplication

/-- The application is shown on a stage that it supports. -/
def Record.OnStage (r : Record) : Prop := r.descriptor.stages.supports r.stage = true

/-- The application is shown on a stage that it supports, or on its default stage. -/
def Record.Staged (r : Record) : Prop := r.OnStage ∨ r.stage = r.descriptor.stage

namespace Scene

variable {host : Host} {s t : Scene}

lemma enter_stage (host : Host) (state : InternalState) (s : Scene) :
    (s.enter host state).record.stage = s.record.stage := by
  unfold enter
  split
  · rfl
  · rw [syncWakelock_record]
    rfl

/-- A stage is only ever changed to one that is supported. -/
lemma Move.stage_eq_or_onStage (move : Move host s t) :
    t.record.stage = s.record.stage ∨ t.record.OnStage := by
  cases move with
  | log e => exact .inl rfl
  | detail f hf => exact .inl (hf s.record).stage
  | stage stage supported => exact .inr supported
  | enter state => exact .inl (enter_stage host state s)
  | exempt exempt =>
    rw [syncWakelock_record]
    exact .inl rfl

theorem Moves.staged (moves : Moves host s t) (h : s.record.Staged) : t.record.Staged := by
  induction moves with
  | refl => exact h
  | tail _ move ih =>
    have descriptor := move.sameIdentity.descriptor
    obtain same | supported := move.stage_eq_or_onStage
    · unfold Record.Staged Record.OnStage at *
      rw [same, descriptor]
      exact ih
    · exact .inl supported

end Scene

namespace Policy

variable {p : Policy} {id : AppId} {d : Descriptor}

/-- The machine knows the applications of the policy. -/
def ServedBy (p : Policy) (host : Host) : Prop :=
  host.findMetadata = p.catalog p.lifecycle.startupGrace

/-- A machine that knows the applications of the policy and does what it is asked to. -/
def willing (p : Policy) : Host :=
  { Host.willing with findMetadata := p.catalog p.lifecycle.startupGrace }

lemma willing_servedBy (p : Policy) : p.ServedBy p.willing := rfl

lemma mem_of_catalog {grace : Duration} (h : p.catalog grace id = some d) :
    d ∈ p.applications ∧ d.id = id := by
  rw [catalog_eq_getLast?] at h
  exact (List.mem_filter.mp (List.mem_of_getLast? h)).imp_right of_decide_eq_true

/-- The ids of a policy are short. -/
lemma short_of_mem {env : Environment} {raw : RawConfig}
    (h : d ∈ (ofRaw env raw).applications) : d.id.normalized = d.id := by
  obtain ⟨a, -, rfl⟩ := List.mem_map.mp h
  exact AppId.normalized_normalized _

end Policy

namespace Registry

variable {host : Host} {op : Operation} {reg reg' : Registry} {p : Policy}

/-- An application of the catalog, on a supported stage or its default one. -/
def Listed (p : Policy) (r : Record) : Prop :=
  (∃ id, p.catalog p.lifecycle.startupGrace id = some r.descriptor) ∧ r.Staged

lemma Listed.of_moves {s t : Scene} (moves : Scene.Moves host s t) (h : Listed p s.record) :
    Listed p t.record := by
  refine ⟨?_, moves.staged h.2⟩
  rw [moves.sameIdentity.descriptor]
  exact h.1

lemma Step.listed (step : Step host op reg reg') (served : p.ServedBy host)
    (h : ∀ r ∈ reg.entries, Listed p r) : ∀ r ∈ reg'.entries, Listed p r := by
  refine step.forall_entries (fun _ _ listed => listed) (fun _ _ _ listed => listed) ?_ ?_ h
  · intro id descriptor arguments exempt f known introduction
    refine .of_moves (introduction.moves host _) ?_
    rw [Scene.begin, Scene.syncWakelock_record]
    refine ⟨⟨id.normalized, ?_⟩, .inr rfl⟩
    rw [← served]
    exact known
  · intro r f hr treatment listed _
    have moves := treatment.moves (reg.scene r)
    exact .of_moves moves listed

theorem Reachable.listed (h : Reachable p.ServedBy reg) : ∀ r ∈ reg.entries, Listed p r :=
  h.invariant (I := fun reg => ∀ r ∈ reg.entries, Listed p r)
    (fun _ _ _ none => absurd none List.not_mem_nil)
    (fun _ _ _ _ served step => step.listed served) fun _ _ _ listed => listed

/-- An application that is launched in an empty registry is there. -/
lemma start_entries {id : AppId} {d : Descriptor} (lifecycle : LifecyclePolicy)
    (authorization : AuthorizationPolicy) (short : id.normalized = id)
    (known : p.catalog p.lifecycle.startupGrace id = some d) :
    ((Registry.empty lifecycle authorization).perform p.willing (.start id [])).2.entries =
      [.launched d [] (lifecycle.isExempt id) lifecycle.closeTimeout ⟨1⟩] := by
  have found : p.willing.findMetadata id = some d := known
  show (startApplication p.willing id [] (.empty lifecycle authorization)).2.entries = _
  unfold startApplication
  dsimp only
  rw [short, found]
  show [(Scene.begin p.willing _ _ _).record] = _
  rw [Scene.begin, Scene.syncWakelock_record]
  rfl

/-- Of a policy that a text gives, an application supports its default stage unless the text leaves
that out. In every registry that is launched from its applications, a record is on a stage that its
application supports, or on the default one; and so every record is always on a supported stage
exactly if no application that the catalog finds has its default stage left out. -/
theorem stages_supported_iff {env : Environment} {text : String}
    (accepted : Policy.ofToml env text = .ok p) :
    ∃ raw, RawConfig.ofToml? text = some raw ∧ p = .ofRaw env raw ∧
      (∀ a ∈ raw.applications,
        a.descriptor.stages.supports a.descriptor.stage = true ↔ ¬a.LeavesOutDefault) ∧
      (∀ reg, Reachable p.ServedBy reg → ∀ r ∈ reg.entries,
        r.descriptor ∈ p.applications ∧ (r.OnStage ∨ r.stage = r.descriptor.stage)) ∧
      ((∀ reg, Reachable p.ServedBy reg → ∀ r ∈ reg.entries, r.OnStage) ↔
        ∀ a ∈ raw.applications,
          p.catalog p.lifecycle.startupGrace a.descriptor.id = some a.descriptor →
            ¬a.LeavesOutDefault) := by
  obtain ⟨raw, found, -, wellFormed, rfl⟩ := Policy.ofToml_eq_ok.mp accepted
  have supports := fun a ha => (wellFormed.applications a ha).supports_default_iff
  refine ⟨raw, found, rfl, supports, fun reg reachable r hr => ?_, fun onStage a ha known => ?_,
    fun free reg reachable r hr => ?_⟩
  · obtain ⟨⟨id, known⟩, staged⟩ := reachable.listed r hr
    exact ⟨(Policy.mem_of_catalog known).1, staged⟩
  · -- the application is launched, and is then on its default stage
    have short := Policy.short_of_mem (Policy.mem_of_catalog known).1
    have entries := start_entries .standard .standard short known
    have reachable := (Reachable.empty .standard .standard).perform (.start a.descriptor.id [])
      (Policy.willing_servedBy (.ofRaw env raw))
    have shown := onStage _ reachable _ (by rw [entries]; exact List.mem_singleton_self _)
    exact (supports a ha).mp shown
  · obtain ⟨⟨id, known⟩, staged⟩ := reachable.listed r hr
    refine staged.elim (fun onStage => onStage) fun default => ?_
    obtain ⟨mem, hid⟩ := Policy.mem_of_catalog known
    obtain ⟨a, ha, same⟩ := List.mem_map.mp mem
    have listed := free a ha (by rw [same, hid]; exact known)
    have supported := (supports a ha).mpr listed
    rw [same] at supported
    show r.descriptor.stages.supports r.stage = true
    rw [default]
    exact supported

/-- A clock that can be shown on both stages and is launched on the side. -/
def sideText : String := "\n".intercalate [
  "config_version = 1",
  "[[applications]]", "id = \"clock\"", "name = \"Clock\"", "exec = [\"clock\"]",
  "stage = \"side\"", "supported_stages = [\"main\", \"side\"]"]

theorem clock_always_on_stage : ∃ p, Policy.ofToml [] sideText = .ok p ∧
    p.applications.map (fun d => (d.stage, d.stages)) = [(.side, ⟨true, true⟩)] ∧
    ∀ reg, Reachable p.ServedBy reg → ∀ r ∈ reg.entries, r.OnStage := by
  obtain ⟨p, accepted, stages⟩ := Policy.exists_ok_of_toOption (e := Policy.ofToml [] sideText)
    (f := fun p => p.applications.map fun d => (d.stage, d.stages))
    (b := [(.side, ⟨true, true⟩)]) (by decide +kernel)
  obtain ⟨raw, -, same, supports, -, always⟩ := stages_supported_iff accepted
  refine ⟨p, accepted, stages, always.mpr fun a ha _ => (supports a ha).mp ?_⟩
  have described : (a.descriptor.stage, a.descriptor.stages) ∈
      p.applications.map fun d => (d.stage, d.stages) := by
    rw [same]
    exact List.mem_map_of_mem (List.mem_map_of_mem ha)
  rw [stages] at described
  obtain ⟨stage, listed⟩ := Prod.mk.inj (List.mem_singleton.mp described)
  rw [stage, listed]
  rfl

/-- A clock that lists the side stage and says nothing else of stages. -/
def listedText : String := "\n".intercalate [
  "config_version = 1",
  "[[applications]]", "id = \"clock\"", "name = \"Clock\"", "exec = [\"clock\"]",
  "supported_stages = [\"side\"]"]

/-- The clock is accepted with a default stage that it does not support, and is shown there when it
is launched. -/
theorem clock_launched_off_stage : ∃ p, Policy.ofToml [] listedText = .ok p ∧
    (∃ d ∈ p.applications, d.stages.supports d.stage = false) ∧
    ∃ reg, Reachable p.ServedBy reg ∧ ∃ r ∈ reg.entries, ¬r.OnStage := by
  obtain ⟨p, accepted, stages⟩ := Policy.exists_ok_of_toOption (e := Policy.ofToml [] listedText)
    (f := fun p => (p.catalog p.lifecycle.startupGrace ⟨"clock"⟩).map
      fun d => d.stages.supports d.stage)
    (b := some false) (by decide +kernel)
  obtain ⟨d, known, unsupported⟩ := Option.map_eq_some_iff.mp stages
  have entries := start_entries .standard .standard (by decide) known
  have reachable := (Reachable.empty .standard .standard).perform (.start ⟨"clock"⟩ [])
    p.willing_servedBy
  refine ⟨p, accepted, ⟨d, (Policy.mem_of_catalog known).1, unsupported⟩, _, reachable, ?_⟩
  rw [entries]
  refine ⟨_, List.mem_singleton_self _, fun shown => ?_⟩
  have supported : d.stages.supports d.stage = true := shown
  exact Bool.false_ne_true (unsupported.symm.trans supported)

end Registry

end AppLifecycle
