import AppLifecycle.Proofs.Config.Catalog
import AppLifecycle.Proofs.Registry.CloseTimer
import AppLifecycle.Proofs.Registry.Dismissal
import AppLifecycle.Proofs.Scene.Exemption

/-!
# Exemptions

A policy lists applications that take no part in the lifecycle, by id or by package. The list is
kept as it is written, while the ids that are looked up in it are short: a long id in the list is
never found. So an application that is listed is spared the lifecycle, unless it is listed by its
long id alone (`LifecyclePolicy.Heeds`); then it is subject to it like any other.
-/

namespace AppLifecycle

namespace LifecyclePolicy

variable {p : LifecyclePolicy} {id : AppId} {x : String}

/-- The application that is listed as `x` can be found in the list: `x` is no long id, or the short
id or the package is listed as well. -/
def Heeds (p : LifecyclePolicy) (x : String) : Prop :=
  ¬ (AppId.mk x).IsLong ∨ (AppId.mk x).normalized.text ∈ p.exemptions ∨
    (AppId.mk x).package ∈ p.exemptions

lemma isExempt_iff : p.isExempt id = true ↔ id.text ∈ p.exemptions ∨ id.package ∈ p.exemptions := by
  unfold isExempt
  simp only [List.any_eq_true, Bool.or_eq_true, decide_eq_true_eq]
  constructor
  · rintro ⟨e, he, rfl | rfl⟩
    · exact .inl he
    · exact .inr he
  · rintro (he | he)
    · exact ⟨_, he, .inl rfl⟩
    · exact ⟨_, he, .inr rfl⟩

lemma isExempt_normalized_iff (hx : x ∈ p.exemptions) :
    p.isExempt (AppId.mk x).normalized = true ↔ p.Heeds x := by
  rw [isExempt_iff, AppId.package_normalized]
  constructor
  · exact .inr
  · rintro (short | found)
    · -- an id that is not long is looked up as it is written
      rw [(AppId.normalized_eq_self_iff _).mpr short]
      exact .inl hx
    · exact found

end LifecyclePolicy

namespace Registry

variable {host : Host} {op : Operation} {reg reg' : Registry} {front back : List Record}
variable {r q : Record} {s : Scene} {f : Scene → Scene} {id : AppId}
variable {lifecycle : LifecyclePolicy} {authorization : AuthorizationPolicy}
variable {run : List (Host × Operation)}

/-- The application takes no part in the lifecycle: it does not keep the device awake, and whoever
asks for it to be suspended is told yes, and nothing happens. -/
def Spares (reg : Registry) (id : AppId) : Prop :=
  ∀ r, reg.find id = some r → r.owner ∉ reg.wakelock.owners ∧
    ∀ host, reg.suspendApplication host id = (true, reg)

/-- The application takes part in the lifecycle: it keeps the device awake in the states that ask
for it, and if it is asked for, it is to be suspended from then on. -/
def Subjects (reg : Registry) (id : AppId) : Prop :=
  ∀ r, reg.find id = some r → (r.owner ∈ reg.wakelock.owners ↔ r.state.holdsWakelock = true) ∧
    ∀ host, (reg.suspendApplication host id).1 = true ∧
      ∃ q, (reg.suspendApplication host id).2.find id = some q ∧ q.requested = .suspended

/-- No shell exempts the application, or subjects it to the lifecycle. -/
def Unforced (id : AppId) (op : Operation) : Prop :=
  ∀ given exempt, op = .setExempt given exempt → given.normalized ≠ id

/-! ## Who is exempt -/

lemma Treatment.exempt (h : Treatment host reg op r f) (unforced : Unforced r.id op) (s : Scene) :
    (f s).record.exempt = s.record.exempt := by
  cases h with
  | setExempt exempt hid => exact absurd hid.symm (unforced _ _ rfl)
  | close _ => exact Scene.close_exempt host s
  | suspend _ _ => exact Scene.request_exempt host _ s
  | resume _ _ => exact Scene.request_exempt host _ s
  | resumeRequested _ _ => exact Scene.request_exempt host _ s
  | setStage stage _ => exact Scene.setStage_exempt stage s
  | updateScreenshot _ => rfl
  | tick now => exact Scene.tick_exempt host now s
  | started _ _ => exact Scene.onProcess_exempt host _ s
  | failed _ _ => exact Scene.onProcess_exempt host _ s
  | ended _ _ => exact Scene.onProcess_exempt host _ s
  | suspended _ => exact Scene.onProcess_exempt host _ s
  | attach session _ _ _ _ => exact Scene.attach_exempt session s
  | reported _ state _ _ _ _ => exact Scene.hear_exempt host state s

/-- The records of an application are exempt as the policy has it. -/
lemma Step.exempt (step : Step host op reg reg') (faithful : host.Faithful)
    (unforced : Unforced id op) (same : reg.lifecycle = lifecycle)
    (h : ∀ r ∈ reg.entries, r.id = id → r.exempt = lifecycle.isExempt id) :
    ∀ r ∈ reg'.entries, r.id = id → r.exempt = lifecycle.isExempt id := by
  cases step with
  | note helpers effects => exact h
  | announce _ => exact h
  | @treat _ _ _ _ r f place treatment =>
    intro q hq hid
    obtain hq | ⟨rfl, -⟩ := mem_settle hq
    · exact h q (place.mem_of_mem_append hq) hid
    · have own : r.id = id := (treatment.moves (reg.scene r)).sameIdentity.id.symm.trans hid
      rw [treatment.exempt (own ▸ unforced)]
      exact h r place.mem own
  | evict place _ => exact fun q hq hid => h q (place.mem_of_mem_append hq) hid
  | @track _ _ given descriptor f arguments known _ _ introduction =>
    intro q hq hid
    obtain rfl | hq := List.mem_cons.mp hq
    · -- a new record is exempt as the policy says of the id that its descriptor was found under
      obtain ⟨pid, stage, new⟩ := introduction.newcomer host reg descriptor arguments
        (reg.lifecycle.isExempt given)
      rw [new] at hid ⊢
      obtain rfl : given = id := (faithful _ _ known).symm.trans hid
      rw [← same]
      rfl
    · exact h q hq hid
  | @authorize _ _ _ r pid entries _ =>
    intro q hq hid
    obtain rfl | hq := mem_middle_iff.mp hq
    · refine h r ?_ hid
      rw [entries]
      exact mem_middle_iff.mpr (.inl rfl)
    · exact h q (mem_of_mem_append entries hq) hid
  | raise place _ =>
    intro q hq hid
    exact h q ((raise_perm place.entries).mem_iff.mp hq) hid
  | focus _ _ _ => exact forall_passFocus (fun _ _ exempt => exempt) _ h

lemma after_exempt (faithful : ∀ y ∈ run, y.1.Faithful) (unforced : ∀ y ∈ run, Unforced id y.2) :
    ∀ r ∈ (after lifecycle authorization run).entries, r.id = id →
      r.exempt = lifecycle.isExempt id := by
  induction run using List.reverseRecOn with
  | nil => exact fun _ none => absurd none List.not_mem_nil
  | append_singleton run y ih =>
    have before := ih (fun y hy => faithful y (List.mem_append_left _ hy))
      fun y hy => unforced y (List.mem_append_left _ hy)
    have last : y ∈ run ++ [y] := List.mem_append_right _ List.mem_cons_self
    rw [after_concat]
    -- the policy is the same all along, so that both are kept together
    refine (Steps.invariant (I := fun seen => seen.lifecycle = lifecycle ∧
      ∀ r ∈ seen.entries, r.id = id → r.exempt = lifecycle.isExempt id) ?_
      (perform_steps y.1 y.2 _) ⟨after_lifecycle run, before⟩).2
    rintro seen seen' step ⟨same, exempt⟩
    exact ⟨step.lifecycle_eq.trans same, step.exempt (faithful y last) (unforced y last) same exempt⟩

/-! ## What becomes of a request -/

lemma suspendApplication_exempt (host : Host) (found : reg.find id = some r)
    (exempt : reg.lifecycle.isExempt id.normalized = true) :
    reg.suspendApplication host id = (true, reg) := by
  obtain ⟨front, back, place, hid⟩ := exists_located_of_find found
  unfold suspendApplication requestState
  dsimp only
  rw [← hid, place.indexOf, hid, exempt]
  rfl

lemma suspendApplication_subject (host : Host) (found : reg.find id = some r)
    (tracked : r.state ≠ .stopped) (subject : reg.lifecycle.isExempt id.normalized = false) :
    (reg.suspendApplication host id).1 = true ∧
      ∃ q, (reg.suspendApplication host id).2.find id = some q ∧ q.requested = .suspended := by
  obtain ⟨front, back, place, hid⟩ := exists_located_of_find found
  constructor
  · unfold suspendApplication requestState
    dsimp only
    rw [← hid, place.indexOf, hid, subject]
    rfl
  · have asked : (reg.suspendApplication host id).2 =
        reg.settle front r back ((reg.scene r).request host .suspended) := by
      show (reg.requestState host .suspended id).2 = _
      rw [requestState_snd _ subject, ← hid, onRecord_eq place]
    -- a request to suspend does not end the record, which stays in its place
    have goesOn : ((reg.scene r).request host .suspended).record.state ≠ .stopped := by
      rw [ne_eq, Scene.request_stopped_iff (s := reg.scene r) tracked]
      exact fun no => RequestedState.noConfusion no.1
    have moves : Scene.Moves host (reg.scene r) ((reg.scene r).request host .suspended) :=
      (Scene.Moves.refl _).request _
    have same : ((reg.scene r).request host .suspended).record.id = r.id := moves.sameIdentity.id
    have still : Located (reg.settle front r back ((reg.scene r).request host .suspended))
        front ((reg.scene r).request host .suspended).record back := by
      unfold settle
      rw [if_neg goesOn]
      refine ⟨rfl, ?_⟩
      rw [same]
      exact place.first
    rw [asked]
    exact ⟨_, still.find (same.trans hid), Scene.request_suspended_requested host _⟩

lemma spares_of_exempt {P : Host → Prop} (h : Reachable P reg)
    (exempt : reg.lifecycle.isExempt id.normalized = true)
    (spared : ∀ r ∈ reg.entries, r.id = id.normalized → r.exempt = true) : reg.Spares id := by
  intro r found
  obtain ⟨front, back, place, hid⟩ := exists_located_of_find found
  refine ⟨?_, fun host => suspendApplication_exempt host found exempt⟩
  rw [h.shares.mem_owners_iff place.mem]
  unfold Record.wantsWakelock
  rw [spared r place.mem hid]
  exact Bool.false_ne_true

lemma subjects_of_not_exempt {P : Host → Prop} (h : Reachable P reg)
    (subject : reg.lifecycle.isExempt id.normalized = false)
    (subjected : ∀ r ∈ reg.entries, r.id = id.normalized → r.exempt = false) :
    reg.Subjects id := by
  intro r found
  obtain ⟨front, back, place, hid⟩ := exists_located_of_find found
  refine ⟨?_, fun host =>
    suspendApplication_subject host found (h.running r place.mem) subject⟩
  rw [h.shares.mem_owners_iff place.mem]
  unfold Record.wantsWakelock
  rw [subjected r place.mem hid]
  rfl

/-! ## What it comes to -/

/-- The exemptions of a policy are those of the text that gives it, as they are written. The
application that is tracked for one of them is exempt exactly if the exemption is not a long id, or
its short form or its package is listed as well. If so, it is spared the lifecycle in every run in
which shells leave its exemption alone; otherwise it is subject to it in every such run. -/
theorem exemption_heeded_iff {env : Environment} {text x : String} {p : Policy}
    (accepted : Policy.ofToml env text = .ok p) (listed : x ∈ p.lifecycle.exemptions)
    (faithful : ∀ y ∈ run, y.1.Faithful)
    (unforced : ∀ y ∈ run, Unforced (AppId.mk x).normalized y.2) :
    (∃ raw, RawConfig.ofToml? text = some raw ∧
      p.lifecycle.exemptions = raw.lifecycle.exemptions.getD ["unity8-dash"]) ∧
    (p.lifecycle.isExempt (AppId.mk x).normalized = true ↔ p.lifecycle.Heeds x) ∧
    (p.lifecycle.Heeds x → (after p.lifecycle authorization run).Spares ⟨x⟩) ∧
    (¬ p.lifecycle.Heeds x → (after p.lifecycle authorization run).Subjects ⟨x⟩) := by
  obtain ⟨raw, found, -, -, rfl⟩ := Policy.ofToml_eq_ok.mp accepted
  have heeded := LifecyclePolicy.isExempt_normalized_iff listed
  have reachable := after_reachable (Policy.ofRaw env raw).lifecycle authorization run
  have exempt : ∀ r ∈ (after (Policy.ofRaw env raw).lifecycle authorization run).entries,
      r.id = (AppId.mk x).normalized →
        r.exempt = (Policy.ofRaw env raw).lifecycle.isExempt (AppId.mk x).normalized :=
    after_exempt faithful unforced
  refine ⟨⟨raw, found, rfl⟩, heeded, fun heeds => ?_, fun unheeded => ?_⟩
  · have spared := heeded.mpr heeds
    rw [spared] at exempt
    refine spares_of_exempt reachable ?_ exempt
    rw [after_lifecycle]
    exact spared
  · have subject := Bool.eq_false_iff.mpr (heeded.not.mpr unheeded)
    rw [subject] at exempt
    refine subjects_of_not_exempt reachable ?_ exempt
    rw [after_lifecycle]
    exact subject

/-- The clock is launched by its long id. -/
def clockLaunch : List (Host × Operation) := [(.willing, .start ⟨"desk_clock_1.0"⟩ [])]

/-- A clock that is exempt by its long and its short id. -/
def exemptText : String := "\n".intercalate [
  "config_version = 1",
  "[lifecycle]", "exemptions = [\"desk_clock_1.0\", \"desk_clock\"]",
  "[[applications]]", "id = \"desk_clock_1.0\"", "name = \"Clock\"", "exec = [\"clock\"]"]

/-- The clock is tracked, and is spared the lifecycle. -/
theorem clock_spared : ∃ p, Policy.ofToml [] exemptText = .ok p ∧
    "desk_clock_1.0" ∈ p.lifecycle.exemptions ∧ p.lifecycle.Heeds "desk_clock_1.0" ∧
    (∀ y ∈ clockLaunch, y.1.Faithful) ∧
    (∀ y ∈ clockLaunch, Unforced (AppId.mk "desk_clock_1.0").normalized y.2) ∧
    ((after p.lifecycle p.authorization clockLaunch).find ⟨"desk_clock_1.0"⟩).isSome = true ∧
    (after p.lifecycle p.authorization clockLaunch).Spares ⟨"desk_clock_1.0"⟩ := by
  obtain ⟨p, accepted, seen⟩ := Policy.exists_ok_of_toOption (e := Policy.ofToml [] exemptText)
    (f := fun p => (p.lifecycle.exemptions,
      ((after p.lifecycle p.authorization clockLaunch).find ⟨"desk_clock_1.0"⟩).isSome))
    (b := (["desk_clock_1.0", "desk_clock"], true)) (by decide +kernel)
  obtain ⟨exemptions, tracked⟩ := Prod.mk.inj seen
  have listed : "desk_clock_1.0" ∈ p.lifecycle.exemptions := by
    rw [exemptions]
    exact List.mem_cons_self
  have heeds : p.lifecycle.Heeds "desk_clock_1.0" := by
    refine .inr (.inl ?_)
    rw [exemptions]
    decide
  have faithful : ∀ y ∈ clockLaunch, y.1.Faithful := by
    intro y hy
    rw [List.mem_singleton.mp hy]
    exact Host.willing_faithful
  have unforced : ∀ y ∈ clockLaunch, Unforced (AppId.mk "desk_clock_1.0").normalized y.2 := by
    intro y hy given exempt no
    rw [List.mem_singleton.mp hy] at no
    cases no
  have spared : (after p.lifecycle p.authorization clockLaunch).Spares ⟨"desk_clock_1.0"⟩ :=
    (exemption_heeded_iff accepted listed faithful unforced).2.2.1 heeds
  exact ⟨p, accepted, listed, heeds, faithful, unforced, tracked, spared⟩

/-- A clock that is exempt by its long id only. -/
def longExemptText : String := "\n".intercalate [
  "config_version = 1",
  "[lifecycle]", "exemptions = [\"desk_clock_1.0\"]",
  "[[applications]]", "id = \"desk_clock_1.0\"", "name = \"Clock\"", "exec = [\"clock\"]"]

/-- The exemption is accepted and never found: the clock keeps the device awake, and is to be
suspended once it is asked for. -/
theorem clock_not_spared : ∃ p, Policy.ofToml [] longExemptText = .ok p ∧
    "desk_clock_1.0" ∈ p.lifecycle.exemptions ∧
    p.lifecycle.isExempt (AppId.mk "desk_clock_1.0").normalized = false ∧
    (after p.lifecycle p.authorization clockLaunch).wakelock.owners = [⟨1⟩] ∧
    ((after p.lifecycle p.authorization clockLaunch).suspendApplication .willing
      ⟨"desk_clock_1.0"⟩).2.entries.map (fun r => (r.owner, r.requested)) =
        [(⟨1⟩, .suspended)] := by
  obtain ⟨p, accepted, seen⟩ := Policy.exists_ok_of_toOption
    (e := Policy.ofToml [] longExemptText)
    (f := fun p => (p.lifecycle.exemptions,
      p.lifecycle.isExempt (AppId.mk "desk_clock_1.0").normalized,
      (after p.lifecycle p.authorization clockLaunch).wakelock.owners,
      ((after p.lifecycle p.authorization clockLaunch).suspendApplication .willing
        ⟨"desk_clock_1.0"⟩).2.entries.map fun r => (r.owner, r.requested)))
    (b := (["desk_clock_1.0"], false, [⟨1⟩], [(⟨1⟩, .suspended)])) (by decide +kernel)
  obtain ⟨exemptions, rest⟩ := Prod.mk.inj seen
  obtain ⟨exempt, rest⟩ := Prod.mk.inj rest
  obtain ⟨owners, requests⟩ := Prod.mk.inj rest
  refine ⟨p, accepted, ?_, exempt, owners, requests⟩
  rw [exemptions]
  exact List.mem_cons_self

end Registry

end AppLifecycle
