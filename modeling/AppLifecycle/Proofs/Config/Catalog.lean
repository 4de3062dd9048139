import AppLifecycle.Config.Load
import AppLifecycle.Process.Controller
import AppLifecycle.Proofs.Config.Validation

/-!
# The catalog of a policy

A policy is looked up by short ids. Of several applications with one short id the policy itself
finds the first one, and the controller that is given the applications finds the last one. A valid
configuration has no id twice as it is written, and so the short ids are distinct as well, unless
the same application is there in two versions, or with and without one.
-/

namespace AppLifecycle

/-- An id that is not short: a version stands behind it. -/
def AppId.Versioned (id : AppId) : Prop := id.normalized ≠ id

namespace Policy

variable {env : Environment} {text : String} {p : Policy} {grace : Duration}

/-! ## Accepted texts -/

/-- A text gives a policy exactly if there is a configuration in it that is of the right version and
well-formed. -/
theorem ofToml_eq_ok : ofToml env text = .ok p ↔
    ∃ raw, RawConfig.ofToml? text = some raw ∧ raw.version = RawConfig.currentVersion ∧
      raw.WellFormed ∧ p = .ofRaw env raw := by
  unfold ofToml
  split
  · rename_i none
    simp [none]
  · rename_i raw found
    rw [found]
    unfold RawConfig.check
    by_cases version : raw.version = RawConfig.currentVersion
    · by_cases wellFormed : raw.WellFormed
      · have faultless := RawConfig.faults_eq_nil.mpr wellFormed
        simp [version, wellFormed, faultless, Except.map, eq_comm]
      · have faulty : raw.faults ≠ [] := fun none => wellFormed (RawConfig.faults_eq_nil.mp none)
        simp [version, wellFormed, faulty, Except.map]
    · simp [version, Except.map]

/-! ## Lookups -/

/-- The applications with an id, in the order of the configuration. -/
def namesakes (p : Policy) (id : AppId) : List Descriptor :=
  p.applications.filter (·.id = id)

/-- What the controller knows that is given the applications of a policy. -/
def catalog (p : Policy) (grace : Duration) : AppId → Option Descriptor :=
  (Controller.start p.applications grace).find

lemma getApplication_eq_head? (p : Policy) (id : AppId) :
    p.getApplication id = (p.namesakes id).head? := List.head?_filter.symm

lemma catalog_eq_getLast? (p : Policy) (grace : Duration) (id : AppId) :
    p.catalog grace id = (p.namesakes id).getLast? := List.getLast?_filter.symm

/-- Where the ids are distinct, an application has no namesakes. -/
lemma head?_eq_getLast?_of_nodup (distinct : (p.applications.map Descriptor.id).Nodup)
    (id : AppId) : (p.namesakes id).head? = (p.namesakes id).getLast? := by
  have known : ∀ d ∈ p.namesakes id, d ∈ p.applications ∧ d.id = id := fun d hd =>
    (List.mem_filter.mp hd).imp_right of_decide_eq_true
  cases hsame : p.namesakes id with
  | nil => rfl
  | cons d rest =>
    have first := known d (by rw [hsame]; exact List.mem_cons_self)
    have last := known ((d :: rest).getLast (List.cons_ne_nil d rest))
      (by rw [hsame]; exact List.getLast_mem _)
    rw [List.head?_cons, List.getLast?_eq_some_getLast (List.cons_ne_nil d rest)]
    exact congrArg some
      (List.inj_on_of_nodup_map distinct first.1 last.1 (first.2.trans last.2.symm))

/-! ## Distinct ids -/

/-- Ids that are written differently are different when they are short, unless one of them is
versioned. -/
lemma nodup_ids_iff {raw : RawConfig} (h : raw.WellFormed) :
    ((ofRaw env raw).applications.map Descriptor.id).Nodup ↔
      ∀ a ∈ raw.applications, ∀ b ∈ raw.applications, (AppId.mk a.id).Versioned →
        (AppId.mk b.id).normalized = (AppId.mk a.id).normalized → b = a := by
  have ids : (ofRaw env raw).applications.map Descriptor.id =
      raw.applications.map fun a => (AppId.mk a.id).normalized := List.map_map
  rw [ids]
  constructor
  · intro distinct a ha b hb _ same
    exact List.inj_on_of_nodup_map distinct hb ha same
  · intro free
    refine List.Nodup.map_on (fun b hb a ha same => ?_) (List.Nodup.of_map _ h.ids)
    by_cases long : (AppId.mk a.id).Versioned
    · exact free a ha b hb long same
    · by_cases long' : (AppId.mk b.id).Versioned
      · exact (free b hb a ha long' same.symm).symm
      · -- both are short as they are written, and one of them would be written twice
        have written : AppId.mk b.id = AppId.mk a.id :=
          (not_not.mp long').symm.trans (same.trans (not_not.mp long))
        exact List.inj_on_of_nodup_map h.ids hb ha (AppId.mk.inj written)

/-- The ids of a policy are distinct exactly if no application of the configuration that has a
version has the short id of another one, and then the policy and the controller find the same for
every id. In any case one finds the first and the other the last application with an id. -/
theorem ids_distinct_iff (accepted : ofToml env text = .ok p) (grace : Duration) :
    (∃ raw, RawConfig.ofToml? text = some raw ∧ p = .ofRaw env raw ∧
      ((p.applications.map Descriptor.id).Nodup ↔
        ∀ a ∈ raw.applications, ∀ b ∈ raw.applications, (AppId.mk a.id).Versioned →
          (AppId.mk b.id).normalized = (AppId.mk a.id).normalized → b = a)) ∧
    (∀ id, p.getApplication id = (p.namesakes id).head? ∧
      p.catalog grace id = (p.namesakes id).getLast?) ∧
    ((p.applications.map Descriptor.id).Nodup →
      ∀ id, p.getApplication id = p.catalog grace id) := by
  obtain ⟨raw, found, -, wellFormed, rfl⟩ := ofToml_eq_ok.mp accepted
  refine ⟨⟨raw, found, rfl, nodup_ids_iff wellFormed⟩, fun id => ?_, fun distinct id => ?_⟩
  · exact ⟨getApplication_eq_head? _ id, catalog_eq_getLast? _ grace id⟩
  · rw [getApplication_eq_head?, catalog_eq_getLast?]
    exact head?_eq_getLast?_of_nodup distinct id

/-- What is seen of the value of a computation, if it has one. -/
lemma exists_ok_of_toOption {ε α β : Type} {e : Except ε α} {f : α → β} {b : β}
    (h : e.toOption.map f = some b) : ∃ a, e = .ok a ∧ f a = b := by
  cases e with
  | error _ => cases h
  | ok a => exact ⟨a, rfl, Option.some.inj h⟩

/-- A clock with a version, and notes. -/
def deskText : String := "\n".intercalate [
  "config_version = 1",
  "[[applications]]", "id = \"desk_clock_1.0\"", "name = \"Clock\"", "exec = [\"clock\"]",
  "[[applications]]", "id = \"notes\"", "name = \"Notes\"", "exec = [\"notes\"]"]

theorem ids_distinct_on_desk : ∃ p, ofToml [] deskText = .ok p ∧
    p.applications.map Descriptor.id = [⟨"desk_clock"⟩, ⟨"notes"⟩] ∧
    (p.catalog .zero ⟨"desk_clock"⟩).isSome = true ∧
    ∀ id, p.getApplication id = p.catalog .zero id := by
  obtain ⟨p, accepted, seen⟩ := exists_ok_of_toOption (e := ofToml [] deskText)
    (f := fun p => (p.applications.map Descriptor.id, (p.catalog .zero ⟨"desk_clock"⟩).isSome))
    (b := ([⟨"desk_clock"⟩, ⟨"notes"⟩], true)) (by decide +kernel)
  obtain ⟨ids, known⟩ := Prod.mk.inj seen
  obtain ⟨-, -, found⟩ := ids_distinct_iff accepted .zero
  exact ⟨p, accepted, ids, known, found (by rw [ids]; decide)⟩

/-- Two versions of a clock. -/
def versionsText : String := "\n".intercalate [
  "config_version = 1",
  "[[applications]]", "id = \"desk_clock_1.0\"", "name = \"Old clock\"",
  "exec = [\"old-clock\"]",
  "[[applications]]", "id = \"desk_clock_2.0\"", "name = \"New clock\"",
  "exec = [\"new-clock\"]"]

/-- Both versions are accepted and have one id in the policy, which finds the one, while the
controller launches the other. -/
theorem versions_found_apart : ∃ p, ofToml [] versionsText = .ok p ∧
    ¬(p.applications.map Descriptor.id).Nodup ∧
    (p.getApplication ⟨"desk_clock"⟩).map Descriptor.exec = some ["old-clock"] ∧
    (p.catalog .zero ⟨"desk_clock"⟩).map Descriptor.exec = some ["new-clock"] := by
  obtain ⟨p, accepted, seen⟩ := exists_ok_of_toOption (e := ofToml [] versionsText)
    (f := fun p => (p.applications.map Descriptor.id,
      (p.getApplication ⟨"desk_clock"⟩).map Descriptor.exec,
      (p.catalog .zero ⟨"desk_clock"⟩).map Descriptor.exec))
    (b := ([⟨"desk_clock"⟩, ⟨"desk_clock"⟩], some ["old-clock"], some ["new-clock"]))
    (by decide +kernel)
  obtain ⟨ids, lookups⟩ := Prod.mk.inj seen
  obtain ⟨first, last⟩ := Prod.mk.inj lookups
  exact ⟨p, accepted, by rw [ids]; decide, first, last⟩

end Policy

end AppLifecycle
