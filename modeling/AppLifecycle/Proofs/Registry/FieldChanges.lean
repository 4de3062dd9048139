import AppLifecycle.Proofs.Registry.Orderly
import Mathlib.Data.List.Count

/-!
# Announced changes of fields

An observer who reads the fields of an application anew whenever a change of one is announced is
never behind, and never reads in vain: an operation announces a change of a field exactly once if
the record has another value there afterwards, and not at all otherwise. What an operation does on
the way does not matter, only what it comes to.
-/

namespace AppLifecycle

/-- What observers see in a field. -/
inductive FieldValue where
  | state (state : PublicState)
  | requested (state : RequestedState)
  | flag (set : Bool)
  | stage (stage : Stage)
  | generation (number : Nat)
deriving DecidableEq

namespace Record

variable {r q : Record}

def value (r : Record) : ModelField → FieldValue
  | .state => .state r.view.state
  | .requestedState => .requested r.view.requested
  | .focused => .flag r.view.focused
  | .stage => .stage r.view.stage
  | .screenshot => .generation r.view.screenshot
  | .exemptFromLifecycle => .flag r.view.exempt

/-- The fields that are compared are all but the focus, which is announced where it moves. -/
lemma count_changedFields (focused : q.focused = r.focused) (field : ModelField) :
    (Registry.changedFields r q).count field = if r.value field = q.value field then 0 else 1 := by
  have one : ∀ (p : Prop) [Decidable p] (other : ModelField),
      (if ¬p then [other] else []).count field = if other = field ∧ ¬p then 1 else 0 := by
    intro p _ other
    by_cases hp : p <;> by_cases hother : other = field <;> simp [hp, hother]
  unfold Registry.changedFields
  simp only [List.count_append, one, ne_eq]
  cases field <;> simp [value, view, focused]

end Record

namespace Registry

variable {host : Host} {op : Operation} {reg reg' reg'' : Registry} {front back : List Record}
variable {r q : Record} {s : Scene} {id : AppId}

/-! ## What is told of an application -/

/-- An id with what observers see in its fields. -/
def sheet (r : Record) : AppId × (ModelField → FieldValue) := (r.id, r.value)

/-- The changes of the fields of an application are announced, each of them once. -/
def Tells (id : AppId) (reg reg' : Registry) : Prop :=
  ∃ new, reg'.events = reg.events ++ new ∧
    ∀ r ∈ reg.entries, r.id = id → ∀ q ∈ reg'.entries, q.id = id → ∀ field,
      new.count (.fieldChanged id field) = if r.value field = q.value field then 0 else 1

/-- Nothing is announced of the fields of an application, and they are as they were. -/
def Silent (id : AppId) (reg reg' : Registry) : Prop :=
  ∃ new, reg'.events = reg.events ++ new ∧ (∀ field, .fieldChanged id field ∉ new) ∧
    ∀ value, (id, value) ∈ reg'.entries.map sheet ↔ (id, value) ∈ reg.entries.map sheet

lemma Tells.grows (h : Tells id reg reg') : reg.events <+: reg'.events := by
  obtain ⟨new, events, -⟩ := h
  exact ⟨new, events.symm⟩

/-- An application without a record before has nothing to be told of. -/
lemma Tells.of_untracked (untracked : ∀ r ∈ reg.entries, r.id ≠ id)
    (events : reg.events <+: reg'.events) : Tells id reg reg' := by
  obtain ⟨new, events⟩ := events
  exact ⟨new, events.symm, fun r hr hid => absurd hid (untracked r hr)⟩

/-- Nor has one without a record afterwards. -/
lemma Tells.of_gone (gone : ∀ q ∈ reg'.entries, q.id ≠ id) (events : reg.events <+: reg'.events) :
    Tells id reg reg' := by
  obtain ⟨new, events⟩ := events
  exact ⟨new, events.symm, fun _ _ _ q hq hid => absurd hid (gone q hq)⟩

lemma Silent.trans (h : Silent id reg reg') (h' : Silent id reg' reg'') : Silent id reg reg'' := by
  obtain ⟨new, events, quiet, same⟩ := h
  obtain ⟨new', events', quiet', same'⟩ := h'
  refine ⟨new ++ new', ?_, fun field hfield => ?_, fun value => (same' value).trans (same value)⟩
  · rw [events', events, List.append_assoc]
  · exact (List.mem_append.mp hfield).elim (quiet field) (quiet' field)

lemma Silent.tells (h : Silent id reg reg') (tells : Tells id reg' reg'') :
    Tells id reg reg'' := by
  obtain ⟨new, events, quiet, same⟩ := h
  obtain ⟨new', events', told⟩ := tells
  refine ⟨new ++ new', ?_, fun r hr hid q hq hq' field => ?_⟩
  · rw [events', events, List.append_assoc]
  have hmem : (id, r.value) ∈ reg'.entries.map sheet :=
    (same _).mpr (List.mem_map.mpr ⟨r, hr, by rw [← hid]; rfl⟩)
  -- in between there is a record with the same id that is seen in the same way
  obtain ⟨r', hr', same'⟩ := List.mem_map.mp hmem
  obtain ⟨hid', hvalue⟩ := Prod.mk.inj same'
  rw [List.count_append, List.count_eq_zero.mpr (quiet field), Nat.zero_add, ← hvalue]
  exact told r' hr' hid' q hq hq' field

lemma Tells.silent (h : Tells id reg reg') (silent : Silent id reg' reg'') :
    Tells id reg reg'' := by
  obtain ⟨new, events, told⟩ := h
  obtain ⟨new', events', quiet, same⟩ := silent
  refine ⟨new ++ new', ?_, fun r hr hid q hq hq' field => ?_⟩
  · rw [events', events, List.append_assoc]
  have hmem : (id, q.value) ∈ reg'.entries.map sheet :=
    (same _).mp (List.mem_map.mpr ⟨q, hq, by rw [← hq']; rfl⟩)
  obtain ⟨q', hmem', same'⟩ := List.mem_map.mp hmem
  obtain ⟨hid', hvalue⟩ := Prod.mk.inj same'
  rw [List.count_append, List.count_eq_zero.mpr (quiet field), Nat.add_zero, ← hvalue]
  exact told r hr hid q' hmem' hid' field

/-- The order of the records does not matter, nor do fields that observers do not see. -/
lemma Silent.of_perm {new : List RegistryEvent} (events : reg'.events = reg.events ++ new)
    (quiet : ∀ field, .fieldChanged id field ∉ new)
    (perm : (reg'.entries.map sheet).Perm (reg.entries.map sheet)) : Silent id reg reg' :=
  ⟨new, events, quiet, fun _ => perm.mem_iff⟩

lemma Silent.refl (id : AppId) (reg : Registry) : Silent id reg reg :=
  .of_perm (List.append_nil _).symm (fun _ => List.not_mem_nil) (.refl _)

lemma silent_emit {new : List RegistryEvent} (quiet : ∀ field, .fieldChanged id field ∉ new) :
    Silent id reg (reg.emit new) :=
  .of_perm rfl quiet (.refl _)

/-- Where there is one record for an application, to be silent is to tell all there is. -/
lemma Silent.toTells (h : Silent id reg reg') (distinct : (reg.entries.map Record.id).Nodup) :
    Tells id reg reg' := by
  have still : Tells id reg reg := by
    refine ⟨[], (List.append_nil _).symm, fun r hr hid q hq hq' field => ?_⟩
    have one : q = r := List.inj_on_of_nodup_map distinct hq hr (hq'.trans hid.symm)
    rw [one, if_pos rfl]
    rfl
  exact still.silent h

/-! ## Changes at one place -/

/-- Records at other places do not matter for an application. -/
lemma mem_sheets_iff (other : r.id ≠ id) {value : ModelField → FieldValue} :
    (id, value) ∈ (front ++ r :: back).map sheet ↔ (id, value) ∈ (front ++ back).map sheet := by
  have differs : (id, value) ≠ sheet r := fun same => other (Prod.mk.inj same).1.symm
  rw [(List.perm_middle.map sheet).mem_iff, List.map_cons, List.mem_cons]
  exact or_iff_right differs

/-- Of another application, nothing is told where one record changes. -/
lemma silent_at {changed : List ModelField} (entries : reg.entries = front ++ r :: back)
    (entries' : reg'.entries = front ++ q :: back)
    (events : reg'.events = reg.events ++ changed.map (.fieldChanged r.id)) (same : q.id = r.id)
    (other : r.id ≠ id) : Silent id reg reg' := by
  refine ⟨_, events, fun field hfield => ?_, fun value => ?_⟩
  · obtain ⟨_, _, told⟩ := List.mem_map.mp hfield
    exact other (RegistryEvent.fieldChanged.inj told).1
  · rw [entries, entries', mem_sheets_iff other]
    exact mem_sheets_iff (same.trans_ne other)

/-- Where one record changes, as much is told as was found to have changed. -/
lemma tells_at {changed : List ModelField} (distinct : (reg.entries.map Record.id).Nodup)
    (entries : reg.entries = front ++ r :: back) (entries' : reg'.entries = front ++ q :: back)
    (events : reg'.events = reg.events ++ changed.map (.fieldChanged r.id)) (same : q.id = r.id)
    (counts : ∀ field, changed.count field = if r.value field = q.value field then 0 else 1) :
    Tells id reg reg' := by
  by_cases hid : r.id = id
  · subst hid
    rw [entries] at distinct
    have others := (nodup_map_split distinct).2
    -- the record is the only one with its id, before and after
    have only : ∀ {p c : Record}, p ∈ front ++ c :: back → p.id = r.id → p = c := by
      intro p c hp hid
      obtain rfl | hp := mem_middle_iff.mp hp
      · rfl
      · exact absurd hid (others p hp)
    refine ⟨_, events, fun p hp hid c hc hid' field => ?_⟩
    rw [entries] at hp
    rw [entries'] at hc
    have injective : Function.Injective (RegistryEvent.fieldChanged r.id) :=
      fun _ _ told => (RegistryEvent.fieldChanged.inj told).2
    rw [List.count_map_of_injective _ _ injective, only hp hid, only hc hid']
    exact counts field
  · exact (silent_at entries entries' events same hid).toTells distinct

lemma silent_place (entries : reg.entries = front ++ r :: back) (same : s.record.id = r.id)
    (other : r.id ≠ id) : Silent id reg (reg.place front r back s) :=
  silent_at entries rfl rfl same other

lemma silent_evict (entries : reg.entries = front ++ r :: back) (other : r.id ≠ id) :
    Silent id reg (reg.evict front r back) := by
  refine ⟨_, rfl, fun field hfield => ?_, fun value => ?_⟩
  · split at hfield <;> simp at hfield
  · rw [entries, mem_sheets_iff other]
    rfl

lemma silent_settle (entries : reg.entries = front ++ r :: back) (same : s.record.id = r.id)
    (other : r.id ≠ id) : Silent id reg (reg.settle front r back s) := by
  have placed := silent_place entries same other
  unfold settle
  split
  · exact placed.trans (silent_evict rfl (same.trans_ne other))
  · exact placed

lemma settle_grows (reg : Registry) (front : List Record) (r : Record) (back : List Record)
    (s : Scene) : reg.events <+: (reg.settle front r back s).events := by
  have placed : reg.events <+: (reg.place front r back s).events := List.prefix_append _ _
  unfold settle
  split
  · exact placed.trans (List.prefix_append _ _)
  · exact placed

lemma gone_evict (distinct : (reg.entries.map Record.id).Nodup)
    (entries : reg.entries = front ++ r :: back) :
    ∀ q ∈ (reg.evict front r back).entries, q.id ≠ r.id := by
  rw [entries] at distinct
  exact (nodup_map_split distinct).2

lemma tells_settle (orderly : Orderly reg) (entries : reg.entries = front ++ r :: back)
    (same : Record.SameIdentity r s.record) : Tells id reg (reg.settle front r back s) := by
  have placed : Tells id reg (reg.place front r back s) :=
    tells_at orderly.distinct entries rfl rfl same.id (Record.count_changedFields same.focused)
  have whole := settle_grows reg front r back s
  unfold settle at whole ⊢
  split
  · rename_i stopped
    rw [if_pos stopped] at whole
    by_cases hid : s.record.id = id
    · -- the record has stopped, and there is no other one with its id
      have gone := gone_evict (orderly.place entries same).distinct rfl
      rw [hid] at gone
      exact .of_gone gone whole
    · exact placed.silent (silent_evict rfl hid)
  · exact placed

lemma silent_welcome (other : s.record.id ≠ id) : Silent id reg (reg.welcome s) := by
  refine ⟨_, rfl, fun field hfield => by simp at hfield, fun value => ?_⟩
  show (id, value) ∈ ([] ++ s.record :: reg.entries).map sheet ↔ _
  exact mem_sheets_iff other

/-- A new record is for an application that had none. -/
lemma tells_welcome (orderly : Orderly reg) (untracked : ∀ r ∈ reg.entries, r.id ≠ s.record.id) :
    Tells id reg (reg.welcome s) := by
  by_cases hid : s.record.id = id
  · rw [hid] at untracked
    exact .of_untracked untracked (List.prefix_append _ _)
  · exact (silent_welcome hid).toTells orderly.distinct

/-! ## The focus -/

lemma silent_raise (entries : reg.entries = front ++ r :: back) :
    Silent id reg (reg.raise front r back) := by
  cases front with
  | nil =>
    rw [raise_nil]
    exact .refl id reg
  | cons q front =>
    rw [raise_cons]
    have perm := raise_perm entries
    rw [raise_cons] at perm
    exact .of_perm rfl (fun field hfield => by simp at hfield) (perm.map sheet)

lemma count_flag (r : Record) (focused : Bool) (field : ModelField) :
    (if r.focused ≠ focused then [ModelField.focused] else []).count field =
      if r.value field = ({ r with focused } : Record).value field then 0 else 1 := by
  by_cases h : r.focused = focused <;> cases field <;> simp [h, Record.value, Record.view]

lemma setFocused_changed (place : Located reg front r back) (focused : Bool) :
    (reg.setFocused r.id focused).events = reg.events ++
      (if r.focused ≠ focused then [ModelField.focused] else []).map (.fieldChanged r.id) := by
  rw [setFocused_eq place]
  show reg.events ++ _ = _
  split <;> rfl

lemma silent_setFocused {given : AppId} (other : given ≠ id) (focused : Bool) :
    Silent id reg (reg.setFocused given focused) := by
  cases hindex : reg.indexOf given with
  | none =>
    rw [setFocused_eq_self hindex]
    exact .refl id reg
  | some index =>
    obtain ⟨front, r, back, place, rfl, -⟩ := exists_located hindex
    have entries : (reg.setFocused r.id focused).entries = front ++ { r with focused } :: back := by
      rw [setFocused_eq place]
      rfl
    exact silent_at place.entries entries (setFocused_changed place focused) rfl other

lemma tells_setFocused {given : AppId} (distinct : (reg.entries.map Record.id).Nodup)
    (focused : Bool) : Tells id reg (reg.setFocused given focused) := by
  cases hindex : reg.indexOf given with
  | none =>
    rw [setFocused_eq_self hindex]
    exact (Silent.refl id reg).toTells distinct
  | some index =>
    obtain ⟨front, r, back, place, rfl, -⟩ := exists_located hindex
    have entries : (reg.setFocused r.id focused).entries = front ++ { r with focused } :: back := by
      rw [setFocused_eq place]
      rfl
    exact tells_at distinct place.entries entries (setFocused_changed place focused) rfl
      (count_flag r focused)

/-- One record loses the focus and another one gets it, so that no flag changes twice. -/
lemma tells_passFocus {given : AppId} (distinct : (reg.entries.map Record.id).Nodup)
    (elsewhere : reg.focused ≠ some given) : Tells id reg (reg.passFocus given) := by
  have distinct' : (reg.clearFocus.entries.map Record.id).Nodup := by
    rw [map_clearFocus fun _ _ => rfl]
    exact distinct
  have announced : ∀ reg : Registry, Silent id reg
      (({ reg with focused := some given } : Registry).emit [.focusChanged (some given)]) :=
    fun reg => .of_perm rfl (fun field hfield => by simp at hfield) (.refl _)
  refine Tells.silent ?_ (announced _)
  cases hfocused : reg.focused with
  | none =>
    have cleared : reg.clearFocus = reg := by
      unfold clearFocus
      rw [hfocused]
    rw [cleared]
    exact tells_setFocused distinct true
  | some old =>
    have cleared : reg.clearFocus =
        ({ reg with focused := none } : Registry).setFocused old false := by
      unfold clearFocus
      rw [hfocused]
    rw [cleared] at distinct' ⊢
    by_cases hid : given = id
    · have other : old ≠ id := fun same => elsewhere (by rw [hfocused, same, hid])
      have lost : Silent id reg (({ reg with focused := none } : Registry).setFocused old false) :=
        silent_setFocused other false
      exact lost.tells (tells_setFocused distinct' true)
    · have apart : (({ reg with focused := none } : Registry).entries.map Record.id).Nodup :=
        distinct
      exact (tells_setFocused apart false).silent (silent_setFocused hid true)

/-! ## A tick -/

/-- What a look at the timer of one record comes to. -/
lemma look_tells (host : Host) (orderly : Orderly reg) (id : AppId) (now : Instant)
    (given : AppId) :
    Orderly (reg.withRecord given (Scene.tick host now)).2 ∧
      Tells id reg (reg.withRecord given (Scene.tick host now)).2 ∧
      (given ≠ id → Silent id reg (reg.withRecord given (Scene.tick host now)).2) := by
  cases hindex : reg.indexOf given with
  | none =>
    rw [withRecord_eq_none hindex]
    have still := Silent.refl id reg
    exact ⟨orderly, still.toTells orderly.distinct, fun _ => still⟩
  | some index =>
    obtain ⟨front, r, back, place, rfl, -⟩ := exists_located hindex
    rw [withRecord_eq place]
    have same := Scene.tick_sameIdentity host now (reg.scene r)
    exact ⟨orderly.settle place.entries same, tells_settle orderly place.entries same,
      silent_settle place.entries same.id⟩

/-- The timers of records with distinct ids are looked at in turn. -/
lemma looks_tell (now : Instant) {ids : List AppId} (nodup : ids.Nodup) (orderly : Orderly reg) :
    Tells id reg (ids.foldl (fun reg id => (reg.withRecord id (Scene.tick host now)).2) reg) ∧
      (id ∉ ids → Silent id reg
        (ids.foldl (fun reg id => (reg.withRecord id (Scene.tick host now)).2) reg)) := by
  -- what is told of one record is left alone by the looks at the others
  induction ids generalizing reg with
  | nil =>
    have still := Silent.refl id reg
    exact ⟨still.toTells orderly.distinct, fun _ => still⟩
  | cons given ids ih =>
    obtain ⟨fresh, nodup⟩ := List.nodup_cons.mp nodup
    obtain ⟨orderly', tells, silent⟩ := look_tells host orderly id now given
    obtain ⟨later, quiet⟩ := ih nodup orderly'
    refine ⟨?_, fun absent => ?_⟩
    · by_cases hid : given = id
      · rw [hid] at fresh
        exact tells.silent (quiet fresh)
      · exact (silent hid).tells later
    · obtain ⟨hid, absent⟩ := List.ne_and_not_mem_of_not_mem_cons absent
      exact (silent (Ne.symm hid)).trans (quiet absent)

lemma tells_tick (orderly : Orderly reg) (now : Instant) : Tells id reg (reg.tick host now) := by
  have nodup : ((reg.entries.filter (·.timer.isArmed)).map Record.id).Nodup :=
    orderly.distinct.sublist (List.filter_sublist.map Record.id)
  exact (looks_tell now nodup orderly).1

/-! ## Operations -/

/-- The process of a record is nothing that observers are told of. -/
lemma Binding.tells {pid : Nat} (faithful : host.Faithful) (orderly : Orderly reg)
    (binding : Binding host reg pid q reg') : Tells id reg reg' := by
  have unseen : ∀ {front back : List Record} {r : Record}, reg.entries = front ++ r :: back →
      Tells id reg { reg with entries := front ++ { r with pid } :: back } := by
    intro front back r entries
    have silent : Silent id reg { reg with entries := front ++ { r with pid } :: back } := by
      refine .of_perm (List.append_nil _).symm (fun _ => List.not_mem_nil) (.of_eq ?_)
      rw [entries, List.map_append, List.map_append]
      rfl
    exact silent.toTells orderly.distinct
  cases binding with
  | confirmed entries _ _ => exact unseen entries
  | hinted place _ _ => exact unseen place.entries
  | created arguments side _ untracked known =>
    refine tells_welcome orderly ?_
    rw [((Introduction.identified pid side).sameIdentity host reg _ arguments _).id]
    show ∀ r ∈ reg.entries, r.id ≠ Descriptor.id _
    rw [faithful _ _ known]
    exact indexOf_eq_none.mp untracked

lemma Course.tells (faithful : host.Faithful) (orderly : Orderly reg)
    (course : Course host op reg reg') : Tells id reg reg' := by
  have launched : ∀ (reg : Registry) descriptor arguments exempt,
      (reg.newcomer host descriptor arguments exempt fun s => s).record.id = descriptor.id := by
    intro reg descriptor arguments exempt
    rw [newcomer_launched]
    rfl
  have requested : ∀ (reg : Registry) (given : AppId),
      Silent id reg (reg.emit [.focusRequested given]) :=
    fun reg given => silent_emit fun field hfield => by simp at hfield
  cases course with
  | idle => exact (Silent.refl id reg).toTells orderly.distinct
  | note note =>
    have same : Silent id reg { reg with helpers := _, journal := _ } := Silent.refl id reg
    exact same.toTells orderly.distinct
  | announce given => exact (requested reg _).toTells orderly.distinct
  | treat place treatment =>
    exact tells_settle orderly place.entries (treatment.moves (reg.scene _)).sameIdentity
  | @relaunch _ front back r given place hid gone =>
    have same := Scene.onProcess_sameIdentity host .running (reg.scene r)
    have orderly' : Orderly (reg.emit [.focusRequested r.id]) :=
      ⟨orderly.distinct, orderly.flagged, orderly.present⟩
    exact (requested reg r.id).tells (tells_settle orderly' place.entries same)
  | @finish _ front back front' back' r q given place hid news left hq =>
    have same := Scene.onProcess_sameIdentity host .stopped (reg.scene r)
    have settled : Tells id reg _ := tells_settle orderly place.entries same
    by_cases hid : q.id = id
    · have gone := gone_evict (orderly.settle place.entries same).distinct left.entries
      rw [hid] at gone
      exact .of_gone gone (settled.grows.trans (List.prefix_append _ _))
    · exact settled.silent (silent_evict left.entries hid)
  | @launch _ given args descriptor untracked known =>
    have called : Orderly (reg.call (.start given.normalized args)) :=
      ⟨orderly.distinct, orderly.flagged, orderly.present⟩
    have fresh : ∀ r ∈ reg.entries, r.id ≠ ((reg.call (.start given.normalized args)).newcomer
        host descriptor args (reg.lifecycle.isExempt given.normalized) fun s => s).record.id := by
      rw [launched, faithful _ _ known]
      exact indexOf_eq_none.mp untracked
    have welcomed : Tells id (reg.call (.start given.normalized args))
        ((reg.call (.start given.normalized args)).welcome _) := tells_welcome called fresh
    exact welcomed
  | bind binding => exact binding.tells faithful orderly
  | @appear _ given descriptor s untracked known hid new =>
    have named : s.record.id = given.normalized := by
      rw [new, launched, hid]
    have fresh : ∀ q ∈ reg.entries, q.id ≠ s.record.id := by
      rw [named]
      exact indexOf_eq_none.mp untracked
    have same := Scene.onProcess_sameIdentity host .running
      (((reg.welcome s).emit [.focusRequested given.normalized]).scene s.record)
    by_cases hid : s.record.id = id
    · -- nothing is said of an application that had no record before
      rw [hid] at fresh
      have welcomed : reg.events <+: ((reg.welcome s).emit
          [.focusRequested given.normalized]).events :=
        (List.prefix_append _ _).trans (List.prefix_append _ _)
      exact .of_untracked fresh (welcomed.trans (settle_grows _ _ _ _ _))
    · have welcomed : Silent id reg (reg.welcome s) := silent_welcome hid
      have announced := welcomed.trans (requested _ given.normalized)
      exact (announced.trans (silent_settle rfl same.id hid)).toTells orderly.distinct
  | stray _ known hid => exact absurd (faithful _ _ known) hid
  | raise place _ => exact (silent_raise place.entries).toTells orderly.distinct
  | @focus _ front back r _ place _ elsewhere =>
    have raised : ((reg.raise front r back).entries.map Record.id).Nodup :=
      ((raise_perm place.entries).map Record.id).nodup_iff.mpr orderly.distinct
    obtain ⟨entries, events, frame⟩ := raise_frame reg front r back
    have focused : (reg.raise front r back).focused = reg.focused := by rw [frame]
    rw [← focused] at elsewhere
    exact (silent_raise place.entries).tells (tells_passFocus raised elsewhere)
  | tick now => exact tells_tick orderly now

/-- Where descriptors are those of the applications they were asked for, an operation announces a
change of a field of an application exactly once if the record that the application had before has
another value there afterwards, and not at all if the value is the same. -/
theorem field_changes_announced (h : Reachable Host.Faithful reg) (faithful : host.Faithful)
    (op : Operation) :
    ∃ new, (reg.perform host op).2.events = reg.events ++ new ∧
      ∀ r ∈ reg.entries, ∀ q ∈ (reg.perform host op).2.entries, q.id = r.id → ∀ field,
        new.count (.fieldChanged r.id field) = if r.value field = q.value field then 0 else 1 := by
  have course := perform_course host op reg
  have told : ∀ id, Tells id reg (reg.perform host op).2 :=
    fun id => course.tells faithful h.orderly
  obtain ⟨new, events⟩ := (told ⟨""⟩).grows
  refine ⟨new, events.symm, fun r hr q hq same field => ?_⟩
  obtain ⟨new', events', counts⟩ := told r.id
  obtain rfl : new = new' := List.append_cancel_left (events.trans events')
  exact counts r hr rfl q hq same field

/-- Once the errand is done, the notes are focused instead of the clock: two flags change, and
nothing else of what observers see. -/
theorem field_changes_afterErrand :
    (afterErrand.perform .willing (.focus ⟨"notes"⟩)).2.events = afterErrand.events ++
      [.fieldChanged ⟨"clock"⟩ .focused, .fieldChanged ⟨"notes"⟩ .focused,
        .focusChanged (some ⟨"notes"⟩)] ∧
    ∃ new, (afterErrand.perform .willing (.focus ⟨"notes"⟩)).2.events =
        afterErrand.events ++ new ∧
      ∀ r ∈ afterErrand.entries, ∀ q ∈ (afterErrand.perform .willing (.focus ⟨"notes"⟩)).2.entries,
        q.id = r.id → ∀ field, new.count (.fieldChanged r.id field) =
          if r.value field = q.value field then 0 else 1 :=
  ⟨by decide, field_changes_announced afterErrand_reachable Host.willing_faithful _⟩

end Registry

end AppLifecycle
