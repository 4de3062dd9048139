import AppLifecycle.Proofs.AppId
import AppLifecycle.Proofs.Registry.Reachable

/-!
# Ids and focus

Where descriptors are those of the applications they were asked for, a registry has one record for
an application, under the short form of its id, and at most one of the records has the focus: the
one whose id the registry knows as the focused one.
-/

namespace AppLifecycle

namespace Registry

variable {P : Host → Prop} {host : Host} {op : Operation} {reg reg' : Registry}
variable {front back : List Record} {r q : Record} {s : Scene} {id : AppId}

/-- There is one record for an application, and the flags of the records agree with the focus of
the registry. -/
structure Orderly (reg : Registry) : Prop where
  distinct : (reg.entries.map Record.id).Nodup
  flagged : ∀ r ∈ reg.entries, r.focused = true ↔ reg.focused = some r.id
  present : ∀ id, reg.focused = some id → ∃ r ∈ reg.entries, r.id = id

/-- Whose record it is, and whether it has the focus. -/
def flag (r : Record) : AppId × Bool := (r.id, r.focused)

lemma map_id (l : List Record) : l.map Record.id = (l.map flag).map Prod.fst :=
  (List.map_map (g := Prod.fst) (f := flag) (l := l)).symm

/-- The order of the records does not matter, nor does what else they are. -/
lemma Orderly.of_perm (h : Orderly reg) (focused : reg'.focused = reg.focused)
    (perm : (reg'.entries.map flag).Perm (reg.entries.map flag)) : Orderly reg' := by
  refine ⟨?_, fun r hr => ?_, fun id hid => ?_⟩
  · have distinct := h.distinct
    rw [map_id] at distinct ⊢
    exact (perm.map Prod.fst).nodup_iff.mpr distinct
  · have hmem := perm.mem_iff.mp (List.mem_map_of_mem hr)
    obtain ⟨q, hq, same⟩ := List.mem_map.mp hmem
    obtain ⟨sameId, sameFlag⟩ := Prod.mk.inj same
    rw [focused, ← sameId, ← sameFlag]
    exact h.flagged q hq
  · rw [focused] at hid
    obtain ⟨q, hq, rfl⟩ := h.present id hid
    have hmem := perm.mem_iff.mpr (List.mem_map_of_mem hq)
    obtain ⟨r, hr, same⟩ := List.mem_map.mp hmem
    exact ⟨r, hr, (Prod.mk.inj same).1⟩

/-! ## The steps -/

lemma Orderly.place (h : Orderly reg) (entries : reg.entries = front ++ r :: back)
    (same : Record.SameIdentity r s.record) : Orderly (reg.place front r back s) := by
  refine h.of_perm rfl (.of_eq ?_)
  have flags : flag s.record = flag r := congrArg₂ Prod.mk same.id same.focused
  show (front ++ s.record :: back).map flag = reg.entries.map flag
  rw [entries, List.map_append, List.map_append, List.map_cons, List.map_cons, flags]

lemma Orderly.evict (h : Orderly reg) (entries : reg.entries = front ++ r :: back) :
    Orderly (reg.evict front r back) := by
  have distinct := h.distinct
  rw [entries] at distinct
  obtain ⟨others, own⟩ := nodup_map_split distinct
  have focused : (reg.evict front r back).focused =
      if reg.focused = some r.id then none else reg.focused := rfl
  refine ⟨others, fun q hq => ?_, fun id hid => ?_⟩
  · have hmem : q ∈ reg.entries := by
      rw [entries, List.perm_middle.mem_iff]
      exact List.mem_cons_of_mem _ hq
    rw [h.flagged q hmem, focused]
    -- if the focus goes with the record, nobody else was flagged
    split
    · rename_i hfocused
      rw [hfocused]
      exact iff_of_false (fun same => own q hq (Option.some.inj same).symm)
        (Option.some_ne_none _).symm
    · rfl
  · rw [focused] at hid
    split at hid
    · cases hid
    · rename_i hfocused
      obtain ⟨q, hq, rfl⟩ := h.present id hid
      refine ⟨q, ?_, rfl⟩
      rw [entries, List.perm_middle.mem_iff] at hq
      obtain rfl | hq := List.mem_cons.mp hq
      · exact absurd hid hfocused
      · exact hq

lemma Orderly.settle (h : Orderly reg) (entries : reg.entries = front ++ r :: back)
    (same : Record.SameIdentity r s.record) : Orderly (reg.settle front r back s) := by
  have placed := h.place entries same
  unfold Registry.settle
  split
  · exact placed.evict rfl
  · exact placed

/-- A new record has an id that no record had before, and not the focus. -/
lemma Orderly.welcome (h : Orderly reg) {descriptor : Descriptor} (arguments : List String)
    (exempt : Bool) {f : Scene → Scene} (introduction : Introduction op f)
    (new : ∀ q ∈ reg.entries, q.id ≠ descriptor.id) :
    Orderly (reg.welcome (reg.newcomer host descriptor arguments exempt f)) := by
  have same := introduction.sameIdentity host reg descriptor arguments exempt
  have named : (reg.newcomer host descriptor arguments exempt f).record.id = descriptor.id :=
    same.id
  rw [← named] at new
  generalize reg.newcomer host descriptor arguments exempt f = s at same new
  refine ⟨?_, ?_, fun id hid => ?_⟩
  · refine List.nodup_cons.mpr ⟨fun hmem => ?_, h.distinct⟩
    obtain ⟨q, hq, twin⟩ := List.mem_map.mp hmem
    exact new q hq twin
  · refine List.forall_mem_cons.mpr ⟨?_, h.flagged⟩
    rw [same.focused]
    refine iff_of_false Bool.false_ne_true fun hfocused => ?_
    obtain ⟨q, hq, twin⟩ := h.present _ hfocused
    exact new q hq twin
  · obtain ⟨q, hq, found⟩ := h.present id hid
    exact ⟨q, List.mem_cons_of_mem _ hq, found⟩

/-- Where ids are distinct, only the record with the id is touched by a change of its flag. -/
lemma mem_setFocused (distinct : (reg.entries.map Record.id).Nodup) {focused : Bool}
    (h : q ∈ (reg.setFocused id focused).entries) :
    q.id = id ∧ q.focused = focused ∨ q.id ≠ id ∧ q ∈ reg.entries := by
  cases hindex : reg.indexOf id with
  | none =>
    rw [setFocused_eq_self hindex] at h
    exact .inr ⟨indexOf_eq_none.mp hindex q h, h⟩
  | some index =>
    obtain ⟨front, r, back, place, rfl, -⟩ := exists_located hindex
    rw [setFocused_eq place] at h
    rw [place.entries] at distinct
    have own := (nodup_map_split distinct).2
    have split : q = { r with focused } ∨ q ∈ front ++ back :=
      List.mem_cons.mp (List.perm_middle.mem_iff.mp h)
    obtain rfl | hq := split
    · exact .inl ⟨rfl, rfl⟩
    · exact .inr ⟨own q hq, place.mem_of_mem_append hq⟩

/-- Nobody is flagged once the focus has been given up. -/
lemma Orderly.mem_clearFocus (h : Orderly reg) (hq : q ∈ reg.clearFocus.entries) :
    q.focused = false := by
  unfold clearFocus at hq
  split at hq
  · rename_i nobody
    have flagged := h.flagged q hq
    rw [nobody] at flagged
    exact Bool.eq_false_iff.mpr fun set => Option.some_ne_none _ (flagged.mp set).symm
  · rename_i old hfocused
    have distinct : (({ reg with focused := none } : Registry).entries.map Record.id).Nodup :=
      h.distinct
    obtain ⟨-, cleared⟩ | ⟨hne, hmem⟩ := mem_setFocused distinct hq
    · exact cleared
    · have flagged := h.flagged q hmem
      rw [hfocused] at flagged
      exact Bool.eq_false_iff.mpr fun set => hne (Option.some.inj (flagged.mp set)).symm

lemma Orderly.passFocus (h : Orderly reg) (known : ∃ r ∈ reg.entries, r.id = id) :
    Orderly (reg.passFocus id) := by
  have ids : (reg.passFocus id).entries.map Record.id = reg.entries.map Record.id :=
    map_passFocus (fun _ _ => rfl) id
  have cleared : (reg.clearFocus.entries.map Record.id).Nodup := by
    rw [map_clearFocus fun _ _ => rfl]
    exact h.distinct
  -- all flags are down when the new one is set
  refine ⟨?_, fun q hq => ?_, fun id' hid => ?_⟩
  · rw [ids]
    exact h.distinct
  · show q.focused = true ↔ some id = some q.id
    obtain ⟨rfl, set⟩ | ⟨hne, hmem⟩ := mem_setFocused cleared hq
    · exact iff_of_true set rfl
    · rw [h.mem_clearFocus hmem]
      exact iff_of_false Bool.false_ne_true fun same => hne (Option.some.inj same).symm
  · obtain rfl : id = id' := Option.some.inj hid
    obtain ⟨r, hr, rfl⟩ := known
    have hmem : r.id ∈ (reg.passFocus r.id).entries.map Record.id := by
      rw [ids]
      exact List.mem_map_of_mem hr
    exact List.mem_map.mp hmem

lemma Step.orderly (faithful : host.Faithful) (step : Step host op reg reg') (h : Orderly reg) :
    Orderly reg' := by
  cases step with
  | note helpers effects => exact ⟨h.distinct, h.flagged, h.present⟩
  | announce id => exact ⟨h.distinct, h.flagged, h.present⟩
  | treat place treatment =>
    exact h.settle place.entries (treatment.moves (reg.scene _)).sameIdentity
  | evict place _ => exact h.evict place.entries
  | track arguments known _ untracked introduction =>
    refine h.welcome arguments _ introduction ?_
    rw [faithful _ _ known]
    exact indexOf_eq_none.mp untracked
  | authorize pid entries _ =>
    refine h.of_perm rfl (.of_eq ?_)
    show (_ ++ _ :: _).map flag = reg.entries.map flag
    rw [entries, List.map_append, List.map_append]
    rfl
  | raise place _ =>
    obtain ⟨entries, events, frame⟩ := raise_frame reg _ _ _
    refine h.of_perm ?_ ?_
    · rw [frame]
    · exact (raise_perm place.entries).map flag
  | focus entries _ _ =>
    refine h.passFocus ⟨_, ?_, rfl⟩
    rw [entries]
    exact List.mem_cons_self

/-! ## Every run -/

theorem Reachable.orderly (h : Reachable Host.Faithful reg) : Orderly reg := by
  refine h.invariant (fun _ _ => ?_) (fun _ _ _ _ faithful step => step.orderly faithful)
    fun _ _ _ h => ⟨h.distinct, h.flagged, h.present⟩
  exact ⟨List.nodup_nil, fun _ hr => absurd hr List.not_mem_nil, fun _ hid => by cases hid⟩

lemma Step.short (faithful : host.Faithful) (step : Step host op reg reg')
    (h : ∀ r ∈ reg.entries, r.id.normalized = r.id) :
    ∀ r ∈ reg'.entries, r.id.normalized = r.id := by
  refine step.forall_entries ?_ ?_ ?_ ?_ h
  · exact fun _ _ short => short
  · exact fun _ _ _ short => short
  · intro id descriptor arguments exempt f known introduction
    rw [(introduction.sameIdentity host reg descriptor arguments exempt).id]
    show descriptor.id.normalized = descriptor.id
    rw [faithful _ _ known]
    exact AppId.normalized_normalized id
  · intro r f _ treatment short _
    rw [(treatment.moves (reg.scene r)).sameIdentity.id]
    exact short

/-- No record outlives its application. -/
lemma Step.running (step : Step host op reg reg') (h : ∀ r ∈ reg.entries, r.state ≠ .stopped) :
    ∀ r ∈ reg'.entries, r.state ≠ .stopped := by
  refine step.forall_entries ?_ ?_ ?_ ?_ h
  · exact fun _ _ running => running
  · exact fun _ _ _ running => running
  · intro id descriptor arguments exempt f _ introduction
    obtain ⟨pid, stage, record⟩ := introduction.newcomer host reg descriptor arguments exempt
    rw [record]
    exact InternalState.noConfusion
  · exact fun _ _ _ _ _ running => running

lemma Reachable.short (h : Reachable Host.Faithful reg) :
    ∀ r ∈ reg.entries, r.id.normalized = r.id :=
  h.invariant (fun _ _ _ hr => absurd hr List.not_mem_nil)
    (fun _ _ _ _ faithful step => step.short faithful) fun _ _ _ h => h

lemma Reachable.running (h : Reachable P reg) : ∀ r ∈ reg.entries, r.state ≠ .stopped :=
  h.invariant (fun _ _ _ hr => absurd hr List.not_mem_nil)
    (fun _ _ _ _ _ step => step.running) fun _ _ _ h => h

/-- In every reachable registry the ids of the records are short and distinct, no record has
stopped, and the focused id is that of the one record that is flagged. -/
theorem ids_and_focus (h : Reachable Host.Faithful reg) :
    (reg.entries.map Record.id).Nodup ∧
    (∀ r ∈ reg.entries, r.id.normalized = r.id) ∧
    (∀ r ∈ reg.entries, r.state ≠ .stopped) ∧
    (∀ id, reg.focused = some id ↔ ∃ r ∈ reg.entries, r.id = id ∧ r.focused = true) ∧
    ∀ r ∈ reg.entries, ∀ q ∈ reg.entries, r.focused = true → q.focused = true → q = r := by
  have orderly := h.orderly
  refine ⟨orderly.distinct, h.short, h.running, fun id => ⟨fun hid => ?_, ?_⟩, ?_⟩
  · obtain ⟨r, hr, rfl⟩ := orderly.present id hid
    exact ⟨r, hr, rfl, (orderly.flagged r hr).mpr hid⟩
  · rintro ⟨r, hr, rfl, flagged⟩
    exact (orderly.flagged r hr).mp flagged
  · intro r hr q hq hrf hqf
    have same : some r.id = some q.id :=
      ((orderly.flagged r hr).mp hrf).symm.trans ((orderly.flagged q hq).mp hqf)
    exact List.inj_on_of_nodup_map orderly.distinct hq hr (Option.some.inj same).symm

/-- The clock keeps the focus while the notes are in front of it. -/
theorem ids_and_focus_afterErrand :
    Reachable Host.Faithful afterErrand ∧
    afterErrand.focused = some ⟨"clock"⟩ ∧
    (afterErrand.entries.map fun r => (r.id, r.focused)) =
      [(⟨"notes"⟩, false), (⟨"clock"⟩, true)] ∧
    (afterErrand.entries.map Record.id).Nodup ∧
    ∃ r ∈ afterErrand.entries, r.id = ⟨"clock"⟩ ∧ r.focused = true := by
  obtain ⟨distinct, -, -, focus, -⟩ := ids_and_focus afterErrand_reachable
  have focused : afterErrand.focused = some ⟨"clock"⟩ := by decide
  exact ⟨afterErrand_reachable, focused, by decide, distinct, (focus _).mp focused⟩

end Registry

end AppLifecycle
