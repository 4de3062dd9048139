import AppLifecycle.Proofs.Projection
import AppLifecycle.Proofs.Registry.Reachable

/-!
# The events of a registry

A registry announces what it does: an observer who replays the events on a copy of its list has the
new list and the new focus. `Announces` says so of one step, and chains; `Observed` is a registry
together with all events that were ever taken from it.
-/

namespace AppLifecycle

namespace Registry

variable {host : Host} {op : Operation} {reg reg' reg'' : Registry}
variable {front back : List Record} {r : Record} {s : Scene} {taken : List RegistryEvent}

/-- The events that have come are those that lead an observer from one registry to the other. -/
def Announces (reg reg' : Registry) : Prop :=
  ∃ new, reg'.events = reg.events ++ new ∧ reg.projection.replay new = some reg'.projection

/-- Nothing an observer sees has changed, and nothing is announced that says so. -/
lemma Announces.of_idle {new : List RegistryEvent} (events : reg'.events = reg.events ++ new)
    (idle : ∀ event ∈ new, reg.projection.apply event = some reg.projection)
    (same : reg'.projection = reg.projection) : Announces reg reg' := by
  refine ⟨new, events, ?_⟩
  rw [same]
  exact Projection.replay_of_idle idle

lemma Announces.refl (reg : Registry) : Announces reg reg :=
  ⟨[], (List.append_nil _).symm, rfl⟩

lemma Announces.trans (h : Announces reg reg') (h' : Announces reg' reg'') :
    Announces reg reg'' := by
  obtain ⟨new, events, replay⟩ := h
  obtain ⟨new', events', replay'⟩ := h'
  refine ⟨new ++ new', ?_, ?_⟩
  · rw [events', events, List.append_assoc]
  · rw [Projection.replay_append, replay]
    exact replay'

/-! ## The steps -/

lemma projection_eq (entries : reg.entries = front ++ r :: back) :
    reg.projection = ⟨front.map Record.id ++ r.id :: back.map Record.id, reg.focused⟩ := by
  unfold projection
  rw [entries, List.map_append, List.map_cons]

/-- Changes of fields are no news for an observer. -/
lemma apply_fieldChanged (p : Projection) (id : AppId) (fields : List ModelField) :
    ∀ event ∈ fields.map (RegistryEvent.fieldChanged id), p.apply event = some p := by
  intro event hevent
  obtain ⟨field, -, rfl⟩ := List.mem_map.mp hevent
  rfl

/-- Changes of fields are announced one by one; the id stays. -/
lemma announces_place (entries : reg.entries = front ++ r :: back) (hid : s.record.id = r.id) :
    Announces reg (reg.place front r back s) := by
  refine Announces.of_idle rfl (apply_fieldChanged _ _ _) ?_
  rw [projection_eq entries, ← hid]
  exact projection_eq rfl

lemma announces_evict (entries : reg.entries = front ++ r :: back) :
    Announces reg (reg.evict front r back) := by
  refine ⟨_, rfl, ?_⟩
  -- the list is announced to be shorter before the focus is announced to be gone
  have removed : reg.projection.apply (.removed front.length r.id) =
      some ⟨front.map Record.id ++ back.map Record.id, reg.focused⟩ := by
    rw [projection_eq entries, ← List.length_map Record.id]
    exact Projection.apply_removed _ _ _ _
  have counted : Projection.apply ⟨front.map Record.id ++ back.map Record.id, reg.focused⟩
      (.countChanged (front ++ back).length) =
        some ⟨front.map Record.id ++ back.map Record.id, reg.focused⟩ := by
    refine Projection.apply_countChanged ?_
    rw [← List.map_append, List.length_map]
  rw [Projection.replay_append, Projection.replay_cons, removed, Option.bind_some,
    Projection.replay_cons, counted, Option.bind_some, Projection.replay_nil, Option.bind_some,
    ← List.map_append]
  unfold evict projection
  by_cases hfocused : reg.focused = some r.id
  · rw [if_pos hfocused, if_pos hfocused]
    rfl
  · rw [if_neg hfocused, if_neg hfocused]
    rfl

lemma announces_settle (entries : reg.entries = front ++ r :: back) (hid : s.record.id = r.id) :
    Announces reg (reg.settle front r back s) := by
  have placed := announces_place entries hid
  unfold settle
  split
  · exact placed.trans (announces_evict rfl)
  · exact placed

lemma announces_welcome (reg : Registry) (s : Scene) : Announces reg (reg.welcome s) := by
  refine ⟨_, rfl, ?_⟩
  have counted : (reg.welcome s).projection.apply (.countChanged (s.record :: reg.entries).length) =
      some (reg.welcome s).projection := Projection.apply_countChanged (List.length_map _).symm
  rw [Projection.replay_cons, Projection.apply_added, Option.bind_some, Projection.replay_cons]
  show ((reg.welcome s).projection.apply _).bind _ = _
  rw [counted]
  rfl

lemma announces_raise (entries : reg.entries = front ++ r :: back) :
    Announces reg (reg.raise front r back) := by
  cases front with
  | nil =>
    rw [raise_nil]
    exact .refl reg
  | cons q front =>
    rw [raise_cons]
    refine ⟨_, rfl, ?_⟩
    have moved := Projection.apply_moved ((q :: front).map Record.id) r.id (back.map Record.id)
      reg.focused
    rw [List.length_map, List.length_cons] at moved
    rw [Projection.replay_cons, projection_eq entries, moved, Option.bind_some, ← List.map_append]
    rfl

lemma setFocused_events (reg : Registry) (id : AppId) (focused : Bool) :
    ∃ fields : List ModelField, (reg.setFocused id focused).events =
      reg.events ++ fields.map (RegistryEvent.fieldChanged id) := by
  cases hindex : reg.indexOf id with
  | none =>
    refine ⟨[], ?_⟩
    rw [setFocused_eq_self hindex, List.map_nil, List.append_nil]
  | some index =>
    obtain ⟨front, r, back, place, rfl, -⟩ := exists_located hindex
    refine ⟨if r.focused ≠ focused then [.focused] else [], ?_⟩
    rw [setFocused_eq place]
    unfold emit
    split <;> rfl

lemma clearFocus_events (reg : Registry) : ∃ id, ∃ fields : List ModelField,
    reg.clearFocus.events = reg.events ++ fields.map (RegistryEvent.fieldChanged id) := by
  unfold clearFocus
  split
  · exact ⟨default, [], (List.append_nil _).symm⟩
  · rename_i old _
    exact ⟨old, ({ reg with focused := none } : Registry).setFocused_events old false⟩

/-- The flags of the records that lose and get the focus come first, then the focus itself. -/
lemma announces_passFocus (reg : Registry) (id : AppId) : Announces reg (reg.passFocus id) := by
  obtain ⟨old, lost, before⟩ := reg.clearFocus_events
  obtain ⟨got, after⟩ := reg.clearFocus.setFocused_events id true
  have ids : (reg.passFocus id).entries.map Record.id = reg.entries.map Record.id :=
    map_passFocus (fun _ _ => rfl) id
  have idle : reg.projection.replay (lost.map (RegistryEvent.fieldChanged old) ++
      got.map (RegistryEvent.fieldChanged id)) = some reg.projection := by
    refine Projection.replay_of_idle fun event hevent => ?_
    obtain hevent | hevent := List.mem_append.mp hevent
    · exact apply_fieldChanged _ _ _ event hevent
    · exact apply_fieldChanged _ _ _ event hevent
  refine ⟨lost.map (RegistryEvent.fieldChanged old) ++ got.map (RegistryEvent.fieldChanged id) ++
    [.focusChanged (some id)], ?_, ?_⟩
  · unfold passFocus emit
    dsimp only
    rw [after, before]
    simp only [List.append_assoc]
  · rw [Projection.replay_append, idle]
    show some (Projection.mk (reg.entries.map Record.id) (some id)) = _
    rw [← ids]
    rfl

lemma Step.announces (step : Step host op reg reg') : Announces reg reg' := by
  cases step with
  | note helpers effects => exact ⟨[], (List.append_nil _).symm, rfl⟩
  | announce id => exact ⟨_, rfl, rfl⟩
  | treat place treatment =>
    exact announces_settle place.entries (treatment.moves _).sameIdentity.id
  | evict place _ => exact announces_evict place.entries
  | track arguments _ _ _ introduction => exact announces_welcome _ _
  | authorize pid entries _ =>
    refine Announces.of_idle (List.append_nil _).symm (fun _ h => absurd h List.not_mem_nil) ?_
    unfold projection
    rw [entries, List.map_append, List.map_append]
    rfl
  | raise place _ => exact announces_raise place.entries
  | focus _ _ _ => exact announces_passFocus reg _

lemma Steps.announces (steps : Steps host op reg reg') : Announces reg reg' := by
  induction steps with
  | refl => exact .refl reg
  | tail _ step ih => exact ih.trans step.announces

/-! ## Every run -/

/-- `taken` are the events that were taken from a registry since it was empty, whatever was done to
it and whenever they were taken. -/
inductive Observed : Registry → List RegistryEvent → Prop where
  | empty (lifecycle : LifecyclePolicy) (authorization : AuthorizationPolicy) :
      Observed (.empty lifecycle authorization) []
  | perform {reg : Registry} {taken : List RegistryEvent} (host : Host) (op : Operation) :
      Observed reg taken → Observed (reg.perform host op).2 taken
  | takeEvents {reg : Registry} {taken : List RegistryEvent} :
      Observed reg taken → Observed reg.takeEvents.2 (taken ++ reg.takeEvents.1)
  | takeJournal {reg : Registry} {taken : List RegistryEvent} :
      Observed reg taken → Observed reg.takeJournal.2 taken

lemma Observed.performAll (h : Observed reg taken) (ops : List (Host × Operation)) :
    Observed (reg.performAll ops) taken := by
  induction ops generalizing reg with
  | nil => exact h
  | cons x ops ih => exact ih (h.perform x.1 x.2)

lemma Observed.replay (h : Observed reg taken) :
    Projection.empty.replay (taken ++ reg.events) = some reg.projection := by
  induction h with
  | empty lifecycle authorization => rfl
  | perform host op _ ih =>
    obtain ⟨new, events, replay⟩ := (perform_steps host op _).announces
    rw [events, ← List.append_assoc, Projection.replay_append, ih]
    exact replay
  | takeEvents _ ih =>
    show Projection.empty.replay (_ ++ _ ++ []) = _
    rw [List.append_nil]
    exact ih
  | takeJournal _ ih => exact ih

/-- Whoever replays all the events of a registry on an empty list has the ids and the focus of the
registry, after any run; and every event fits the copy that it is replayed on. -/
theorem observer_keeps_up (h : Observed reg taken) :
    Projection.empty.replay (taken ++ reg.events) =
      some ⟨reg.entries.map Record.id, reg.focused⟩ ∧
    ∀ before event after, taken ++ reg.events = before ++ event :: after →
      ∃ copy, Projection.empty.replay before = some copy ∧ event.Fits copy := by
  have replay := h.replay
  refine ⟨replay, fun before event after split => ?_⟩
  rw [split] at replay
  exact Projection.fits_of_replay replay

/-- An observer of the errand who has not taken any events yet. -/
theorem observer_afterErrand :
    Observed afterErrand [] ∧ afterErrand.events.length = 13 ∧
    Projection.empty.replay ([] ++ afterErrand.events) =
      some ⟨[⟨"notes"⟩, ⟨"clock"⟩], some ⟨"clock"⟩⟩ := by
  have observed : Observed afterErrand [] := (Observed.empty .standard .standard).performAll errand
  exact ⟨observed, by decide, (observer_keeps_up observed).1.trans (by decide)⟩

end Registry

end AppLifecycle
