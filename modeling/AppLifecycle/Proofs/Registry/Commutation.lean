import AppLifecycle.Proofs.Registry.Orderly
import AppLifecycle.Proofs.Registry.WakelockShares
import AppLifecycle.Proofs.Scene.Uniform

/-!
# Reports on different applications

A report of a process or of a session acts on the record that it is about, and what it does there
depends on that record alone. So it does not matter in which order the reports on two applications
are taken (`reports_commute`): one may give its record up, clear the focus or take the wakelock, but
it leaves the other record where it is, with its share and its session.
-/

namespace AppLifecycle

/-- A report is about the record of its application, or about the one that has its session. -/
def Operation.isAbout (op : Operation) (r : Record) : Bool :=
  match op with
  | .process event => r.id = event.id.normalized
  | .sessionState session _ => r.session.map Session.id = some session
  | .sessionClosed session => r.session.map Session.id = some session
  | _ => false

/-- What a report does to the record that it is about. -/
def Operation.reaction (op : Operation) (host : Host) (s : Scene) : Scene :=
  match op with
  | .process (.starting _) =>
    if s.record.state = .stoppedResumable ∨ s.record.state = .starting ∧ s.record.process = .unknown
    then s.onProcess host .running else s
  | .process (.stopped _) =>
    if Registry.keepsExit s.record then s else s.onProcess host .stopped
  | .process (.failed _ _) => (s.onProcess host .failed).setPid 0
  | .process (.suspended _) => s.onProcess host .suspended
  | .process (.resumeRequested _) =>
    if s.record.state.shown = .suspended then s.request host .running else s
  | .sessionState _ state => s.hear host state
  | .sessionClosed _ => s.hear host .stopped
  | _ => s

/-- The record is given up at the end, whatever has become of it. -/
def Operation.dismisses (op : Operation) (r : Record) : Bool :=
  match op with
  | .process (.stopped _) => !Registry.keepsExit r
  | _ => false

namespace Scene

variable {p : Party} {r : Record}

lemma uniform_reaction (op : Operation) (has : p.Has r) : Uniform p op.reaction r := by
  cases op with
  | process event =>
    cases event with
    | starting id =>
      by_cases awaited :
          r.state = .stoppedResumable ∨ r.state = .starting ∧ r.process = .unknown
      · exact .congr (g := fun host s => s.onProcess host .running)
          (fun _ _ _ _ => if_pos awaited) (uniform_onProcess _ has)
      · exact .congr (g := fun _ s => s) (fun _ _ _ _ => if_neg awaited) (.stay has)
    | stopped id =>
      by_cases kept : Registry.keepsExit r = true
      · exact .congr (g := fun _ s => s) (fun _ _ _ _ => if_pos kept) (.stay has)
      · exact .congr (g := fun host s => s.onProcess host .stopped)
          (fun _ _ _ _ => if_neg kept) (uniform_onProcess _ has)
    | failed id early =>
      exact (uniform_onProcess .failed has).andThen fun _ has => uniform_setPid 0 has
    | suspended id => exact uniform_onProcess .suspended has
    | focusRequested id => exact .stay has
    | resumeRequested id =>
      by_cases suspended : r.state.shown = .suspended
      · exact .congr (g := fun host s => s.request host .running)
          (fun _ _ _ _ => if_pos suspended) (uniform_request _ has)
      · exact .congr (g := fun _ s => s) (fun _ _ _ _ => if_neg suspended) (.stay has)
  | sessionState session state => exact uniform_hear state has
  | sessionClosed session => exact uniform_hear .stopped has
  | _ => exact .stay has

end Scene

namespace Scene

variable {host : Host} {s t : Scene}

lemma syncWakelock_sound (h : s.wakelock.Sound) : (s.syncWakelock host).wakelock.Sound := by
  unfold syncWakelock
  split
  · exact Wakelock.acquire_sound _ _ _
  · exact Wakelock.release_sound h _

lemma Moves.sound (moves : Moves host s t) (h : s.wakelock.Sound) : t.wakelock.Sound := by
  induction moves with
  | refl => exact h
  | tail _ move ih =>
    cases move with
    | log e => exact ih
    | detail f core => exact ih
    | stage stage supported => exact ih
    | enter state =>
      unfold Scene.enter
      split
      · exact ih
      · exact syncWakelock_sound ih
    | exempt exempt => exact syncWakelock_sound ih

end Scene

namespace Registry

variable {host : Host} {op op' : Operation} {reg : Registry} {front back : List Record}
variable {r r' : Record} {s : Scene} {p : Party}

/-- The record that a report is about. -/
def concerned (reg : Registry) (op : Operation) : Option Record := reg.entries.find? op.isAbout

/-! ## What a report does -/

/-- The record between `front` and `back` has become the one of `s`, and is given up if that has
stopped or is to leave anyway. -/
def conclude (reg : Registry) (front : List Record) (r : Record) (back : List Record)
    (leaves : Bool) (s : Scene) : Registry :=
  if leaves = true ∨ s.record.state = .stopped then
    (reg.place front r back s).evict front s.record back
  else reg.place front r back s

/-- Two registries differ in what has been announced only. -/
def SameButEvents (reg reg' : Registry) : Prop := ∃ events, reg = { reg' with events }

lemma SameButEvents.refl (reg : Registry) : SameButEvents reg reg := ⟨reg.events, rfl⟩

lemma SameButEvents.trans {reg reg' reg'' : Registry} (h : SameButEvents reg reg')
    (h' : SameButEvents reg' reg'') : SameButEvents reg reg'' := by
  obtain ⟨events, same⟩ := h
  obtain ⟨_, same'⟩ := h'
  exact ⟨events, by rw [same, same']⟩

lemma settle_eq (front : List Record) (r : Record) (back : List Record) (s : Scene) :
    reg.settle front r back s = reg.conclude front r back false s := by
  unfold settle conclude
  simp

lemma settle_emit (events : List RegistryEvent) (front : List Record) (r : Record)
    (back : List Record) (s : Scene) :
    SameButEvents ((reg.emit events).settle front r back s)
      (reg.conclude front r back false s) := by
  rw [settle_eq]
  unfold conclude
  split <;> exact ⟨_, rfl⟩

lemma conclude_self (place : Located reg front r back) (tracked : r.state ≠ .stopped) :
    SameButEvents reg (reg.conclude front r back false (reg.scene r)) := by
  unfold conclude
  rw [if_neg (by rintro (no | no); exacts [Bool.false_ne_true no, tracked no])]
  refine ⟨reg.events, ?_⟩
  unfold Registry.place
  rw [show front ++ (reg.scene r).record :: back = reg.entries from place.entries.symm]
  rfl

lemma conclude_idle (place : Located reg front r back) (tracked : r.state ≠ .stopped)
    (events : List RegistryEvent) :
    SameButEvents (reg.emit events) (reg.conclude front r back false (reg.scene r)) := by
  obtain ⟨_, same⟩ := conclude_self place tracked
  exact ⟨_, congrArg (fun reg' : Registry => { reg' with events := reg.events ++ events }) same⟩

lemma onRecord_conclude (place : Located reg front r back) (f : Scene → Scene) :
    SameButEvents (reg.onRecord r.id f).2 (reg.conclude front r back false (f (reg.scene r))) := by
  rw [onRecord_eq place]
  exact ⟨_, settle_eq front r back _⟩

lemma concerned_process {event : ProcessEvent} (about : reg.concerned (.process event) = some r) :
    r.id = event.id.normalized := by
  have found := List.find?_some about
  exact of_decide_eq_true found

lemma concerned_session {session : SessionId} {state : SessionState}
    (about : reg.concerned (.sessionState session state) = some r) :
    reg.idForSession session = some r.id :=
  congrArg (Option.map Record.id) about

lemma starting_conclude (place : Located reg front r back) (tracked : r.state ≠ .stopped)
    {id : AppId} (own : r.id = id.normalized) :
    SameButEvents (reg.onProcessStarting host id) (reg.conclude front r back false
      ((Operation.process (.starting id)).reaction host (reg.scene r))) := by
  by_cases gone : r.state = .stoppedResumable
  · have reaction : (Operation.process (.starting id)).reaction host (reg.scene r) =
        Scene.onProcess host .running (reg.scene r) := if_pos (.inl gone)
    rw [onProcessStarting_of_gone host place own gone, reaction]
    exact settle_emit _ front r back _
  · unfold onProcessStarting
    dsimp only
    rw [← own, place.indexOf]
    dsimp only
    rw [place.getElem?]
    dsimp only
    rw [if_neg gone]
    by_cases awaited : r.state = .starting ∧ r.process = .unknown
    · have reaction : (Operation.process (.starting id)).reaction host (reg.scene r) =
          Scene.onProcess host .running (reg.scene r) := if_pos (.inr awaited)
      rw [if_pos awaited, reaction]
      exact onRecord_conclude place _
    · have reaction : (Operation.process (.starting id)).reaction host (reg.scene r) =
          reg.scene r := if_neg (not_or.mpr ⟨gone, awaited⟩)
      rw [if_neg awaited, reaction]
      exact conclude_self place tracked

/-- When a process has ended, its record is given up even if it is in no state to stop. -/
lemma stopped_conclude (place : Located reg front r back) (alone : ∀ q ∈ back, q.id ≠ r.id)
    (tracked : r.state ≠ .stopped) {id : AppId} (own : r.id = id.normalized) :
    SameButEvents (reg.onProcessStopped host id) (reg.conclude front r back (!keepsExit r)
      ((Operation.process (.stopped id)).reaction host (reg.scene r))) := by
  unfold onProcessStopped
  dsimp only
  rw [← own, place.indexOf, Option.bind_some, place.getElem?]
  dsimp only
  by_cases kept : keepsExit r = true
  · have reaction : (Operation.process (.stopped id)).reaction host (reg.scene r) = reg.scene r :=
      if_pos kept
    rw [if_pos kept, reaction, kept]
    exact conclude_self place tracked
  · have reaction : (Operation.process (.stopped id)).reaction host (reg.scene r) =
        Scene.onProcess host .stopped (reg.scene r) := if_neg kept
    rw [if_neg kept, reaction, Bool.eq_false_iff.mpr kept, onRecord_eq place]
    dsimp only
    have same := (Scene.onProcess_sameIdentity host .stopped (reg.scene r)).id
    generalize Scene.onProcess host .stopped (reg.scene r) = s at same
    have same : s.record.id = r.id := same
    have others : ∀ q ∈ front ++ back, q.id ≠ r.id :=
      fun q hq => (List.mem_append.mp hq).elim (place.first q) (alone q)
    have concluded : reg.conclude front r back (!false) s =
        (reg.place front r back s).evict front s.record back := if_pos (.inl rfl)
    rw [concluded]
    unfold settle
    by_cases ended : s.record.state = .stopped
    · -- it has been given up already, and is not found any more
      rw [if_pos ended]
      have none : ((reg.place front r back s).evict front s.record back).indexOf r.id = none :=
        indexOf_eq_none.mpr others
      rw [none]
      exact .refl _
    · rw [if_neg ended]
      have still : Located (reg.place front r back s) front s.record back :=
        ⟨rfl, fun q hq => same ▸ place.first q hq⟩
      rw [← same, still.indexOf]
      dsimp only
      rw [removeAt_eq still.entries]
      exact .refl _

lemma resumeRequested_conclude (place : Located reg front r back) (tracked : r.state ≠ .stopped)
    {id : AppId} (own : r.id = id.normalized) :
    SameButEvents (reg.onResumeRequested host id) (reg.conclude front r back false
      ((Operation.process (.resumeRequested id)).reaction host (reg.scene r))) := by
  unfold onResumeRequested
  rw [place.find own]
  dsimp only
  by_cases suspended : r.state.shown = .suspended
  · have reaction : (Operation.process (.resumeRequested id)).reaction host (reg.scene r) =
        Scene.request host .running (reg.scene r) := if_pos suspended
    rw [if_pos suspended, reaction, ← own]
    exact onRecord_conclude place _
  · have reaction : (Operation.process (.resumeRequested id)).reaction host (reg.scene r) =
        reg.scene r := if_neg suspended
    rw [if_neg suspended, reaction]
    exact conclude_self place tracked

/-- What a report does to a registry is what it does to the record that it is about. -/
theorem perform_conclude (place : Located reg front r back) (alone : ∀ q ∈ back, q.id ≠ r.id)
    (tracked : r.state ≠ .stopped) (about : reg.concerned op = some r) :
    SameButEvents (reg.perform host op).2
      (reg.conclude front r back (op.dismisses r) (op.reaction host (reg.scene r))) := by
  cases op with
  | process event =>
    have own := concerned_process about
    cases event with
    | starting id => exact starting_conclude place tracked own
    | stopped id => exact stopped_conclude place alone tracked own
    | failed id early =>
      have own : r.id = id.normalized := own
      have reported := onRecord_conclude place fun s => (s.onProcess host .failed).setPid 0
      rw [own] at reported
      exact reported
    | suspended id =>
      have own : r.id = id.normalized := own
      have reported := onRecord_conclude place (Scene.onProcess host .suspended)
      rw [own] at reported
      exact reported
    | focusRequested id => exact conclude_idle place tracked _
    | resumeRequested id => exact resumeRequested_conclude place tracked own
  | sessionState session state =>
    show SameButEvents (reg.sessionStateChanged host session state) _
    unfold sessionStateChanged
    rw [concerned_session about]
    exact onRecord_conclude place (Scene.hear host state)
  | sessionClosed session =>
    have about : reg.concerned (.sessionState session .stopped) = some r := about
    show SameButEvents (reg.sessionStateChanged host session .stopped) _
    unfold sessionStateChanged
    rw [concerned_session about]
    exact onRecord_conclude place (Scene.hear host .stopped)
  | _ =>
    have found := List.find?_some about
    cases found

/-! ## What it does follows from the record -/

/-- What a report leaves of a record, whose turns at the wakelock it takes, and what it does
outside. -/
structure Consequence where
  kept : Option Record
  turns : List (WakelockOwner × Bool)
  effects : List Effect

/-- All that comes of a report on a record comes of its application. -/
structure Consequence.Within (c : Consequence) (p : Party) (r : Record) : Prop where
  has : ∀ q ∈ c.kept, p.Has q
  turns : ∀ t ∈ c.turns, t.1 = r.owner
  effects : ∀ e ∈ c.effects, p.Owns e

/-- The focus is lost with the record that has it. -/
def leaveFocus (c : Consequence) (r : Record) (focused : Option AppId) : Option AppId :=
  match c.kept with
  | none => if focused = some r.id then none else focused
  | some _ => focused

lemma leaveFocus_comm (c c' : Consequence) (r r' : Record) (focused : Option AppId) :
    leaveFocus c' r' (leaveFocus c r focused) = leaveFocus c r (leaveFocus c' r' focused) := by
  unfold leaveFocus
  cases c.kept with
  | some q => rfl
  | none =>
    cases c'.kept with
    | some q' => rfl
    | none =>
      by_cases own : focused = some r.id <;> by_cases own' : focused = some r'.id <;>
        simp [own, own']

/-- The registry with what comes of a report on the record between `front` and `back`. -/
def absorb (reg : Registry) (front : List Record) (r : Record) (back : List Record)
    (c : Consequence) : Registry :=
  { reg with
    entries := front ++ (c.kept.toList ++ back)
    focused := leaveFocus c r reg.focused
    wakelock := reg.wakelock.follow c.turns
    journal := reg.journal ++ c.effects }

lemma conclude_absorb {f : Host → Scene → Scene} (uniform : Scene.Uniform p f r) (own : p.id = r.id)
    (leaves : Bool) : ∃ c : Consequence, c.Within p r ∧
      ∀ host, p.Agrees host → ∀ (reg : Registry) (front back : List Record), SameButEvents
        (reg.conclude front r back leaves (f host (reg.scene r))) (reg.absorb front r back c) := by
  obtain ⟨i, within, all⟩ := uniform
  by_cases ended : leaves = true ∨ i.record.state = .stopped
  · -- the record is given up, with its share and its session
    obtain ⟨last, within', departs⟩ := Scene.uniform_depart within.has
    refine ⟨⟨none, i.turns ++ last.turns, i.effects ++ last.effects⟩,
      ⟨fun _ no => (nomatch no), ?_, ?_⟩, fun host agrees reg front back => ?_⟩
    · refine List.forall_mem_append.mpr ⟨within.turns, fun t ht => ?_⟩
      exact (within'.turns t ht).trans within.owner
    · exact List.forall_mem_append.mpr ⟨within.effects, within'.effects⟩
    · rw [show f host (reg.scene r) = i.on reg.wakelock reg.journal from all host agrees _ _]
      have gone : reg.conclude front r back leaves (i.on reg.wakelock reg.journal) =
          (reg.place front r back (i.on reg.wakelock reg.journal)).evict front i.record back :=
        if_pos ended
      have departed := departs host agrees (reg.wakelock.follow i.turns) (reg.journal ++ i.effects)
      have sameId : i.record.id = r.id := within.has.id.trans own
      refine ⟨((reg.place front r back (i.on reg.wakelock reg.journal)).evict front i.record
        back).events, ?_⟩
      rw [gone]
      unfold evict absorb
      rw [Scene.finish_eq, sameId]
      have departed : ((reg.place front r back (i.on reg.wakelock reg.journal)).scene
          i.record).depart = _ := departed
      rw [departed]
      unfold Impact.on
      dsimp only
      rw [Wakelock.follow_append, List.append_assoc]
      rfl
  · refine ⟨⟨some i.record, i.turns, i.effects⟩, ⟨fun q hq => ?_, within.turns, within.effects⟩,
      fun host agrees reg front back => ?_⟩
    · cases hq
      exact within.has
    · rw [show f host (reg.scene r) = i.on reg.wakelock reg.journal from all host agrees _ _]
      have stays : reg.conclude front r back leaves (i.on reg.wakelock reg.journal) =
          reg.place front r back (i.on reg.wakelock reg.journal) := if_neg ended
      exact ⟨(reg.place front r back (i.on reg.wakelock reg.journal)).events, stays.trans rfl⟩

/-- The application of a record with the session that it has, on a machine. -/
def party (r : Record) (machine : Host) : Party := ⟨r.id, r.session, machine⟩

lemma party_has (r : Record) (machine : Host) : (party r machine).Has r := ⟨rfl, .inl rfl⟩

/-- What comes of a report follows from the record that it is about. -/
theorem report_absorb (op : Operation) (machine : Host) (tracked : r.state ≠ .stopped) :
    ∃ c : Consequence, c.Within (party r machine) r ∧ ∀ host, (party r machine).Agrees host →
      ∀ {reg front back}, Located reg front r back → (∀ q ∈ back, q.id ≠ r.id) →
        reg.concerned op = some r →
        SameButEvents (reg.perform host op).2 (reg.absorb front r back c) := by
  obtain ⟨c, within, all⟩ :=
    conclude_absorb (Scene.uniform_reaction op (party_has r machine)) rfl (op.dismisses r)
  refine ⟨c, within, fun host agrees reg front back place alone about => ?_⟩
  exact (perform_conclude place alone tracked about).trans (all host agrees reg front back)

/-! ## Two reports -/

/-- A report that is about what is left of a record was about the record. -/
lemma isAbout_of_has {machine : Host} {q : Record} (has : (party r machine).Has q)
    (about : op.isAbout q = true) : op.isAbout r = true := by
  have sameId : q.id = r.id := has.id
  have attached {session : SessionId} (own : q.session.map Session.id = some session) :
      r.session.map Session.id = some session := by
    obtain same | gone := has.session
    · rw [same] at own
      exact own
    · rw [gone] at own
      cases own
  cases op with
  | process event =>
    have own : q.id = event.id.normalized := of_decide_eq_true about
    exact decide_eq_true (sameId.symm.trans own)
  | sessionState session state => exact decide_eq_true (attached (of_decide_eq_true about))
  | sessionClosed session => exact decide_eq_true (attached (of_decide_eq_true about))
  | _ => cases about

/-- A report on one record leaves a report on another one about that. -/
lemma concerned_absorb {c : Consequence} {machine : Host} (within : c.Within (party r machine) r)
    (entries : reg.entries = front ++ r :: back) (about : reg.concerned op = some r')
    (different : r ≠ r') : (reg.absorb front r back c).concerned op = some r' := by
  unfold concerned at about ⊢
  rw [entries, List.find?_append] at about
  show (front ++ (c.kept.toList ++ back)).find? op.isAbout = some r'
  rw [List.find?_append]
  cases found : front.find? op.isAbout with
  | some q =>
    rw [found] at about
    exact about
  | none =>
    rw [found, Option.none_or] at about
    rw [Option.none_or]
    -- a report that is not about the record is not about what is left of it either
    have unheard : op.isAbout r = false := by
      refine Bool.eq_false_iff.mpr fun own => different ?_
      rw [List.find?_cons_of_pos own] at about
      exact Option.some.inj about
    rw [List.find?_cons_of_neg (by rw [unheard]; exact Bool.false_ne_true)] at about
    rw [List.find?_append, List.find?_eq_none.mpr, Option.none_or]
    · exact about
    · intro q hq own
      have own := isAbout_of_has (within.has q (Option.mem_toList.mp hq)) own
      exact absurd (own.symm.trans unheard) (by decide)

/-- The same records in the same order, the same focus, and the same shares in the wakelock. -/
structure Matches (reg reg' : Registry) : Prop where
  entries : reg.entries = reg'.entries
  focused : reg.focused = reg'.focused
  owners : reg.wakelock.owners.Perm reg'.wakelock.owners
  held : reg.wakelock.held = reg'.wakelock.held

lemma Matches.symm {reg' : Registry} (h : Matches reg reg') : Matches reg' reg :=
  ⟨h.entries.symm, h.focused.symm, h.owners.symm, h.held.symm⟩

/-- What holds of a registry whatever is done to it: its records differ, and none has stopped. -/
structure Regular (reg : Registry) : Prop where
  distinct : (reg.entries.map Record.id).Nodup
  owners : (reg.entries.map Record.owner).Nodup
  tracked : ∀ r ∈ reg.entries, r.state ≠ .stopped
  nodup : reg.wakelock.owners.Nodup
  sound : reg.wakelock.Sound

lemma evict_sound (h : reg.wakelock.Sound) (front : List Record) (r : Record)
    (back : List Record) : (reg.evict front r back).wakelock.Sound := by
  show (reg.scene r).finish.1.Sound
  rw [Scene.finish_wakelock]
  exact Wakelock.release_sound h _

lemma Step.sound {reg' : Registry} (step : Step host op reg reg') (h : reg.wakelock.Sound) :
    reg'.wakelock.Sound := by
  cases step with
  | @treat _ _ _ _ r _ place treatment =>
    have done := (treatment.moves (reg.scene r)).sound h
    unfold settle
    split
    · exact evict_sound done _ _ _
    · exact done
  | evict place hid => exact evict_sound h _ _ _
  | track arguments known short untracked introduction =>
    show (reg.newcomer host _ arguments _ _).wakelock.Sound
    exact (introduction.moves host _).sound (Scene.syncWakelock_sound h)
  | raise place hid =>
    obtain ⟨_, _, frame⟩ := raise_frame reg _ _ _
    rw [frame]
    exact h
  | focus entries hid elsewhere =>
    obtain ⟨_, _, frame⟩ := passFocus_frame reg _
    rw [frame]
    exact h
  | _ => exact h

lemma Reachable.regular (h : Reachable Host.Faithful reg) : Regular reg where
  distinct := h.orderly.distinct
  owners := h.shares.distinct
  tracked := h.running
  nodup := h.shares.nodup
  sound := h.invariant (I := fun reg => reg.wakelock.Sound) (fun _ _ no => nomatch no)
    (fun _ _ _ _ _ step => step.sound) fun _ _ _ h => h

/-- Reports taken one after the other. -/
lemma perform_absorb {reg' : Registry} {c c' : Consequence} {rest : List Record}
    (first : SameButEvents reg' (reg.absorb front r rest c)) {front' back' : List Record}
    (next : ∀ {reg front back}, Located reg front r' back → (∀ q ∈ back, q.id ≠ r'.id) →
      reg.concerned op' = some r' →
      SameButEvents (reg.perform host op').2 (reg.absorb front r' back c'))
    (place : Located (reg.absorb front r rest c) front' r' back')
    (alone : ∀ q ∈ back', q.id ≠ r'.id)
    (about : (reg.absorb front r rest c).concerned op' = some r') :
    SameButEvents (reg'.perform host op').2
      ((reg.absorb front r rest c).absorb front' r' back' c') := by
  obtain ⟨events, same⟩ := first
  have place' : Located reg' front' r' back' := by
    rw [same]
    exact ⟨place.entries, place.first⟩
  have about' : reg'.concerned op' = some r' := by
    rw [same]
    exact about
  refine (next place' alone about').trans ?_
  rw [same]
  exact ⟨_, rfl⟩

/-- What comes of two reports in either order, the one on the record in front being called the
first. -/
lemma commute_in_order {middle : List Record} {machine machine' early late early' late' : Host}
    (regular : Regular reg) (entries : reg.entries = front ++ r :: (middle ++ r' :: back))
    (about : reg.concerned op = some r) (about' : reg.concerned op' = some r')
    (agrees : (party r machine).Agrees early ∧ (party r machine).Agrees late)
    (agrees' : (party r' machine').Agrees early' ∧ (party r' machine').Agrees late') :
    let one := ((reg.perform early op).2.perform late' op').2
    let other := ((reg.perform early' op').2.perform late op).2
    Matches one other ∧ ∃ effects effects',
      (∀ e ∈ effects, (party r machine).Owns e) ∧ (∀ e ∈ effects', (party r' machine').Owns e) ∧
      one.journal = reg.journal ++ effects ++ effects' ∧
      other.journal = reg.journal ++ effects' ++ effects := by
  intro one other
  have distinct := regular.distinct
  have owners := regular.owners
  rw [entries] at distinct owners
  have mem : r ∈ reg.entries ∧ r' ∈ reg.entries := by
    rw [entries]
    simp
  obtain ⟨c, within, all⟩ := report_absorb op machine (regular.tracked r mem.1)
  obtain ⟨c', within', all'⟩ := report_absorb op' machine' (regular.tracked r' mem.2)
  -- nobody else has the id of one of the two
  have apart := (nodup_map_split distinct).2
  have entries' : reg.entries = (front ++ r :: middle) ++ r' :: back := by
    rw [entries, List.append_assoc, List.cons_append]
  have distinct' := regular.distinct
  rw [entries'] at distinct'
  have apart' := (nodup_map_split distinct').2
  have other_id : r'.id ≠ r.id := apart r' (by simp)
  have different : r ≠ r' := fun same => other_id (congrArg Record.id same.symm)
  have place : Located reg front r (middle ++ r' :: back) :=
    ⟨entries, fun q hq => apart q (List.mem_append_left _ hq)⟩
  have place' : Located reg (front ++ r :: middle) r' back :=
    ⟨entries', fun q hq => apart' q (List.mem_append_left _ hq)⟩
  have alone : ∀ q ∈ middle ++ r' :: back, q.id ≠ r.id :=
    fun q hq => apart q (List.mem_append_right _ hq)
  have alone' : ∀ q ∈ back, q.id ≠ r'.id := fun q hq => apart' q (List.mem_append_right _ hq)
  -- the second record is found after the first report, and the first one after the second
  have one_eq : SameButEvents one ((reg.absorb front r (middle ++ r' :: back) c).absorb
      (front ++ (c.kept.toList ++ middle)) r' back c') := by
    refine perform_absorb (all early agrees.1 place alone about) (all' late' agrees'.2) ⟨?_, ?_⟩
      alone' (concerned_absorb within entries about' different)
    · show front ++ (c.kept.toList ++ (middle ++ r' :: back)) = _
      simp only [List.append_assoc]
    · intro q hq
      simp only [List.mem_append, Option.mem_toList] at hq
      obtain hq | hq | hq := hq
      · exact apart' q (by simp [hq])
      · rw [(within.has q hq).id]
        exact other_id.symm
      · exact apart' q (by simp [hq])
  have other_eq : SameButEvents other ((reg.absorb (front ++ r :: middle) r' back c').absorb
      front r (middle ++ (c'.kept.toList ++ back)) c) := by
    refine perform_absorb (all' early' agrees'.1 place' alone' about') (all late agrees.2)
      ⟨?_, place.first⟩ ?_ (concerned_absorb within' entries' about different.symm)
    · show (front ++ r :: middle) ++ (c'.kept.toList ++ back) = _
      simp only [List.append_assoc, List.cons_append]
    · intro q hq
      simp only [List.mem_append, Option.mem_toList] at hq
      obtain hq | hq | hq := hq
      · exact alone q (by simp [hq])
      · rw [(within'.has q hq).id]
        exact other_id
      · exact alone q (by simp [hq])
  obtain ⟨_, one_eq⟩ := one_eq
  obtain ⟨_, other_eq⟩ := other_eq
  have turns_apart : ∀ t ∈ c.turns, ∀ t' ∈ c'.turns, t.1 ≠ t'.1 := by
    intro t ht t' ht'
    rw [within.turns t ht, within'.turns t' ht']
    exact ((nodup_map_split owners).2 r' (by simp)).symm
  obtain ⟨shares, held⟩ := Wakelock.follow_swap regular.nodup regular.sound turns_apart
  rw [one_eq, other_eq]
  refine ⟨⟨?_, ?_, shares, held⟩, c.effects, c'.effects, within.effects, within'.effects, rfl, rfl⟩
  · show (front ++ (c.kept.toList ++ middle)) ++ (c'.kept.toList ++ back) =
      front ++ (c.kept.toList ++ (middle ++ (c'.kept.toList ++ back)))
    simp only [List.append_assoc]
  · exact leaveFocus_comm c c' r r' reg.focused

/-- Reports on two records may change places: they leave the same records in the same order, the
same focus and the same shares in the wakelock, and in either order the same is done, one after the
other, for each of the two applications. The machine may say anything of an application and its
session, as long as it says the same whether the other report has been taken or not, and the system
grants the wakelock. -/
theorem reports_commute {machine machine' early late early' late' : Host}
    (h : Reachable Host.Faithful reg)
    (about : reg.concerned op = some r) (about' : reg.concerned op' = some r') (different : r ≠ r')
    (agrees : (party r machine).Agrees early ∧ (party r machine).Agrees late)
    (agrees' : (party r' machine').Agrees early' ∧ (party r' machine').Agrees late') :
    let one := ((reg.perform early op).2.perform late' op').2
    let other := ((reg.perform early' op').2.perform late op).2
    r.id ≠ r'.id ∧ Matches one other ∧
    ∃ effects effects',
      (∀ e ∈ effects, (party r machine).Owns e) ∧ (∀ e ∈ effects', (party r' machine').Owns e) ∧
      one.journal = reg.journal ++ effects ++ effects' ∧
      other.journal = reg.journal ++ effects' ++ effects := by
  intro one other
  have regular := h.regular
  have mem : r ∈ reg.entries := List.mem_of_find?_eq_some about
  have mem' : r' ∈ reg.entries := List.mem_of_find?_eq_some about'
  have apart : r.id ≠ r'.id :=
    fun same => different (List.inj_on_of_nodup_map regular.distinct mem mem' same)
  refine ⟨apart, ?_⟩
  obtain ⟨front, back, entries⟩ := List.append_of_mem mem
  rw [entries] at mem'
  obtain before | now | after := (List.mem_append.trans (or_congr Iff.rfl List.mem_cons)).mp mem'
  · -- the other record is in front of this one
    obtain ⟨front', middle, split⟩ := List.append_of_mem before
    rw [split, List.append_assoc, List.cons_append] at entries
    obtain ⟨same, effects', effects, owns', owns, there, here⟩ :=
      commute_in_order regular entries about' about agrees' agrees
    exact ⟨same.symm, effects, effects', owns, owns', here, there⟩
  · exact absurd now.symm different
  · obtain ⟨middle, back', split⟩ := List.append_of_mem after
    rw [split] at entries
    exact commute_in_order regular entries about about' agrees agrees'

/-- Two applications have been launched. -/
def pair : Registry :=
  after .standard .standard ([.start ⟨"clock"⟩ [], .start ⟨"notes"⟩ []].map (Prod.mk .willing))

/-- The clock crashes at its start, and the notes come up: the notes are left either way. -/
theorem crash_and_start_commute :
    Reachable Host.Faithful pair ∧ ∃ r r',
      pair.concerned (.process (.failed ⟨"clock"⟩ true)) = some r ∧
      pair.concerned (.process (.starting ⟨"notes"⟩)) = some r' ∧ r ≠ r' ∧
      ((pair.perform .willing (.process (.failed ⟨"clock"⟩ true))).2.perform .willing
        (.process (.starting ⟨"notes"⟩))).2.entries.map Record.id = [⟨"notes"⟩] ∧
      Matches
        ((pair.perform .willing (.process (.failed ⟨"clock"⟩ true))).2.perform .willing
          (.process (.starting ⟨"notes"⟩))).2
        ((pair.perform .willing (.process (.starting ⟨"notes"⟩))).2.perform .willing
          (.process (.failed ⟨"clock"⟩ true))).2 := by
  obtain ⟨r, about⟩ := Option.isSome_iff_exists.mp
    (show (pair.concerned (.process (.failed ⟨"clock"⟩ true))).isSome by decide)
  obtain ⟨r', about'⟩ := Option.isSome_iff_exists.mp
    (show (pair.concerned (.process (.starting ⟨"notes"⟩))).isSome by decide)
  have different : r ≠ r' := by
    rintro rfl
    have same := (concerned_process about).symm.trans (concerned_process about')
    exact absurd same (by decide)
  have agrees (r : Record) : (party r .willing).Agrees .willing :=
    ⟨rfl, fun _ => rfl, fun _ _ => rfl, fun _ => rfl⟩
  have reachable : Reachable Host.Faithful pair := willing_reachable _
  exact ⟨reachable, r, r', about, about', different, by decide,
    (reports_commute reachable about about' different ⟨agrees r, agrees r⟩
      ⟨agrees r', agrees r'⟩).2.1⟩

end Registry

end AppLifecycle
