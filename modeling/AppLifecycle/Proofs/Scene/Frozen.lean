import AppLifecycle.Proofs.Scene.Reconciliation

/-!
# Frozen processes

A process is frozen from when the controller is asked to suspend it until the controller is asked to
resume it or to launch another one in its place. `Accords` says in which states of a record its
process may be frozen, and `Tempered` that an operation ends in such a state again: an application
that is to go on is not frozen, and one that is being closed is woken when the report of its
suspension comes in, which is why the report must not have come in before.
-/

namespace AppLifecycle

/-- Whether the process of an application is frozen after an effect. -/
def Effect.freeze (id : AppId) (frozen : Bool) : Effect → Bool
  | .call (.suspend other) => other = id || frozen
  | .call (.resume other) => other ≠ id && frozen
  | .call (.start other _) => other ≠ id && frozen
  | _ => frozen

/-- The same after any number of effects. -/
def freezeAll (id : AppId) (frozen : Bool) (effects : List Effect) : Bool :=
  effects.foldl (Effect.freeze id) frozen

lemma freezeAll_append (id : AppId) (frozen : Bool) (l l' : List Effect) :
    freezeAll id frozen (l ++ l') = freezeAll id (freezeAll id frozen l) l' :=
  List.foldl_append

/-- In these states the application goes on, or is about to. -/
def InternalState.isActive : InternalState → Bool
  | .starting => true
  | .running => true
  | .runningInBackground => true
  | .suspendingWaitSession => true
  | _ => false

namespace Record

variable {r q : Record} {frozen : Bool}

/-- Whether the process of a record may be frozen, and may be known to be suspended. -/
def Accords (frozen : Bool) (r : Record) : Prop :=
  match r.state with
  | .starting => frozen = false ∧ r.process ≠ .suspended
  | .running => frozen = false ∧ r.process ≠ .suspended
  | .runningInBackground => frozen = false ∧ r.process ≠ .suspended
  | .suspendingWaitSession => frozen = false ∧ r.process ≠ .suspended
  | .suspendingWaitProcess => r.process ≠ .suspended
  | .closing => frozen = true → r.process ≠ .suspended
  | .suspended => True
  | .stoppedResumable => True
  | .stopped => True

lemma Accords.of_same (h : r.Accords frozen) (state : q.state = r.state)
    (process : q.process = r.process) : q.Accords frozen := by
  unfold Accords at h ⊢
  rw [state, process]
  exact h

lemma Accords.of_standing (h : r.Accords frozen) (same : q.standing = r.standing) :
    q.Accords frozen := by
  obtain ⟨-, state, -, process⟩ := standing_inj.mp same
  exact h.of_same state process

/-- It is no harm if a process is not frozen. -/
lemma Accords.thaw (h : r.Accords frozen) : r.Accords false := by
  unfold Accords at h ⊢
  cases hstate : r.state <;> simp_all

/-- As long as the process is not known to be suspended, the state is what matters. -/
lemma Accords.of_process (h : r.Accords frozen) (state : q.state = r.state)
    (process : q.process ≠ .suspended) : q.Accords frozen := by
  unfold Accords at h ⊢
  rw [state]
  cases hstate : r.state <;> simp_all

lemma accords_of_awake (process : r.process ≠ .suspended) : r.Accords false := by
  unfold Accords
  cases hstate : r.state <;> simp_all

lemma Accords.active (h : r.Accords frozen) (active : r.state.isActive = true) :
    frozen = false ∧ r.process ≠ .suspended := by
  unfold Accords at h
  cases hstate : r.state <;> rw [hstate] at h active <;> first | exact h | cases active

end Record

namespace Scene

variable {host : Host} {s t u : Scene} {b c d : Bool}

/-! ## What happens to the process between two scenes -/

/-- The process of the record was frozen or not at `s`, and is or is not at `t`; no process of
another application has been touched. -/
def Leads (s : Scene) (b : Bool) (t : Scene) (c : Bool) : Prop :=
  t.record.id = s.record.id ∧ ∃ effects, t.journal = s.journal ++ effects ∧
    freezeAll s.record.id b effects = c ∧
    ∀ id, id ≠ s.record.id → ∀ frozen, freezeAll id frozen effects = frozen

namespace Leads

lemma refl (s : Scene) (b : Bool) : Leads s b s b :=
  ⟨rfl, [], (List.append_nil _).symm, rfl, fun _ _ _ => rfl⟩

lemma trans (h : Leads s b t c) (h' : Leads t c u d) : Leads s b u d := by
  obtain ⟨id, effects, journal, own, others⟩ := h
  obtain ⟨id', effects', journal', own', others'⟩ := h'
  rw [id] at own' others'
  refine ⟨id'.trans id, effects ++ effects', ?_, ?_, fun other hother frozen => ?_⟩
  · rw [journal', journal, List.append_assoc]
  · rw [freezeAll_append, own, own']
  · rw [freezeAll_append, others other hother, others' other hother]

lemma of_journal (id : t.record.id = s.record.id) (journal : t.journal = s.journal) :
    Leads s b t b :=
  ⟨id, [], by rw [journal, List.append_nil], rfl, fun _ _ _ => rfl⟩

lemma log (h : Leads s b t c) {e : Effect} (quiet : ∀ id frozen, e.freeze id frozen = frozen) :
    Leads s b (t.log e) c :=
  h.trans ⟨rfl, [e], rfl, quiet _ c, fun id _ frozen => quiet id frozen⟩

lemma update (h : Leads s b t c) {f : Record → Record} (hf : (f t.record).id = t.record.id) :
    Leads s b (t.update f) c := h.trans (.of_journal hf rfl)

lemma enter (h : Leads s b t c) (state : InternalState) : Leads s b (t.enter host state) c := by
  exact h.trans (.of_journal (enter_sameIdentity host t state).id (enter_journal host state t))

lemma violate (h : Leads s b t c) (v : Violation) : Leads s b (t.violate v) c :=
  (h.update rfl).log fun _ _ => rfl

lemma askSession (h : Leads s b t c) (action : SessionAction) (absent : Violation) :
    Leads s b (t.askSession action absent) c := by
  unfold Scene.askSession
  split
  · exact h.log fun _ _ => rfl
  · exact h.violate absent

/-- A call that is about no process of an application but the record's. -/
lemma call (h : Leads s b t c) (asked : ControllerCall)
    (others : ∀ id, id ≠ t.record.id → ∀ frozen, (Effect.call asked).freeze id frozen = frozen) :
    Leads s b (t.call asked) ((Effect.call asked).freeze t.record.id c) :=
  h.trans ⟨rfl, [.call asked], rfl, rfl, others⟩

lemma callSuspend (h : Leads s b t c) {id : AppId} (hid : id = t.record.id) :
    Leads s b (t.call (.suspend id)) true := by
  subst hid
  have called := h.call (.suspend t.record.id) fun id hid frozen => by
    simp [Effect.freeze, Ne.symm hid]
  simpa [Effect.freeze] using called

lemma callResume (h : Leads s b t c) {id : AppId} (hid : id = t.record.id) :
    Leads s b (t.call (.resume id)) false := by
  subst hid
  have called := h.call (.resume t.record.id) fun id hid frozen => by
    simp [Effect.freeze, Ne.symm hid]
  simpa [Effect.freeze] using called

lemma callStart (h : Leads s b t c) {id : AppId} (hid : id = t.record.id) (args : List String) :
    Leads s b (t.call (.start id args)) false := by
  subst hid
  have called := h.call (.start t.record.id args) fun id hid frozen => by
    simp [Effect.freeze, Ne.symm hid]
  simpa [Effect.freeze] using called

end Leads

/-- Whether the process of the record is frozen at `t` accords with its state there. -/
def Tempered (s : Scene) (b : Bool) (t : Scene) : Prop :=
  ∃ c, Leads s b t c ∧ t.record.Accords c

lemma Tempered.trans (h : Tempered s b t) (h' : ∀ c, t.record.Accords c → Tempered t c u) :
    Tempered s b u := by
  obtain ⟨c, leads, accords⟩ := h
  obtain ⟨d, leads', accords'⟩ := h' c accords
  exact ⟨d, leads.trans leads', accords'⟩

/-- What does not matter to the process leaves it in accord. -/
lemma Tempered.of_standing (h : s.record.Accords b) (leads : Leads s b t b)
    (same : t.record.standing = s.record.standing) : Tempered s b t :=
  ⟨b, leads, h.of_standing same⟩

lemma enter_accords (state : InternalState) :
    (s.enter host state).record.Accords b ↔ ({ s.record with state } : Record).Accords b := by
  have same : (s.enter host state).record.standing = ({ s.record with state } : Record).standing :=
    enter_standing host state s
  exact ⟨fun h => h.of_standing same.symm, fun h => h.of_standing same⟩

/-! ## Reconciliation -/

lemma violate_tempered (h : s.record.Accords b) (v : Violation) : Tempered s b (s.violate v) :=
  .of_standing h ((Leads.refl s b).violate v) (violate_standing s v)

lemma suspend_tempered (host : Host) (h : s.record.Accords b) : Tempered s b (s.suspend host) := by
  have start := Leads.refl s b
  unfold suspend
  split
  · exact violate_tempered h _
  · rename_i running
    have active : s.record.state.isActive = true := by
      rw [Decidable.not_not.mp running]
      rfl
    obtain ⟨awake, process⟩ := h.active active
    split
    · exact violate_tempered h _
    · split
      · exact ⟨b, start.enter _, (enter_accords _).mpr ⟨awake, process⟩⟩
      · exact ⟨b, (start.log fun _ _ => rfl).enter _, (enter_accords _).mpr ⟨awake, process⟩⟩

/-- To undo a suspension, the process is woken if it was to be suspended. -/
lemma resume_tempered (host : Host) (h : s.record.Accords b) : Tempered s b (s.resume host) := by
  have start := Leads.refl s b
  -- a process that was to be suspended, or was so, is woken
  have woken : Tempered s b ((((s.enter host .running).call (.resume s.record.id)).update fun r =>
      { r with process := if r.process = .suspended then .running else r.process }).askSession
        .resume .resumeWithoutSession) := by
    have entered : Leads s b (s.enter host .running) b := start.enter .running
    have called := entered.callResume (enter_sameIdentity host s .running).id.symm
    refine ⟨false, (called.update rfl).askSession _ _, ?_⟩
    refine Record.Accords.of_standing ?_ (askSession_standing _ _ _)
    refine Record.accords_of_awake ?_
    show (if _ = _ then _ else _) ≠ ProcessState.suspended
    split
    · decide
    · assumption
  have running : s.record.state.isActive = true →
      (s.enter host .running).record.Accords b :=
    fun active => (enter_accords _).mpr (h.active active)
  unfold resume
  dsimp only
  split
  · exact woken
  · exact woken
  · rename_i state
    have entered := running (by rw [state]; rfl)
    exact ⟨b, (start.enter _).askSession _ _, entered.of_standing (askSession_standing _ _ _)⟩
  · rename_i state
    exact ⟨b, start.enter _, running (by rw [state]; rfl)⟩
  · exact violate_tempered h _

/-- A process that is launched in place of another one is not frozen. -/
lemma respawn_tempered (host : Host) (s : Scene) (b : Bool) : Tempered s b (s.respawn host) := by
  have started : Leads s b
      ((s.update fun r => { r with pid := 0, process := .unknown }).enter host .starting) b :=
    ((Leads.refl s b).update rfl).enter .starting
  have called := started.callStart rfl
    ((s.update fun r =>
      { r with pid := 0, process := .unknown }).enter host .starting).record.arguments
  unfold respawn
  dsimp only
  split
  · have unknown : ProcessState.unknown ≠ .suspended := by decide
    exact ⟨false, called, (enter_accords .starting).mpr ⟨rfl, unknown⟩⟩
  · exact ⟨false, (called.log fun _ _ => rfl).enter _, (enter_accords _).mpr trivial⟩

lemma reconcile_tempered (host : Host) (h : s.record.Accords b) :
    Tempered s b (s.reconcile host) := by
  have counted : Tempered s b (s.update fun r => { r with passes := r.passes + 1 }) :=
    .of_standing h ((Leads.refl s b).update rfl) rfl
  refine counted.trans fun c accords => ?_
  unfold reconcile
  dsimp only
  split
  · exact resume_tempered host accords
  · exact resume_tempered host accords
  · exact resume_tempered host accords
  · exact respawn_tempered host _ _
  · split
    · exact suspend_tempered host accords
    · exact ⟨c, .refl _ _, accords⟩
    · exact violate_tempered accords _
  · exact ⟨c, .refl _ _, accords⟩

/-! ## What the shell wants -/

lemma request_tempered (host : Host) (value : RequestedState) (h : s.record.Accords b) :
    Tempered s b (s.request host value) := by
  unfold request
  split
  · exact ⟨b, .refl s b, h⟩
  · have asked : Tempered s b (s.update fun r => { r with requested := value }) :=
      ⟨b, (Leads.refl s b).update rfl, h.of_same rfl rfl⟩
    exact asked.trans fun c accords => reconcile_tempered host accords

/-- A session can be asked to close where a report of suspension, if there is to be one, has not
come in. -/
lemma beginClose_tempered (host : Host) (h : s.record.Accords b)
    (process : s.record.process ≠ .suspended) : Tempered s b (s.beginClose host) := by
  unfold beginClose
  split
  · exact violate_tempered h _
  · split
    · exact violate_tempered h _
    · rename_i session _
      have told := ((Leads.refl s b).log (e := .ask session .close) fun _ _ => rfl).update
        (f := fun r => { r with timer := r.timer.arm host.now }) rfl
      exact ⟨b, told.enter _, (enter_accords _).mpr fun _ => process⟩

lemma forceStop_tempered (host : Host) (h : s.record.Accords b) :
    Tempered s b (s.forceStop host) := by
  have asked := ((Leads.refl s b).update (f := fun r => { r with timer := r.timer.cancel })
    rfl).log (e := .call (.stop s.record.id)) fun _ _ => rfl
  have still : ∀ {t : Scene}, Leads s b t b →
      t.record.standing = s.record.standing → Tempered s b t :=
    fun leads same => .of_standing h leads same
  unfold forceStop
  dsimp only
  split
  · exact still asked rfl
  · split
    · split
      · exact still (asked.log fun _ _ => rfl) rfl
      · exact still ((asked.log fun _ _ => rfl).log fun _ _ => rfl) rfl
    · split
      · exact ⟨b, asked.enter _, (enter_accords _).mpr trivial⟩
      · exact still asked rfl

lemma tick_tempered (host : Host) (now : Instant) (h : s.record.Accords b) :
    Tempered s b (s.tick host now).2 := by
  have polled : Tempered s b (s.update fun r => { r with timer := (s.record.timer.poll now).2 }) :=
    .of_standing h ((Leads.refl s b).update rfl) rfl
  unfold tick
  dsimp only
  split
  · exact polled.trans fun c accords => forceStop_tempered host accords
  · exact polled

lemma setExempt_tempered (host : Host) (exempt : Bool) (h : s.record.Accords b) :
    Tempered s b (s.setExempt host exempt) := by
  unfold setExempt
  split
  · exact ⟨b, .refl s b, h⟩
  · refine ⟨b, .of_journal ?_ ?_, ?_⟩
    · rw [syncWakelock_record]
      rfl
    · exact syncWakelock_journal host _
    · rw [syncWakelock_record]
      exact h.of_same rfl rfl

lemma setStage_tempered (stage : Stage) (h : s.record.Accords b) :
    Tempered s b (s.setStage stage).2 := by
  unfold setStage
  split
  · exact .of_standing h ((Leads.refl s b).update rfl) rfl
  · exact ⟨b, .refl s b, h⟩

/-- An application that was suspended, or was to be, runs once it is asked to, or is about to be
suspended still. -/
lemma request_running_state (host : Host) (awake : s.record.Awake)
    (state : s.record.state = .runningInBackground ∨ s.record.state = .suspendingWaitSession ∨
      s.record.state = .suspendingWaitProcess ∨ s.record.state = .suspended) :
    (s.request host .running).record.state = .running ∨
      (s.request host .running).record.state = .suspendingWaitProcess := by
  unfold request
  split
  · rename_i already
    obtain ⟨background, waiting, suspended⟩ := awake already
    obtain h | h | h | h := state
    · exact absurd h background
    · exact absurd h waiting
    · exact .inr h
    · exact absurd h suspended
  · have still : ((s.update fun r => { r with requested := .running }).update fun r =>
        { r with passes := r.passes + 1 }).record.state = s.record.state := rfl
    unfold reconcile
    dsimp only
    split
    · rename_i _ background
      exact .inl (resume_running host (.inl background)).2
    · rename_i _ waiting
      exact .inl (resume_running host (.inr (.inl waiting))).2
    · rename_i _ suspended
      exact .inl (resume_running host (.inr (.inr suspended))).2
    · rename_i _ gone
      rw [← still, gone] at state
      obtain h | h | h | h := state <;> cases h
    · rename_i requested _
      cases requested
    · rename_i background waiting suspended _ _
      rw [← still] at state
      obtain h | h | h | h := state
      · exact absurd h (background rfl)
      · exact absurd h (waiting rfl)
      · exact .inr h
      · exact absurd h (suspended rfl)

/-- A suspended application is woken before it is closed; one that waits for its process to be
suspended is closed at once, and woken when the report comes in. -/
lemma close_tempered (host : Host) (h : s.record.Accords b) (awake : s.record.Awake) :
    Tempered s b (s.close host) := by
  have woken : (s.record.state = .runningInBackground ∨ s.record.state = .suspendingWaitSession ∨
      s.record.state = .suspendingWaitProcess ∨ s.record.state = .suspended) →
      Tempered s b ((s.request host .running).beginClose host) := by
    intro state
    have after := request_running_state host awake state
    refine (request_tempered host .running h).trans fun c accords => ?_
    refine beginClose_tempered host accords ?_
    obtain running | waiting := after
    · exact (accords.active (by rw [running]; rfl)).2
    · unfold Record.Accords at accords
      rw [waiting] at accords
      exact accords
  unfold close
  split
  · exact forceStop_tempered host h
  · rename_i running
    exact beginClose_tempered host h (h.active (by rw [running]; rfl)).2
  · rename_i state
    exact woken (.inl state)
  · rename_i state
    exact woken (.inr (.inl state))
  · rename_i state
    exact woken (.inr (.inr (.inl state)))
  · rename_i state
    exact woken (.inr (.inr (.inr state)))
  · exact ⟨b, .refl s b, h⟩
  · exact ⟨b, (Leads.refl s b).enter _, (enter_accords _).mpr trivial⟩
  · exact ⟨b, .refl s b, h⟩

/-! ## What the process does -/

lemma checkSessionStopped_leads (host : Host) (violation : SessionState → Violation)
    (h : Leads s b t c) : Leads s b (t.checkSessionStopped host violation) c ∧
      (t.checkSessionStopped host violation).record.standing = t.record.standing := by
  unfold checkSessionStopped
  split
  · exact ⟨h, rfl⟩
  · split
    · exact ⟨h, rfl⟩
    · exact ⟨h.violate _, violate_standing t _⟩

/-- A process that is reported to run in place of one that is gone must not be frozen. -/
lemma onProcess_tempered (host : Host) (process : ProcessState) (h : s.record.Accords b)
    (restarted : process = .running → s.record.state = .stoppedResumable →
      s.record.process ≠ .running → b = false) :
    Tempered s b (s.onProcess host process) := by
  unfold onProcess
  split
  · exact ⟨b, .refl s b, h⟩
  · rename_i news
    have noted : Leads s b (s.update fun r => { r with process }) b := (Leads.refl s b).update rfl
    have accords : process ≠ .suspended →
        (s.update fun r => { r with process }).record.Accords b :=
      fun known => Record.Accords.of_process h rfl known
    refine Tempered.trans ?_ fun c accords => reconcile_tempered host accords
    cases process with
    | unknown => exact ⟨b, noted.violate _, (accords (by decide)).of_standing rfl⟩
    | running =>
      dsimp only
      split
      · rename_i gone
        have running : ProcessState.running ≠ .suspended := by decide
        have awake := restarted rfl gone news
        exact ⟨b, noted.enter _, (enter_accords .starting).mpr ⟨awake, running⟩⟩
      · exact ⟨b, noted, accords (by decide)⟩
    | suspended =>
      dsimp only
      split
      · rename_i closing
        refine ⟨false, noted.callResume rfl, ?_⟩
        unfold Record.Accords
        rw [call_record, closing]
        exact fun frozen => absurd frozen Bool.false_ne_true
      · exact ⟨b, noted.enter _, (enter_accords .suspended).mpr trivial⟩
    | failed =>
      obtain ⟨checked, same⟩ := checkSessionStopped_leads host .failedInSession noted
      have still := (accords (by decide)).of_standing same
      dsimp only
      split
      · exact ⟨b, checked.enter _, (enter_accords .stopped).mpr trivial⟩
      · exact ⟨b, checked, still⟩
      · exact ⟨b, checked, still⟩
      · exact ⟨b, checked.violate _, still.of_standing (violate_standing _ _)⟩
    | stopped =>
      obtain ⟨checked, same⟩ := checkSessionStopped_leads host .stoppedInSession noted
      have still := (accords (by decide)).of_standing same
      have ended : ∀ t : Scene, Leads s b t b → Tempered s b (t.enter host .stopped) :=
        fun t leads => ⟨b, leads.enter _, (enter_accords .stopped).mpr trivial⟩
      dsimp only
      split
      · exact ended _ checked
      · exact ended _ checked
      · exact ended _ checked
      · exact ended _ checked
      · exact ⟨b, checked, still⟩
      · exact ⟨b, checked.violate _, still.of_standing (violate_standing _ _)⟩

lemma reconcile_starting (host : Host) (h : s.record.state = .starting) :
    (s.reconcile host).record.state = .starting := by
  rw [reconcile_of_state host (.inl h)]
  exact h

/-- Where a process is reported to run, a record that starts goes on to, and one whose process is
gone starts. -/
lemma onProcess_running_state (host : Host) (h : s.record.state = .starting ∨
    s.record.state = .stoppedResumable ∧ s.record.process ≠ .running) :
    (s.onProcess host .running).record.state = .starting := by
  unfold onProcess
  split
  · rename_i known
    obtain starting | ⟨-, news⟩ := h
    · exact starting
    · exact absurd known news
  · refine reconcile_starting host ?_
    dsimp only
    split
    · exact enter_state _ _ _
    · rename_i present
      obtain starting | ⟨gone, -⟩ := h
      · exact starting
      · exact absurd gone present

/-! ## What the session does -/

/-- The process is suspended once the session has been, and woken if the session ends meanwhile. -/
lemma onSession_tempered (host : Host) (session : SessionState) (h : s.record.Accords b) :
    Tempered s b (s.onSession host session) := by
  have start := Leads.refl s b
  unfold onSession
  split
  · exact ⟨b, start, h⟩
  · exact ⟨b, start, h⟩
  · split
    · rename_i starting
      have entered : Tempered s b (s.enter host .running) := by
        have active := h.active (by rw [starting]; rfl)
        exact ⟨b, start.enter _, (enter_accords .running).mpr active⟩
      exact entered.trans fun c accords => reconcile_tempered host accords
    · exact ⟨b, start, h⟩
  · split
    · rename_i waiting
      obtain ⟨-, process⟩ := h.active (by rw [waiting]; rfl)
      have entered : (s.enter host .suspendingWaitProcess).record.Accords true :=
        (enter_accords .suspendingWaitProcess).mpr process
      exact ⟨true, (start.enter _).callSuspend (enter_sameIdentity host s _).id.symm, entered⟩
    · exact violate_tempered h _
  · split
    · rename_i waiting
      have process : s.record.process ≠ .suspended := by
        unfold Record.Accords at h
        rw [waiting.1] at h
        exact h
      obtain ⟨c, leads, accords⟩ := beginClose_tempered host h process
      exact ⟨false, leads.callResume leads.1.symm, accords.thaw⟩
    · split
      · exact ⟨b, start.enter _, (enter_accords .stopped).mpr trivial⟩
      · exact ⟨b, start.enter _, (enter_accords .stoppedResumable).mpr trivial⟩

lemma letGoSession_leads (h : Leads s b t c) : Leads s b t.letGoSession c := by
  unfold letGoSession
  split
  · exact h
  · exact (h.update rfl).log fun _ _ => rfl

lemma letGoSession_accords (h : s.record.Accords b) : s.letGoSession.record.Accords b := by
  rw [letGoSession_record]
  exact h.of_same rfl rfl

lemma attach_tempered (session : Session) (h : s.record.Accords b) :
    Tempered s b (s.attach session) := by
  have told := ((letGoSession_leads (Leads.refl s b)).update
    (f := fun r => { r with session := some session }) rfl).log
      (e := .ask session (greeting s.letGoSession.record.state)) fun _ _ => rfl
  exact ⟨b, told, (letGoSession_accords h).of_same rfl rfl⟩

lemma hear_tempered (host : Host) (state : SessionState) (h : s.record.Accords b) :
    Tempered s b (s.hear host state) := by
  have heard := onSession_tempered host state h
  unfold hear
  dsimp only
  split
  · refine heard.trans fun c accords => ?_
    unfold detach
    split
    · exact ⟨c, letGoSession_leads (.refl _ c), letGoSession_accords accords⟩
    · exact violate_tempered accords _
  · exact heard

end Scene

end AppLifecycle
