import AppLifecycle.Proofs.Scene.Moves

/-!
# Records in line with what is requested

`Reconciled` says that a record is in none of the states that what is requested should have taken
it out of. Reconciliation establishes it from any state, and all but two operations end with a
reconciliation, in a state that has nothing to be reconciled, or leave alone what it is about
(`InLine`). The other two are the end of the session and the beginning of one.
-/

namespace AppLifecycle

namespace Record

/-- The record is in none of the states that what is requested should have taken it out of. -/
structure Reconciled (r : Record) : Prop where
  resumed : r.requested = .running →
    r.state ≠ .runningInBackground ∧ r.state ≠ .suspendingWaitSession ∧ r.state ≠ .suspended ∧
      r.state ≠ .stoppedResumable
  suspended : r.requested = .suspended → r.session.isSome = true → r.process = .running →
    r.state ≠ .running

instance (r : Record) : Decidable r.Reconciled :=
  decidable_of_iff ((r.requested = .running →
      r.state ≠ .runningInBackground ∧ r.state ≠ .suspendingWaitSession ∧ r.state ≠ .suspended ∧
        r.state ≠ .stoppedResumable) ∧
    (r.requested = .suspended → r.session.isSome = true → r.process = .running →
      r.state ≠ .running))
    ⟨fun h => ⟨h.1, h.2⟩, fun h => ⟨h.1, h.2⟩⟩

/-- A record that should run is not in the middle of a suspension that could be taken back. -/
def Awake (r : Record) : Prop :=
  r.requested = .running →
    r.state ≠ .runningInBackground ∧ r.state ≠ .suspendingWaitSession ∧ r.state ≠ .suspended

/-- All that reconciliation looks at. -/
def standing (r : Record) : RequestedState × InternalState × Option Session × ProcessState :=
  (r.requested, r.state, r.session, r.process)

/-- With the session the application is over, unless its process was seen and the session did not
run. -/
def isOver (r : Record) : Bool :=
  !r.canBeResumed || r.state = .starting || r.state = .running || r.state = .closing

/-- The suspension was taken back after the session had been suspended, so that the application is
to run as soon as its process has been suspended too; but the process has failed. -/
def Stuck (r : Record) : Prop :=
  r.requested = .running ∧ r.state = .suspendingWaitProcess ∧ r.process = .failed

instance (r : Record) : Decidable r.Stuck := inferInstanceAs (Decidable (_ ∧ _ ∧ _))

/-- The application is to be suspended, and only a session is missing. -/
def AwaitsSession (r : Record) : Prop :=
  r.requested = .suspended ∧ r.state = .running ∧ r.process = .running

instance (r : Record) : Decidable r.AwaitsSession := inferInstanceAs (Decidable (_ ∧ _ ∧ _))

variable {r q : Record}

lemma standing_inj :
    q.standing = r.standing ↔ q.requested = r.requested ∧ q.state = r.state ∧
      q.session = r.session ∧ q.process = r.process := by
  simp only [standing, Prod.mk.injEq]

lemma Reconciled.of_standing (h : r.Reconciled) (same : q.standing = r.standing) :
    q.Reconciled := by
  obtain ⟨requested, state, session, process⟩ := standing_inj.mp same
  refine ⟨?_, ?_⟩
  · rw [requested, state]
    exact h.resumed
  · rw [requested, state, session, process]
    exact h.suspended

lemma Reconciled.awake (h : r.Reconciled) : r.Awake := fun running =>
  ⟨(h.resumed running).1, (h.resumed running).2.1, (h.resumed running).2.2.1⟩

/-- In these states there is nothing that a request could change. -/
lemma Reconciled.of_state (h : r.state = .starting ∨ r.state = .suspendingWaitProcess ∨
    r.state = .closing ∨ r.state = .stopped) : r.Reconciled := by
  refine ⟨fun _ => ?_, fun _ _ _ => ?_⟩
  · rcases h with h | h | h | h <;> rw [h] <;> decide
  · rcases h with h | h | h | h <;> rw [h] <;> decide

lemma Reconciled.of_running (requested : r.requested = .running) (state : r.state = .running) :
    r.Reconciled := by
  refine ⟨fun _ => ?_, fun suspended => ?_⟩
  · rw [state]
    decide
  · rw [requested] at suspended
    cases suspended

lemma Stuck.isOver (h : r.Stuck) : r.isOver = false := by
  unfold Record.isOver canBeResumed
  rw [h.2.1, h.2.2]
  decide

/-- Of the states that do not end with the session, only one is left where the application should
run. -/
lemma Reconciled.suspending (h : r.Reconciled) (running : r.requested = .running)
    (tracked : r.state ≠ .stopped) (goesOn : r.isOver = false) :
    r.state = .suspendingWaitProcess := by
  obtain ⟨background, waiting, suspended, gone⟩ := h.resumed running
  unfold isOver at goesOn
  cases hstate : r.state <;> simp_all

end Record

/-- The state that a report on its process takes a record into, before it is reconciled. -/
def ProcessState.leadsTo : ProcessState → InternalState → InternalState
  | .running, .stoppedResumable => .starting
  | .suspended, .closing => .closing
  | .suspended, _ => .suspended
  | .failed, .starting => .stopped
  | .stopped, .starting => .stopped
  | .stopped, .stoppedResumable => .stopped
  | .stopped, .closing => .stopped
  | .stopped, .suspendingWaitProcess => .stopped
  | _, state => state

namespace Scene

variable {host : Host} {s t u : Scene}

/-! ## What single steps do -/

lemma enter_standing (host : Host) (state : InternalState) (s : Scene) :
    (s.enter host state).record.standing =
      (s.record.requested, state, s.record.session, s.record.process) := by
  unfold enter
  by_cases h : s.record.state = state
  · rw [if_pos h, ← h]
    rfl
  · rw [if_neg h, syncWakelock_record]
    rfl

@[simp] lemma enter_state (host : Host) (state : InternalState) (s : Scene) :
    (s.enter host state).record.state = state :=
  congrArg (fun p => p.2.1) (enter_standing host state s)

@[simp] lemma enter_requested (host : Host) (state : InternalState) (s : Scene) :
    (s.enter host state).record.requested = s.record.requested :=
  congrArg Prod.fst (enter_standing host state s)

@[simp] lemma enter_process (host : Host) (state : InternalState) (s : Scene) :
    (s.enter host state).record.process = s.record.process :=
  congrArg (fun p => p.2.2.2) (enter_standing host state s)

@[simp] lemma syncWakelock_journal (host : Host) (s : Scene) :
    (s.syncWakelock host).journal = s.journal := by
  unfold syncWakelock
  split <;> rfl

@[simp] lemma enter_journal (host : Host) (state : InternalState) (s : Scene) :
    (s.enter host state).journal = s.journal := by
  unfold enter
  split
  · rfl
  · exact syncWakelock_journal host _

@[simp] lemma log_record (s : Scene) (e : Effect) : (s.log e).record = s.record := rfl

@[simp] lemma call_record (s : Scene) (c : ControllerCall) : (s.call c).record = s.record := rfl

@[simp] lemma violate_standing (s : Scene) (v : Violation) :
    (s.violate v).record.standing = s.record.standing := rfl

lemma askSession_standing (s : Scene) (action : SessionAction) (absent : Violation) :
    (s.askSession action absent).record.standing = s.record.standing := by
  unfold askSession
  split <;> rfl

lemma checkSessionStopped_standing (host : Host) (violation : SessionState → Violation)
    (s : Scene) : (s.checkSessionStopped host violation).record.standing = s.record.standing := by
  unfold checkSessionStopped
  split
  · rfl
  · split <;> rfl

lemma setExempt_standing (host : Host) (exempt : Bool) (s : Scene) :
    (s.setExempt host exempt).record.standing = s.record.standing := by
  unfold setExempt
  split
  · rfl
  · rw [syncWakelock_record]
    rfl

lemma setStage_standing (stage : Stage) (s : Scene) :
    (s.setStage stage).2.record.standing = s.record.standing := by
  unfold setStage
  split <;> rfl

/-- What the failure of its process does to a record, after its session has been looked at. -/
def heedFailure (host : Host) (s : Scene) : Scene :=
  match s.record.state with
  | .starting => s.enter host .stopped
  | .stopped => s
  | .stoppedResumable => s
  | state => s.violate (.processFailed state)

/-- What the end of its process does to a record, after its session has been looked at. -/
def heedEnd (host : Host) (s : Scene) : Scene :=
  match s.record.state with
  | .starting => s.enter host .stopped
  | .stoppedResumable => s.enter host .stopped
  | .closing => s.enter host .stopped
  | .suspendingWaitProcess => s.enter host .stopped
  | .stopped => s
  | state => s.violate (.processStopped state)

/-- What a change of the process does before the record is reconciled. -/
def heedProcess (host : Host) (process : ProcessState) (s : Scene) : Scene :=
  match process with
  | .unknown => s.violate .processUnknown
  | .running => if s.record.state = .stoppedResumable then s.enter host .starting else s
  | .suspended =>
    if s.record.state = .closing then s.call (.resume s.record.id) else s.enter host .suspended
  | .failed => (s.checkSessionStopped host .failedInSession).heedFailure host
  | .stopped => (s.checkSessionStopped host .stoppedInSession).heedEnd host

lemma onProcess_eq (host : Host) (process : ProcessState) (s : Scene) :
    s.onProcess host process = if s.record.process = process then s
      else ((s.update fun r => { r with process }).heedProcess host process).reconcile host := rfl

lemma heedFailure_standing (host : Host) (s : Scene) :
    (s.heedFailure host).record.standing = (s.record.requested,
      ProcessState.failed.leadsTo s.record.state, s.record.session, s.record.process) := by
  unfold heedFailure
  cases state : s.record.state with
  | starting => exact enter_standing host .stopped s
  | _ => exact congrArg (fun x => (s.record.requested, x, s.record.session, _)) state

lemma heedEnd_standing (host : Host) (s : Scene) :
    (s.heedEnd host).record.standing = (s.record.requested,
      ProcessState.stopped.leadsTo s.record.state, s.record.session, s.record.process) := by
  unfold heedEnd
  cases state : s.record.state with
  | starting | stoppedResumable | closing | suspendingWaitProcess =>
    exact enter_standing host .stopped s
  | _ => exact congrArg (fun x => (s.record.requested, x, s.record.session, _)) state

/-- A report on the process takes the record into a state. -/
lemma heedProcess_standing (host : Host) (process : ProcessState) (s : Scene) :
    (s.heedProcess host process).record.standing = (s.record.requested,
      process.leadsTo s.record.state, s.record.session, s.record.process) := by
  have stays : process.leadsTo s.record.state = s.record.state → s.record.standing =
      (s.record.requested, process.leadsTo s.record.state, s.record.session, s.record.process) :=
    fun same => same.symm ▸ rfl
  unfold heedProcess
  cases process with
  | unknown => exact stays rfl
  | running =>
    dsimp only
    split
    · rename_i gone
      rw [gone]
      exact enter_standing host .starting s
    · rename_i other
      refine stays ?_
      cases state : s.record.state <;> first | rfl | exact absurd state other
  | suspended =>
    dsimp only
    split
    · rename_i closing
      exact stays (by rw [closing]; rfl)
    · rename_i other
      refine (enter_standing host .suspended s).trans ?_
      cases state : s.record.state <;> first | rfl | exact absurd state other
  -- what is reported on the session does not change what reconciliation looks at
  | failed =>
    have checked := checkSessionStopped_standing host .failedInSession s
    obtain ⟨requested, state, session, process⟩ := Record.standing_inj.mp checked
    refine (heedFailure_standing host _).trans ?_
    rw [requested, state, session, process]
  | stopped =>
    have checked := checkSessionStopped_standing host .stoppedInSession s
    obtain ⟨requested, state, session, process⟩ := Record.standing_inj.mp checked
    refine (heedEnd_standing host _).trans ?_
    rw [requested, state, session, process]

/-- A report on the process takes the record into a state, and the record is reconciled then. -/
lemma onProcess_reconciles (host : Host) {process : ProcessState}
    (news : s.record.process ≠ process) : ∃ t : Scene, s.onProcess host process = t.reconcile host ∧
      t.record.standing = (s.record.requested, process.leadsTo s.record.state, s.record.session,
        process) := by
  rw [onProcess_eq, if_neg news]
  exact ⟨_, rfl, heedProcess_standing host process _⟩

/-! ## Reconciliation -/

/-- A resumed record runs, whatever of the suspension had been done. -/
lemma resume_running (host : Host) (h : s.record.state = .runningInBackground ∨
      s.record.state = .suspendingWaitSession ∨ s.record.state = .suspended) :
    (s.resume host).record.requested = s.record.requested ∧
      (s.resume host).record.state = .running := by
  unfold resume
  rcases h with h | h | h
  · rw [h]
    exact ⟨enter_requested _ _ _, enter_state _ _ _⟩
  · rw [h]
    obtain ⟨requested, state, -, -⟩ := Record.standing_inj.mp
      (askSession_standing (s.enter host .running) .resume .resumeWithoutSession)
    exact ⟨requested.trans (enter_requested _ _ _), state.trans (enter_state _ _ _)⟩
  · rw [h]
    obtain ⟨requested, state, -, -⟩ := Record.standing_inj.mp (askSession_standing
      (((s.enter host .running).call (.resume s.record.id)).update fun r =>
        { r with process := if r.process = .suspended then .running else r.process })
      .resume .resumeWithoutSession)
    exact ⟨requested.trans (enter_requested _ _ _), state.trans (enter_state _ _ _)⟩

lemma respawn_state (host : Host) (s : Scene) :
    (s.respawn host).record.state = .starting ∨ (s.respawn host).record.state = .stopped := by
  unfold respawn
  dsimp only
  split
  · exact .inl (enter_state _ _ _)
  · exact .inr (enter_state _ _ _)

lemma respawn_requested (host : Host) (s : Scene) :
    (s.respawn host).record.requested = s.record.requested := by
  unfold respawn
  dsimp only
  split
  · exact enter_requested _ _ _
  · exact (enter_requested _ _ _).trans (enter_requested _ _ _)

lemma suspend_reconciled (requested : s.record.requested = .suspended)
    (state : s.record.state = .running) : (s.suspend host).record.Reconciled := by
  unfold suspend
  rw [if_neg (not_not_intro state)]
  cases hsession : s.record.session with
  | none =>
    refine ⟨fun running => ?_, fun _ some => ?_⟩
    · rw [show (s.violate .suspendWithoutSession).record.requested = .suspended from requested]
        at running
      cases running
    · rw [show (s.violate .suspendWithoutSession).record.session = none from hsession] at some
      cases some
  | some session =>
    dsimp only
    split
    · refine ⟨fun running => ?_, fun _ _ _ => ?_⟩
      · rw [enter_requested, requested] at running
        cases running
      · rw [enter_state]
        decide
    · refine ⟨fun running => ?_, fun _ _ _ => ?_⟩
      · rw [enter_requested, log_record, requested] at running
        cases running
      · rw [enter_state]
        decide

/-- Reconciliation leaves nothing to be done, whatever the state was. -/
theorem reconcile_reconciled (host : Host) (s : Scene) : (s.reconcile host).record.Reconciled := by
  have resumed : ∀ t : Scene, t.record.requested = .running →
      (t.record.state = .runningInBackground ∨ t.record.state = .suspendingWaitSession ∨
        t.record.state = .suspended) → (t.resume host).record.Reconciled := by
    intro t requested state
    obtain ⟨same, running⟩ := resume_running host state
    exact .of_running (same.trans requested) running
  unfold reconcile
  generalize s.update (fun r => { r with passes := r.passes + 1 }) = t
  dsimp only
  split
  · rename_i requested state
    exact resumed t requested (.inl state)
  · rename_i requested state
    exact resumed t requested (.inr (.inl state))
  · rename_i requested state
    exact resumed t requested (.inr (.inr state))
  · -- a launch that fails ends the application, which is in line as well
    obtain state | state := respawn_state host t
    · exact .of_state (.inl state)
    · exact .of_state (.inr (.inr (.inr state)))
  · rename_i requested state
    -- a record that is not suspended now has no running process
    have unready : t.record.process ≠ .running → t.record.Reconciled := by
      intro process
      refine ⟨fun running => ?_, fun _ _ running => absurd running process⟩
      rw [requested] at running
      cases running
    split
    · exact suspend_reconciled requested state
    · rename_i process
      refine unready ?_
      rw [process]
      decide
    · rename_i running _
      exact (unready running).of_standing (violate_standing _ _)
  · rename_i background waiting suspended gone running
    exact ⟨fun h => ⟨background h, waiting h, suspended h, gone h⟩, fun h _ _ => running h⟩

/-- What was asked for is still asked for after reconciliation. -/
lemma reconcile_running (host : Host) (h : s.record.requested = .running) :
    (s.reconcile host).record.requested = .running := by
  have still : (s.update fun r => { r with passes := r.passes + 1 }).record.requested = .running :=
    h
  unfold reconcile
  generalize s.update (fun r => { r with passes := r.passes + 1 }) = t at still
  dsimp only
  split
  · rename_i requested state
    exact (resume_running host (.inl state)).1.trans requested
  · rename_i requested state
    exact (resume_running host (.inr (.inl state))).1.trans requested
  · rename_i requested state
    exact (resume_running host (.inr (.inr state))).1.trans requested
  · rename_i requested state
    exact (respawn_requested host t).trans requested
  · rename_i requested state
    rw [still] at requested
    cases requested
  · exact still

/-- In these states a pass is counted, and nothing else happens. -/
lemma reconcile_of_state (host : Host) (h : s.record.state = .starting ∨
      s.record.state = .suspendingWaitProcess ∨ s.record.state = .closing ∨
      s.record.state = .stopped) :
    s.reconcile host = s.update fun r => { r with passes := r.passes + 1 } := by
  have counted : (s.update fun r => { r with passes := r.passes + 1 }).record.state =
      s.record.state := rfl
  unfold reconcile
  dsimp only
  rcases h with h | h | h | h <;> rw [counted, h] <;> split <;> simp_all

/-! ## Operations that keep a record in line -/

/-- Either what reconciliation looks at is as it was, or there is nothing left to be done. -/
def InLine (s t : Scene) : Prop :=
  t.record.standing = s.record.standing ∨ t.record.Reconciled

lemma InLine.refl (s : Scene) : s.InLine s := .inl rfl

lemma InLine.of_eq (h : t.record.standing = s.record.standing) : s.InLine t := .inl h

lemma InLine.trans (h : s.InLine t) (h' : t.InLine u) : s.InLine u := by
  obtain same | done := h'
  · obtain before | done := h
    · exact .inl (same.trans before)
    · exact .inr (done.of_standing same)
  · exact .inr done

lemma InLine.reconciled (h : s.InLine t) (hs : s.record.Reconciled) : t.record.Reconciled := by
  obtain same | done := h
  · exact hs.of_standing same
  · exact done

lemma InLine.awake (h : s.InLine t) (hs : s.record.Awake) : t.record.Awake := by
  obtain same | done := h
  · obtain ⟨requested, state, -, -⟩ := Record.standing_inj.mp same
    unfold Record.Awake
    rw [requested, state]
    exact hs
  · exact done.awake

lemma inLine_enter {state : InternalState} (h : state = .starting ∨
    state = .suspendingWaitProcess ∨ state = .closing ∨ state = .stopped) :
    s.InLine (s.enter host state) := by
  refine .inr (.of_state ?_)
  rw [enter_state]
  exact h

lemma inLine_request (value : RequestedState) : s.InLine (s.request host value) := by
  unfold request
  split
  · exact .refl s
  · exact .inr (reconcile_reconciled _ _)

lemma inLine_setExempt (exempt : Bool) : s.InLine (s.setExempt host exempt) :=
  .of_eq (setExempt_standing host exempt s)

lemma inLine_setStage (stage : Stage) : s.InLine (s.setStage stage).2 :=
  .of_eq (setStage_standing stage s)

lemma inLine_updateScreenshot : s.InLine s.updateScreenshot := .of_eq rfl

lemma inLine_setPid (pid : Nat) : s.InLine (s.setPid pid) := .of_eq rfl

lemma inLine_beginClose : s.InLine (s.beginClose host) := by
  unfold beginClose
  split
  · exact .of_eq rfl
  · split
    · exact .of_eq rfl
    · refine .inr (.of_state (.inr (.inr (.inl ?_))))
      exact enter_state _ _ _

lemma inLine_forceStop : s.InLine (s.forceStop host) := by
  unfold forceStop
  dsimp only
  split
  · exact .of_eq rfl
  · split
    · split
      · exact .of_eq rfl
      · exact .of_eq rfl
    · split
      · exact .inr (.of_state (.inr (.inr (.inr (enter_state _ _ _)))))
      · exact .of_eq rfl

lemma inLine_close : s.InLine (s.close host) := by
  have woken : s.InLine ((s.request host .running).beginClose host) :=
    (inLine_request .running).trans inLine_beginClose
  unfold close
  split
  · exact inLine_forceStop
  · exact inLine_beginClose
  · exact woken
  · exact woken
  · exact woken
  · exact woken
  · exact .refl s
  · exact inLine_enter (.inr (.inr (.inr rfl)))
  · exact .refl s

lemma inLine_tick (now : Instant) : s.InLine (s.tick host now).2 := by
  unfold tick
  dsimp only
  split
  · exact (InLine.of_eq rfl : s.InLine (s.update fun r => { r with timer := _ })).trans
      inLine_forceStop
  · exact .of_eq rfl

lemma inLine_onProcess (process : ProcessState) : s.InLine (s.onProcess host process) := by
  unfold onProcess
  split
  · exact .refl s
  · exact .inr (reconcile_reconciled _ _)

/-- A session that goes on keeps its record in line. -/
lemma inLine_hear {state : SessionState} (h : state ≠ .stopped) : s.InLine (s.hear host state) := by
  unfold hear
  dsimp only
  rw [if_neg fun stopped => h stopped.1]
  unfold onSession
  split
  · exact .refl s
  · exact .refl s
  · split
    · exact .inr (reconcile_reconciled _ _)
    · exact .refl s
  · split
    · exact inLine_enter (.inr (.inl rfl))
    · exact .of_eq rfl
  · exact absurd rfl h

/-! ## The end and the beginning of a session -/

lemma letGoSession_record (s : Scene) :
    s.letGoSession.record = { s.record with session := none } := by
  unfold letGoSession
  cases h : s.record.session with
  | none =>
    dsimp only
    rw [← h]
  | some session => rfl

lemma detach_record (h : s.record.state = .stopped ∨ s.record.state = .stoppedResumable) :
    s.detach.record = { s.record with session := none } := by
  unfold detach
  rw [if_pos h]
  exact letGoSession_record s

/-- A session that ends while its process is being suspended has its application closed. -/
lemma hear_stopped_closes (host : Host) (state : s.record.state = .suspendingWaitProcess)
    (process : s.record.process ≠ .failed) :
    (s.hear host .stopped).record.state = .suspendingWaitProcess ∨
      (s.hear host .stopped).record.state = .closing := by
  have heard : s.onSession host .stopped = (s.beginClose host).call (.resume s.record.id) :=
    if_pos ⟨state, process⟩
  have closing : (s.onSession host .stopped).record.state = .suspendingWaitProcess ∨
      (s.onSession host .stopped).record.state = .closing := by
    rw [heard, call_record]
    unfold beginClose
    split
    · exact .inl state
    · split
      · exact .inl state
      · exact .inr (enter_state _ _ _)
  unfold hear
  dsimp only
  rw [if_neg]
  · exact closing
  · rintro ⟨-, ended⟩
    obtain state | state := closing <;> rw [state] at ended <;> revert ended <;> decide

lemma hear_stopped_suspending (state : s.record.state = .suspendingWaitProcess)
    (process : s.record.process ≠ .failed) : (s.hear host .stopped).record.Reconciled := by
  obtain state | state := hear_stopped_closes host state process
  · exact .of_state (.inr (.inl state))
  · exact .of_state (.inr (.inr (.inl state)))

/-- Otherwise the application is over, or can be launched again; that it should run is no reason
for it to be launched again now. -/
lemma hear_stopped_standing (host : Host)
    (h : ¬(s.record.state = .suspendingWaitProcess ∧ s.record.process ≠ .failed)) :
    (s.hear host .stopped).record.standing =
      (s.record.requested, if s.record.isOver then .stopped else .stoppedResumable, none,
        s.record.process) := by
  have heard : s.onSession host .stopped =
      s.enter host (if s.record.isOver then .stopped else .stoppedResumable) := by
    refine (if_neg h).trans ?_
    unfold Record.isOver
    split <;> rfl
  have ended : (s.onSession host .stopped).record.state = .stopped ∨
      (s.onSession host .stopped).record.state = .stoppedResumable := by
    rw [heard, enter_state]
    split
    · exact .inl rfl
    · exact .inr rfl
  have entered := enter_standing host (if s.record.isOver then .stopped else .stoppedResumable) s
  rw [← heard] at entered
  simp only [Record.standing, Prod.mk.injEq] at entered
  obtain ⟨requested, state, -, process⟩ := entered
  unfold hear
  dsimp only
  rw [if_pos ⟨rfl, ended⟩, detach_record ended]
  show (_, _, none, _) = _
  rw [requested, state, process]

lemma hear_stopped_over (host : Host)
    (h : ¬(s.record.state = .suspendingWaitProcess ∧ s.record.process ≠ .failed)) :
    (s.hear host .stopped).record.requested = s.record.requested ∧
      (s.hear host .stopped).record.state =
        (if s.record.isOver then .stopped else .stoppedResumable) ∧
      (s.hear host .stopped).record.session = none := by
  have standing := hear_stopped_standing host h
  simp only [Record.standing, Prod.mk.injEq] at standing
  exact ⟨standing.1, standing.2.1, standing.2.2.1⟩

/-- If an application can be launched again after its session has ended, it was not over, and its
process had failed if it was to be suspended next. -/
lemma hear_stopped_gone (host : Host)
    (gone : (s.hear host .stopped).record.state = .stoppedResumable) :
    s.record.isOver = false ∧
      (s.record.state = .suspendingWaitProcess → s.record.process = .failed) ∧
      (s.hear host .stopped).record.requested = s.record.requested ∧
      (s.hear host .stopped).record.process = s.record.process := by
  by_cases suspending : s.record.state = .suspendingWaitProcess ∧ s.record.process ≠ .failed
  · obtain state | state := hear_stopped_closes host suspending.1 suspending.2
    · rw [state] at gone
      cases gone
    · rw [state] at gone
      cases gone
  · have standing := hear_stopped_standing host suspending
    simp only [Record.standing, Prod.mk.injEq] at standing
    obtain ⟨requested, state, -, process⟩ := standing
    refine ⟨?_, fun waits => ?_, requested, process⟩
    · cases final : s.record.isOver with
      | true =>
        rw [state, if_pos final] at gone
        cases gone
      | false => rfl
    · by_cases failed : s.record.process = .failed
      · exact failed
      · exact absurd ⟨waits, failed⟩ suspending

/-- An application whose session has ended is not suspended. -/
lemma hear_stopped_awake (host : Host) (s : Scene) : (s.hear host .stopped).record.Awake := by
  by_cases suspending : s.record.state = .suspendingWaitProcess ∧ s.record.process ≠ .failed
  · exact (hear_stopped_suspending suspending.1 suspending.2).awake
  · obtain ⟨-, state, -⟩ := hear_stopped_over host suspending
    intro _
    rw [state]
    split <;> decide

/-- The end of its session leaves a record unreconciled in one situation only. -/
theorem hear_stopped_reconciled_iff (h : s.record.Reconciled)
    (tracked : s.record.state ≠ .stopped) :
    (s.hear host .stopped).record.Reconciled ↔ ¬s.record.Stuck := by
  by_cases suspending : s.record.state = .suspendingWaitProcess ∧ s.record.process ≠ .failed
  · refine iff_of_true (hear_stopped_suspending suspending.1 suspending.2) ?_
    rintro ⟨-, -, failed⟩
    exact suspending.2 failed
  · obtain ⟨requested, state, session⟩ := hear_stopped_over host suspending
    cases final : s.record.isOver with
    | true =>
      rw [if_pos final] at state
      refine iff_of_true (.of_state (.inr (.inr (.inr state)))) fun stuck => ?_
      rw [stuck.isOver] at final
      cases final
    | false =>
      rw [if_neg (Bool.eq_false_iff.mp final)] at state
      -- the record can be launched again, which it should have been if it is to run
      have lost : (s.hear host .stopped).record.Reconciled ↔ s.record.requested ≠ .running := by
        refine ⟨fun reconciled running => ?_, fun suspended => ⟨fun running => ?_, ?_⟩⟩
        · exact (reconciled.resumed (requested.trans running)).2.2.2 state
        · exact absurd (requested.symm.trans running) suspended
        · intro _ attached
          rw [session] at attached
          cases attached
      refine lost.trans (not_congr ⟨fun running => ?_, fun stuck => stuck.1⟩)
      have waiting := h.suspending running tracked final
      refine ⟨running, waiting, ?_⟩
      by_cases failed : s.record.process = .failed
      · exact failed
      · exact absurd ⟨waiting, failed⟩ suspending

lemma attach_standing (s : Scene) (session : Session) :
    (s.attach session).record.requested = s.record.requested ∧
      (s.attach session).record.state = s.record.state ∧
      (s.attach session).record.session = some session ∧
      (s.attach session).record.process = s.record.process := by
  unfold attach
  show (s.letGoSession.record.requested = _ ∧ s.letGoSession.record.state = _ ∧ _ ∧
    s.letGoSession.record.process = _)
  rw [letGoSession_record]
  exact ⟨rfl, rfl, rfl, rfl⟩

/-- The beginning of a session leaves a record unreconciled if the session was all that was missing
for a suspension. -/
theorem attach_reconciled_iff (h : s.record.Reconciled) (session : Session) :
    (s.attach session).record.Reconciled ↔ ¬s.record.AwaitsSession := by
  obtain ⟨requested, state, attached, process⟩ := attach_standing s session
  constructor
  · rintro reconciled ⟨suspended, running, alive⟩
    exact reconciled.suspended (requested.trans suspended) (by rw [attached]; rfl)
      (process.trans alive) (state.trans running)
  · intro settled
    refine ⟨?_, fun suspended _ alive running => settled ⟨?_, ?_, ?_⟩⟩
    · rw [requested, state]
      exact h.resumed
    · exact requested.symm.trans suspended
    · exact state.symm.trans running
    · exact process.symm.trans alive

end Scene

end AppLifecycle
