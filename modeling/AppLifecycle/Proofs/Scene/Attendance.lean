import AppLifecycle.Proofs.Scene.Pass

/-!
# Records and their sessions

While an application runs, is being suspended or closes, there is something to ask of its session:
its record should have one (`Attended`). No operation but the beginning and the end of a session
changes which session a record has. So it is records without a session that matters are decided by,
and for each operation it is said exactly when it takes such a record into one of those states.
-/

namespace AppLifecycle

/-- In these states the session has been, or may be, asked for something. -/
def InternalState.inSession : InternalState → Bool
  | .running => true
  | .runningInBackground => true
  | .suspendingWaitSession => true
  | .suspendingWaitProcess => true
  | .closing => true
  | _ => false

/-- A record that is in session has a session. -/
def Record.Attended (r : Record) : Prop := r.state.inSession = true → r.session.isSome = true

instance (r : Record) : Decidable r.Attended :=
  inferInstanceAs (Decidable (r.state.inSession = true → r.session.isSome = true))

namespace Scene

variable {host : Host} {s : Scene}

/-! ## The session stays -/

@[simp] lemma enter_session (host : Host) (state : InternalState) (s : Scene) :
    (s.enter host state).record.session = s.record.session :=
  congrArg (fun p => p.2.2.1) (enter_standing host state s)

@[simp] lemma askSession_session (s : Scene) (action : SessionAction) (absent : Violation) :
    (s.askSession action absent).record.session = s.record.session :=
  congrArg (fun p => p.2.2.1) (askSession_standing s action absent)

@[simp] lemma violate_session (s : Scene) (v : Violation) :
    (s.violate v).record.session = s.record.session := rfl

@[simp] lemma suspend_session (host : Host) (s : Scene) :
    (s.suspend host).record.session = s.record.session := by
  unfold suspend
  split
  · rfl
  · split
    · rfl
    · split <;> simp

@[simp] lemma resume_session (host : Host) (s : Scene) :
    (s.resume host).record.session = s.record.session := by
  have wake : ∀ c, (((s.enter host .running).call c).update fun r =>
      { r with process := if r.process = .suspended then .running else r.process }).record.session =
        s.record.session := fun c => enter_session host .running s
  unfold resume
  split <;> simp [wake]

@[simp] lemma respawn_session (host : Host) (s : Scene) :
    (s.respawn host).record.session = s.record.session := by
  unfold respawn
  dsimp only
  split
  · exact enter_session host _ _
  · exact (enter_session host _ _).trans (enter_session host _ _)

@[simp] lemma reconcile_session (host : Host) (s : Scene) :
    (s.reconcile host).record.session = s.record.session := by
  have counted : (s.update fun r => { r with passes := r.passes + 1 }).record.session =
      s.record.session := rfl
  unfold reconcile
  dsimp only
  split
  · exact (resume_session host _).trans counted
  · exact (resume_session host _).trans counted
  · exact (resume_session host _).trans counted
  · exact (respawn_session host _).trans counted
  · split
    · exact (suspend_session host _).trans counted
    · exact counted
    · exact counted
  · exact counted

@[simp] lemma request_session (host : Host) (value : RequestedState) (s : Scene) :
    (s.request host value).record.session = s.record.session := by
  unfold request
  split
  · rfl
  · rw [reconcile_session]
    rfl

@[simp] lemma beginClose_session (host : Host) (s : Scene) :
    (s.beginClose host).record.session = s.record.session := by
  unfold beginClose
  split
  · rfl
  · split
    · rfl
    · exact enter_session host _ _

@[simp] lemma forceStop_session (host : Host) (s : Scene) :
    (s.forceStop host).record.session = s.record.session := by
  unfold forceStop
  dsimp only
  split
  · rfl
  · split
    · split <;> rfl
    · split
      · exact enter_session host _ _
      · rfl

lemma close_session (host : Host) (s : Scene) :
    (s.close host).record.session = s.record.session := by
  unfold close
  split <;> simp

lemma onProcess_session (host : Host) (process : ProcessState) (s : Scene) :
    (s.onProcess host process).record.session = s.record.session := by
  by_cases known : s.record.process = process
  · unfold onProcess
    rw [if_pos known]
  · obtain ⟨t, reconciles, standing⟩ := onProcess_reconciles host known
    rw [reconciles, reconcile_session]
    exact congrArg (fun p => p.2.2.1) standing

lemma onSession_session (host : Host) (state : SessionState) (s : Scene) :
    (s.onSession host state).record.session = s.record.session := by
  unfold onSession
  split
  · rfl
  · rfl
  · split
    · exact (reconcile_session host _).trans (enter_session host _ s)
    · rfl
  · split
    · exact enter_session host _ s
    · rfl
  · split
    · exact beginClose_session host s
    · split <;> exact enter_session host _ s

/-! ## Records without a session

A record is idle if it has no session and is not in session. -/

/-- The record has no session, and is in a state that needs none. -/
structure Idle (s : Scene) : Prop where
  alone : s.record.session = none
  state : s.record.state.inSession = false

lemma Idle.ne (idle : s.Idle) {state : InternalState} (active : state.inSession = true) :
    s.record.state ≠ state := by
  rintro rfl
  exact Bool.false_ne_true (idle.state.symm.trans active)

/-- A record that has a session is attended whatever its state. -/
lemma attended_of_session {session : Session} (h : s.record.session = some session) :
    s.record.Attended := fun _ => by rw [h]; rfl

/-- Without a session, the state is what matters. -/
lemma attended_iff_of_alone (alone : s.record.session = none) :
    s.record.Attended ↔ s.record.state.inSession = false := by
  unfold Record.Attended
  rw [alone]
  simp

/-- A session is given up only with an application that has stopped. -/
lemma hear_attended_of_session (host : Host) (state : SessionState) {session : Session}
    (h : s.record.session = some session) : (s.hear host state).record.Attended := by
  have heard := (onSession_session host state s).trans h
  unfold hear
  dsimp only
  split
  · rename_i ended
    rw [detach_record ended.2]
    intro active
    have idle : (s.onSession host state).record.state.inSession = false := by
      rcases ended.2 with stopped | gone
      · rw [stopped]
        rfl
      · rw [gone]
        rfl
    exact absurd (idle.symm.trans active) Bool.false_ne_true
  · exact attended_of_session heard

/-- A record that is attended has a session, or is idle. -/
lemma session_or_idle (attended : s.record.Attended) :
    (∃ session, s.record.session = some session) ∨ s.Idle := by
  cases hsession : s.record.session with
  | some session => exact .inl ⟨session, rfl⟩
  | none => exact .inr ⟨hsession, (attended_iff_of_alone hsession).mp attended⟩

/-- Reconciliation resumes a record that is suspended, and looks for the session afterwards. -/
lemma reconcile_idle (host : Host) (idle : s.Idle) :
    (s.reconcile host).record.state.inSession = true ↔
      s.record.requested = .running ∧ s.record.state = .suspended := by
  cases s.reconcile_cases host with
  | wakes requested asleep wakes =>
    rw [wakes.1]
    obtain state | state | state := Record.asleep_cases asleep
    · exact absurd state (idle.ne rfl)
    · exact absurd state (idle.ne rfl)
    · exact iff_of_true rfl ⟨requested, state⟩
  | launches _ gone state _ =>
    refine iff_of_false ?_ (by rw [gone]; simp)
    obtain state | state := state <;> rw [state] <;> decide
  | suspends _ running _ _ => exact absurd running (idle.ne rfl)
  | stays same settled =>
    rw [(Record.standing_inj.mp same).2.1, idle.state]
    refine iff_of_false Bool.false_ne_true fun both => ?_
    have awake := (settled both.1).1
    rw [both.2] at awake
    cases awake

lemma request_idle (host : Host) (value : RequestedState) (idle : s.Idle) :
    (s.request host value).record.state.inSession = true ↔
      value = .running ∧ s.record.requested ≠ .running ∧ s.record.state = .suspended := by
  unfold request
  split
  · rename_i same
    rw [idle.state]
    refine iff_of_false Bool.false_ne_true ?_
    rintro ⟨rfl, other, -⟩
    exact other same
  · rename_i other
    have asked : (s.update fun r => { r with requested := value }).Idle := ⟨idle.alone, idle.state⟩
    rw [reconcile_idle host asked]
    show value = .running ∧ s.record.state = .suspended ↔ _
    constructor
    · rintro ⟨rfl, suspended⟩
      exact ⟨rfl, other, suspended⟩
    · rintro ⟨running, -, suspended⟩
      exact ⟨running, suspended⟩

/-- Without a session, a record does not begin to close. -/
lemma beginClose_alone (host : Host) (alone : s.record.session = none) :
    (s.beginClose host).record.standing = s.record.standing := by
  unfold beginClose
  rw [alone]
  split <;> rfl

/-- To be closed, a suspended record is resumed first. -/
lemma close_idle (host : Host) (idle : s.Idle) :
    (s.close host).record.state.inSession = true ↔
      s.record.requested ≠ .running ∧ s.record.state = .suspended := by
  obtain ⟨starting, h⟩ | ⟨running, h⟩ | ⟨-, h⟩ | ⟨gone, h⟩ | ⟨state, h⟩ := close_eq host s
  all_goals rw [h]
  · refine iff_of_false ?_ (by rw [starting]; simp)
    obtain same | ⟨-, stopped, -⟩ := forceStop_record host s
    · rw [same]
      exact Bool.eq_false_iff.mp idle.state
    · rw [stopped]
      decide
  · exact absurd running (idle.ne rfl)
  · have alone := (request_session host .running s).trans idle.alone
    obtain ⟨-, state, -, -⟩ := Record.standing_inj.mp (beginClose_alone host alone)
    rw [state, request_idle host .running idle]
    simp
  · rw [enter_state]
    exact iff_of_false (by decide) (by rw [gone]; simp)
  · obtain closing | stopped := state
    · exact absurd closing (idle.ne rfl)
    · rw [stopped]
      exact iff_of_false (by decide) (by simp)

/-- No report on a process but that of its suspension takes a record into session, or makes it
suspended. -/
lemma leadsTo_idle {process : ProcessState} {state : InternalState} (other : process ≠ .suspended)
    (idle : state.inSession = false) : (process.leadsTo state).inSession = false ∧
      (process.leadsTo state = .suspended → state = .suspended) := by
  revert other idle
  cases process <;> cases state <;> decide

/-- Whatever its state, a record without a session is suspended when its process is, and resumed at
once if it should run. -/
lemma onProcess_suspended_idle (host : Host) (idle : s.Idle) :
    (s.onProcess host .suspended).record.state.inSession = true ↔
      s.record.process ≠ .suspended ∧ s.record.requested = .running := by
  by_cases known : s.record.process = .suspended
  · have unchanged : s.onProcess host .suspended = s := if_pos known
    rw [unchanged, idle.state]
    exact iff_of_false Bool.false_ne_true fun both => both.1 known
  · obtain ⟨t, reconciles, standing⟩ := onProcess_reconciles host known
    simp only [Record.standing, Prod.mk.injEq] at standing
    obtain ⟨requested, state, session, -⟩ := standing
    -- the record is not closing, so that it follows its process
    have suspended : t.record.state = .suspended := by
      have active := idle.state
      rw [state]
      cases h : s.record.state <;> first | rfl | rw [h] at active; cases active
    have entered : t.Idle := by
      refine ⟨session.trans idle.alone, ?_⟩
      rw [suspended]
      rfl
    rw [reconciles, reconcile_idle host entered, requested, suspended]
    simp [known]

/-- Any other report on the process leaves an idle record idle, unless it should have been resumed
before. -/
lemma onProcess_idle (host : Host) {process : ProcessState} (idle : s.Idle)
    (awake : s.record.Awake) (other : process ≠ .suspended) :
    (s.onProcess host process).record.state.inSession = false := by
  by_cases known : s.record.process = process
  · have unchanged : s.onProcess host process = s := if_pos known
    rw [unchanged]
    exact idle.state
  · obtain ⟨t, reconciles, standing⟩ := onProcess_reconciles host known
    simp only [Record.standing, Prod.mk.injEq] at standing
    obtain ⟨requested, state, session, -⟩ := standing
    obtain ⟨quiet, asleep⟩ := leadsTo_idle other idle.state
    have still : t.Idle := by
      refine ⟨session.trans idle.alone, ?_⟩
      rw [state]
      exact quiet
    rw [reconciles]
    refine Bool.eq_false_iff.mpr fun active => ?_
    obtain ⟨running, suspended⟩ := (reconcile_idle host still).mp active
    exact (awake (requested.symm.trans running)).2.2 (asleep (state.symm.trans suspended))

/-! ## Reports of sessions -/

/-- A record that runs without a session goes on, even if it should be suspended. -/
lemma reconcile_alone (host : Host) (alone : s.record.session = none)
    (running : s.record.state = .running) : (s.reconcile host).record.state = .running := by
  have session : (s.update fun r => { r with passes := r.passes + 1 }).record.session = none :=
    alone
  have state : (s.update fun r => { r with passes := r.passes + 1 }).record.state = .running :=
    running
  unfold reconcile
  generalize (s.update fun r => { r with passes := r.passes + 1 }) = t at session state
  dsimp only
  rw [state]
  cases t.record.requested with
  | running => exact state
  | suspended =>
    dsimp only
    split
    · unfold suspend
      rw [if_neg (not_not_intro state), session]
      exact state
    · exact state
    · exact state

/-- A session that goes on stays with its record. -/
lemma hear_goesOn (host : Host) {state : SessionState} (goesOn : state ≠ .stopped) :
    s.hear host state = s.onSession host state := by
  unfold hear
  dsimp only
  exact if_neg fun both => goesOn both.1

/-- A record without a session begins to run if a session is said to run. -/
lemma hear_running_idle (host : Host) (idle : s.Idle) :
    (s.hear host .running).record.state.inSession = true ↔ s.record.state = .starting := by
  rw [hear_goesOn host (by decide)]
  unfold onSession
  dsimp only
  split
  · rename_i starting
    have running := reconcile_alone host ((enter_session host .running s).trans idle.alone)
      (enter_state host .running s)
    rw [running]
    exact iff_of_true rfl starting
  · rename_i other
    rw [idle.state]
    exact iff_of_false Bool.false_ne_true other

/-- No other report of a session makes a difference to a record without one. -/
lemma hear_idle (host : Host) {state : SessionState} (idle : s.Idle) (other : state ≠ .running) :
    (s.hear host state).record.state.inSession = false := by
  cases state with
  | starting =>
    rw [hear_goesOn host (by decide)]
    exact idle.state
  | running => exact absurd rfl other
  | suspending =>
    rw [hear_goesOn host (by decide)]
    exact idle.state
  | suspended =>
    rw [hear_goesOn host (by decide)]
    unfold onSession
    dsimp only
    split
    · rename_i waiting
      have active := idle.state
      rw [waiting] at active
      cases active
    · exact idle.state
  | stopped =>
    have still : ¬(s.record.state = .suspendingWaitProcess ∧ s.record.process ≠ .failed) := by
      rintro ⟨suspending, -⟩
      have active := idle.state
      rw [suspending] at active
      cases active
    rw [(hear_stopped_over host still).2.1]
    split <;> rfl

/-! ## What makes a record run without a session -/

lemma attended_of_standing {t : Scene} (h : s.record.Attended)
    (same : t.record.standing = s.record.standing) : t.record.Attended := by
  obtain ⟨-, state, session, -⟩ := Record.standing_inj.mp same
  unfold Record.Attended
  rw [state, session]
  exact h

/-- Where the session stays, the state of an idle record decides on what an operation does. -/
lemma attended_iff_of_idle {t : Scene} {p : Prop} (attended : s.record.Attended)
    (session : t.record.session = s.record.session)
    (idle : s.Idle → (t.record.state.inSession = true ↔ p)) :
    t.record.Attended ↔ ¬(s.record.session = none ∧ p) := by
  rcases session_or_idle attended with ⟨window, hsession⟩ | still
  · refine iff_of_true (attended_of_session (session.trans hsession)) ?_
    rintro ⟨alone, -⟩
    rw [hsession] at alone
    cases alone
  · rw [attended_iff_of_alone (session.trans still.alone), ← Bool.not_eq_true, idle still]
    exact not_congr (and_iff_right still.alone).symm

/-- A request to run resumes a suspended record, whether it has a session or not. -/
lemma request_attended_iff (host : Host) (attended : s.record.Attended) (awake : s.record.Awake) :
    (s.request host .running).record.Attended ↔
      ¬(s.record.session = none ∧ s.record.state = .suspended) := by
  refine attended_iff_of_idle attended (request_session host _ s) fun idle => ?_
  rw [request_idle host .running idle]
  exact ⟨fun asked => asked.2.2, fun suspended =>
    ⟨rfl, fun running => (awake running).2.2 suspended, suspended⟩⟩

/-- So does the wish to close it. -/
lemma close_attended_iff (host : Host) (attended : s.record.Attended) (awake : s.record.Awake) :
    (s.close host).record.Attended ↔
      ¬(s.record.session = none ∧ s.record.state = .suspended) := by
  refine attended_iff_of_idle attended (close_session host s) fun idle => ?_
  rw [close_idle host idle]
  exact and_iff_right_of_imp fun suspended running => (awake running).2.2 suspended

lemma onProcess_suspended_attended_iff (host : Host) (attended : s.record.Attended) :
    (s.onProcess host .suspended).record.Attended ↔
      ¬(s.record.session = none ∧ s.record.requested = .running ∧
        s.record.process ≠ .suspended) := by
  refine attended_iff_of_idle attended (onProcess_session host _ s) fun idle => ?_
  rw [onProcess_suspended_idle host idle]
  exact and_comm

lemma onProcess_attended (host : Host) {process : ProcessState} (attended : s.record.Attended)
    (awake : s.record.Awake) (other : process ≠ .suspended) :
    (s.onProcess host process).record.Attended := by
  have settled := (attended_iff_of_idle (p := False) attended (onProcess_session host process s)
    fun idle => by rw [onProcess_idle host idle awake other]; simp)
  exact settled.mpr fun both => both.2

lemma hear_attended_iff (host : Host) (state : SessionState) (attended : s.record.Attended) :
    (s.hear host state).record.Attended ↔
      ¬(state = .running ∧ s.record.session = none ∧ s.record.state = .starting) := by
  rcases session_or_idle attended with ⟨session, hsession⟩ | idle
  · refine iff_of_true (hear_attended_of_session host state hsession) ?_
    rintro ⟨-, alone, -⟩
    rw [hsession] at alone
    cases alone
  · by_cases running : state = .running
    · subst running
      have session : (s.hear host .running).record.session = s.record.session := by
        rw [hear_goesOn host (by decide)]
        exact onSession_session host .running s
      rw [attended_iff_of_idle attended session (hear_running_idle host)]
      exact not_congr (and_iff_right rfl).symm
    · refine iff_of_true (fun active => ?_) fun all => running all.1
      rw [hear_idle host idle running] at active
      cases active

end Scene

end AppLifecycle
