import AppLifecycle.Proofs.Scene.Reconciliation

/-!
# One pass of reconciliation

What reconciliation does to a record, in one inversion (`reconcile_cases`), and what is done to
close it (`close_eq`): what becomes of the state and of the process is read off here, and the
branches of the state machine need not be looked at again.
-/

namespace AppLifecycle

/-- The process has ended, cleanly or not. -/
def ProcessState.isGone : ProcessState → Bool
  | .failed => true
  | .stopped => true
  | _ => false

/-- In these states an application is resumed if it is asked to run. -/
def InternalState.isAsleep : InternalState → Bool
  | .runningInBackground => true
  | .suspendingWaitSession => true
  | .suspended => true
  | _ => false

namespace Record

variable {r : Record}

lemma Awake.requested (h : r.Awake) (asleep : r.state.isAsleep = true) :
    r.requested = .suspended := by
  cases requested : r.requested with
  | suspended => rfl
  | running =>
    obtain ⟨background, waiting, suspended⟩ := h requested
    cases state : r.state <;> simp_all [InternalState.isAsleep]

lemma not_running_of_asleep (asleep : r.state.isAsleep = true) : r.state ≠ .running := by
  intro running
  rw [running] at asleep
  cases asleep

lemma asleep_cases (asleep : r.state.isAsleep = true) : r.state = .runningInBackground ∨
    r.state = .suspendingWaitSession ∨ r.state = .suspended := by
  cases state : r.state <;> simp_all [InternalState.isAsleep]

end Record

namespace Scene

variable {host : Host} {s t : Scene}

/-- The record runs, and its process is gone exactly if it was before. -/
def Wakes (s t : Scene) : Prop :=
  t.record.state = .running ∧ t.record.process.isGone = s.record.process.isGone

lemma resume_wakes (host : Host) (asleep : s.record.state.isAsleep = true) :
    s.Wakes (s.resume host) := by
  have woken := Record.asleep_cases asleep
  refine ⟨(resume_running host woken).2, ?_⟩
  have asked : ∀ t : Scene, (t.askSession .resume .resumeWithoutSession).record.process =
      t.record.process :=
    fun t => congrArg (fun p => p.2.2.2) (askSession_standing t .resume .resumeWithoutSession)
  unfold resume
  rcases woken with state | state | state
  · rw [state]
    exact congrArg ProcessState.isGone (enter_process host .running s)
  · rw [state]
    dsimp only
    rw [asked, enter_process]
  · -- a process that was suspended is noted to run now, and is not gone in either case
    rw [state]
    dsimp only
    rw [asked]
    show (if (s.enter host .running).record.process = .suspended then ProcessState.running
      else (s.enter host .running).record.process).isGone = _
    rw [enter_process]
    split
    · rename_i suspended
      rw [suspended]
      rfl
    · rfl

lemma respawn_process (host : Host) (s : Scene) :
    (s.respawn host).record.process = .unknown := by
  unfold respawn
  dsimp only
  split
  · exact enter_process _ _ _
  · exact (enter_process _ _ _).trans (enter_process _ _ _)

/-- A record that runs is suspended if it has a session; its process stays as it is. -/
lemma suspend_running (host : Host) (running : s.record.state = .running) :
    (s.suspend host).record.process = s.record.process ∧
      ((s.suspend host).record.state = .running ∨
        (s.suspend host).record.state = .runningInBackground ∨
        (s.suspend host).record.state = .suspendingWaitSession) := by
  unfold suspend
  rw [if_neg (not_not_intro running)]
  split
  · exact ⟨rfl, .inl running⟩
  · split
    · exact ⟨enter_process host _ s, .inr (.inl (enter_state host _ s))⟩
    · exact ⟨enter_process host _ _, .inr (.inr (enter_state host _ _))⟩

/-- What reconciliation does to a record: it resumes one that is asleep and should run, launches one
that should run and can be launched again, begins to suspend one that runs, or does nothing. -/
inductive Reconciles (s t : Scene) : Prop where
  | wakes (requested : s.record.requested = .running) (asleep : s.record.state.isAsleep = true)
      (wakes : s.Wakes t)
  | launches (requested : s.record.requested = .running)
      (gone : s.record.state = .stoppedResumable)
      (state : t.record.state = .starting ∨ t.record.state = .stopped)
      (process : t.record.process = .unknown)
  | suspends (requested : s.record.requested = .suspended) (running : s.record.state = .running)
      (process : t.record.process = s.record.process)
      (state : t.record.state = .running ∨ t.record.state = .runningInBackground ∨
        t.record.state = .suspendingWaitSession)
  | stays (same : t.record.standing = s.record.standing)
      (settled : s.record.requested = .running →
        s.record.state.isAsleep = false ∧ s.record.state ≠ .stoppedResumable)

theorem reconcile_cases (host : Host) (s : Scene) : s.Reconciles (s.reconcile host) := by
  have counted : (s.update fun r => { r with passes := r.passes + 1 }).record.standing =
      s.record.standing := rfl
  -- what reconciliation looks at is the same once the pass has been counted
  suffices h : (s.update fun r => { r with passes := r.passes + 1 }).Reconciles
      (s.reconcile host) by
    cases h with
    | wakes requested asleep wakes => exact .wakes requested asleep wakes
    | launches requested gone state process => exact .launches requested gone state process
    | suspends requested running process state => exact .suspends requested running process state
    | stays same settled => exact .stays (same.trans counted) settled
  unfold reconcile
  generalize (s.update fun r => { r with passes := r.passes + 1 }) = t
  have woken : t.record.requested = .running → t.record.state.isAsleep = true →
      t.Reconciles (t.resume host) :=
    fun requested asleep => .wakes requested asleep (resume_wakes host asleep)
  have calm : ∀ u : Scene, t.record.requested = .suspended →
      u.record.standing = t.record.standing → t.Reconciles u := by
    intro u suspended same
    refine .stays same fun running => ?_
    rw [suspended] at running
    cases running
  dsimp only
  split
  · rename_i requested background
    exact woken requested (by rw [background]; rfl)
  · rename_i requested waiting
    exact woken requested (by rw [waiting]; rfl)
  · rename_i requested suspended
    exact woken requested (by rw [suspended]; rfl)
  · rename_i requested gone
    exact .launches requested gone (respawn_state host t) (respawn_process host t)
  · rename_i requested running
    split
    · obtain ⟨process, state⟩ := suspend_running host running
      exact .suspends requested running process state
    · exact calm t requested rfl
    · exact calm _ requested (violate_standing _ _)
  · rename_i background waiting suspended gone _
    refine .stays rfl fun requested => ⟨?_, gone requested⟩
    cases asleep : t.record.state.isAsleep with
    | false => rfl
    | true =>
      obtain h | h | h := Record.asleep_cases asleep
      · exact absurd h (background requested)
      · exact absurd h (waiting requested)
      · exact absurd h (suspended requested)

/-- Reconciliation wakes a record that is asleep and should run, and no other one. -/
lemma reconcile_wakes (host : Host) (requested : s.record.requested = .running)
    (asleep : s.record.state.isAsleep = true) : s.Wakes (s.reconcile host) := by
  cases s.reconcile_cases host with
  | wakes _ _ wakes => exact wakes
  | launches _ gone _ _ =>
    rw [gone] at asleep
    cases asleep
  | suspends suspended _ _ _ =>
    rw [suspended] at requested
    cases requested
  | stays _ settled => exact absurd ((settled requested).1.symm.trans asleep) Bool.false_ne_true

lemma reconcile_not_running (host : Host) (other : s.record.state ≠ .running)
    (stays : s.record.requested = .running → s.record.state.isAsleep = false) :
    (s.reconcile host).record.state ≠ .running := by
  cases s.reconcile_cases host with
  | wakes requested asleep _ =>
    exact absurd ((stays requested).symm.trans asleep) Bool.false_ne_true
  | launches _ _ state _ => obtain state | state := state <;> rw [state] <;> decide
  | suspends _ running _ _ => exact absurd running other
  | stays same _ =>
    rw [(Record.standing_inj.mp same).2.1]
    exact other

/-- A record that runs goes on, or begins to be suspended; its process stays as it is. -/
lemma reconcile_of_running (host : Host) (running : s.record.state = .running) :
    (s.reconcile host).record.process = s.record.process ∧
      ((s.reconcile host).record.state = .running ∨
        (s.reconcile host).record.state = .runningInBackground ∨
        (s.reconcile host).record.state = .suspendingWaitSession) := by
  cases s.reconcile_cases host with
  | wakes _ asleep _ => exact absurd running (Record.not_running_of_asleep asleep)
  | launches _ gone _ _ =>
    rw [running] at gone
    cases gone
  | suspends _ _ process state => exact ⟨process, state⟩
  | stays same _ =>
    obtain ⟨-, state, -, process⟩ := Record.standing_inj.mp same
    exact ⟨process, .inl (state.trans running)⟩

/-! ## Closing and stopping -/

/-- The timer stays as it is, unless the record leaves the closing state. -/
lemma enter_timer (host : Host) (state : InternalState) (s : Scene) :
    (s.enter host state).record.timer =
      if s.record.state = .closing ∧ state ≠ .closing then s.record.timer.cancel
      else s.record.timer := by
  unfold enter
  by_cases same : s.record.state = state
  · rw [if_pos same, if_neg fun both => both.2 (same.symm.trans both.1)]
  · rw [if_neg same, syncWakelock_record]
    show (if s.record.state = .closing then _ else _) = _
    by_cases closing : s.record.state = .closing
    · rw [if_pos closing, if_pos ⟨closing, fun h => same (closing.trans h.symm)⟩]
    · rw [if_neg closing, if_neg fun both => closing both.1]

/-- An order to end an application stops its timer, and is the end of a launch at most. -/
lemma forceStop_record (host : Host) (s : Scene) :
    (s.forceStop host).record = { s.record with timer := s.record.timer.cancel } ∨
    s.record.state = .starting ∧ (s.forceStop host).record.state = .stopped ∧
      (s.forceStop host).record.timer = s.record.timer.cancel := by
  unfold forceStop
  dsimp only
  split
  · exact .inl rfl
  · split
    · split
      · exact .inl rfl
      · exact .inl rfl
    · split
      · rename_i launch
        refine .inr ⟨launch.1, enter_state _ _ _, ?_⟩
        rw [enter_timer, if_neg]
        · rfl
        · rintro ⟨closing, -⟩
          have both : InternalState.starting = .closing := launch.1.symm.trans closing
          cases both
      · exact .inl rfl

/-- What is done to close a record, by its state: one that is asleep is woken first. -/
lemma close_eq (host : Host) (s : Scene) :
    s.record.state = .starting ∧ s.close host = s.forceStop host ∨
    s.record.state = .running ∧ s.close host = s.beginClose host ∨
    (s.record.state.isAsleep = true ∨ s.record.state = .suspendingWaitProcess) ∧
      s.close host = (s.request host .running).beginClose host ∨
    s.record.state = .stoppedResumable ∧ s.close host = s.enter host .stopped ∨
    (s.record.state = .closing ∨ s.record.state = .stopped) ∧ s.close host = s := by
  unfold close
  cases s.record.state <;> simp [InternalState.isAsleep]

end Scene

end AppLifecycle
