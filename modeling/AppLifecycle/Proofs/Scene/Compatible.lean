import AppLifecycle.Proofs.Scene.Conduct

/-!
# What is known of the process in each state

The state of a record and what is known of its process are changed by different inputs, and yet not
every pair of them occurs: `InternalState.admits` is the table of those that do, and `Record.Fits`
says that a record is in it. Every operation of a record keeps to the table, as long as a process is
reported to start only where one is waited for, and its end is not reported at all.
-/

namespace AppLifecycle

/-- The process of a record in this state may be in that one. -/
def InternalState.admits : InternalState → ProcessState → Bool
  | _, .stopped => false
  | .starting, process => process = .unknown || process = .running
  | .running, process => process ≠ .suspended
  | .runningInBackground, process => process = .running || process = .failed
  | .suspendingWaitSession, process => process = .running || process = .failed
  | .suspendingWaitProcess, process => process = .running || process = .failed
  | .suspended, process => process = .suspended || process = .failed
  | .stoppedResumable, process => process ≠ .unknown
  | .closing, _ => true
  | .stopped, _ => true

/-- In this state a process is waited for: the application has just been launched, or may be launched
by somebody else. -/
def InternalState.awaits (state : InternalState) (process : ProcessState) : Prop :=
  state = .stoppedResumable ∨ state = .starting ∧ process = .unknown

namespace Record

/-- The process is in a state that the state of the record admits. -/
def Fits (r : Record) : Prop := r.state.admits r.process = true

instance (r : Record) : Decidable r.Fits := inferInstanceAs (Decidable (_ = _))

variable {r q : Record}

lemma Fits.of_same (h : r.Fits) (state : q.state = r.state) (process : q.process = r.process) :
    q.Fits := by
  unfold Fits
  rw [state, process]
  exact h

lemma Fits.of_standing (h : r.Fits) (same : q.standing = r.standing) : q.Fits := by
  obtain ⟨-, state, -, process⟩ := standing_inj.mp same
  exact h.of_same state process

/-- A process that has ended is that of no record. -/
lemma Fits.process_ne (h : r.Fits) : r.process ≠ .stopped := by
  intro ended
  unfold Fits at h
  rw [ended] at h
  revert h
  cases r.state <;> decide

/-- A record may close, or stop, whatever is known of its process. -/
lemma Fits.of_over (state : r.state = .closing ∨ r.state = .stopped) (alive : r.process ≠ .stopped) :
    r.Fits := by
  unfold Fits
  cases process : r.process with
  | stopped => exact absurd process alive
  | _ => rcases state with state | state <;> rw [state] <;> rfl

/-- What is gone can be launched again if a process was seen. -/
lemma Fits.of_gone (state : r.state = .stoppedResumable) (seen : r.canBeResumed = true)
    (alive : r.process ≠ .stopped) : r.Fits := by
  unfold canBeResumed at seen
  unfold Fits
  rw [state]
  cases process : r.process with
  | stopped => exact absurd process alive
  | unknown =>
    rw [process] at seen
    cases seen
  | _ => rfl

end Record

/-- Whatever the record is in, a report takes it into a state that admits what is reported, unless
it is the start of a process that is not waited for, or the end of one. -/
lemma ProcessState.admits_leadsTo {process known : ProcessState} {state : InternalState}
    (fits : state.admits known = true) (seen : process ≠ .unknown) (alive : process ≠ .stopped)
    (awaited : process = .running → state.awaits known) :
    (process.leadsTo state).admits process = true := by
  cases process with
  | unknown => exact absurd rfl seen
  | running =>
    obtain rfl | ⟨rfl, -⟩ := awaited rfl
    · rfl
    · rfl
  | suspended => cases state <;> rfl
  | failed => cases state <;> rfl
  | stopped => exact absurd rfl alive

namespace Scene

variable {host : Host} {s : Scene}

/-! ## Reconciliation -/

/-- A process that was suspended is noted to run when its record is resumed, and is as it was
otherwise. -/
lemma resume_process (host : Host) (asleep : s.record.state.isAsleep = true) :
    (s.resume host).record.process =
      if s.record.state = .suspended ∧ s.record.process = .suspended then .running
      else s.record.process := by
  have asked : ∀ t : Scene, (t.askSession .resume .resumeWithoutSession).record.process =
      t.record.process :=
    fun t => congrArg (fun p => p.2.2.2) (askSession_standing t .resume .resumeWithoutSession)
  unfold resume
  obtain state | state | state := Record.asleep_cases asleep
  · rw [state, if_neg (by simp)]
    exact enter_process host .running s
  · rw [state, if_neg (by simp)]
    exact (asked _).trans (enter_process host .running s)
  · rw [state]
    dsimp only
    rw [asked]
    show (if (s.enter host .running).record.process = .suspended then _ else _) = _
    simp

lemma resume_fits (host : Host) (asleep : s.record.state.isAsleep = true) (h : s.record.Fits) :
    (s.resume host).record.Fits := by
  unfold Record.Fits at h ⊢
  rw [(resume_wakes host asleep).1, resume_process host asleep]
  obtain state | state | state := Record.asleep_cases asleep <;> rw [state] at h ⊢
  · revert h
    cases s.record.process <;> decide
  · revert h
    cases s.record.process <;> decide
  · revert h
    cases s.record.process <;> decide

/-- Only a record whose process runs begins to be suspended. -/
lemma suspend_fits (host : Host) (running : s.record.state = .running)
    (alive : s.record.process = .running) : (s.suspend host).record.Fits := by
  obtain ⟨process, state⟩ := suspend_running host running
  unfold Record.Fits
  rw [process, alive]
  obtain state | state | state := state <;> rw [state] <;> rfl

lemma respawn_fits (host : Host) (s : Scene) : (s.respawn host).record.Fits := by
  unfold Record.Fits
  rw [respawn_process]
  obtain state | state := respawn_state host s <;> rw [state] <;> rfl

lemma reconcile_fits (host : Host) (h : s.record.Fits) : (s.reconcile host).record.Fits := by
  have counted : (s.update fun r => { r with passes := r.passes + 1 }).record.Fits := h
  unfold reconcile
  generalize s.update (fun r => { r with passes := r.passes + 1 }) = t at counted
  dsimp only
  split
  · rename_i background
    exact resume_fits host (by rw [background]; rfl) counted
  · rename_i waiting
    exact resume_fits host (by rw [waiting]; rfl) counted
  · rename_i suspended
    exact resume_fits host (by rw [suspended]; rfl) counted
  · exact respawn_fits host t
  · -- whether a record is suspended is decided by its process
    rename_i running
    split
    · rename_i alive
      exact suspend_fits host running alive
    · exact counted
    · exact counted.of_standing (violate_standing _ _)
  · exact counted

/-! ## Operations that keep to the table -/

/-- A record may move to a state that admits as much. -/
lemma enter_fits (host : Host) {state state' : InternalState} (before : s.record.state = state)
    (wider : ∀ process, state.admits process = true → state'.admits process = true)
    (h : s.record.Fits) : (s.enter host state').record.Fits := by
  unfold Record.Fits at h ⊢
  rw [before] at h
  rw [enter_state, enter_process]
  exact wider _ h

lemma request_fits (host : Host) (value : RequestedState) (h : s.record.Fits) :
    (s.request host value).record.Fits := by
  unfold request
  split
  · exact h
  · exact reconcile_fits host h

lemma beginClose_fits (host : Host) (h : s.record.Fits) : (s.beginClose host).record.Fits := by
  unfold beginClose
  split
  · exact h
  · split
    · exact h
    · refine .of_over (.inl (enter_state _ _ _)) ?_
      rw [enter_process]
      exact h.process_ne

lemma enter_stopped_fits (host : Host) (h : s.record.Fits) :
    (s.enter host .stopped).record.Fits := by
  refine .of_over (.inr (enter_state _ _ _)) ?_
  rw [enter_process]
  exact h.process_ne

lemma forceStop_fits (host : Host) (h : s.record.Fits) : (s.forceStop host).record.Fits := by
  unfold forceStop
  dsimp only
  split
  · exact h
  · split
    · split
      · exact h
      · exact h
    · split
      · exact enter_stopped_fits host h
      · exact h

lemma close_fits (host : Host) (h : s.record.Fits) : (s.close host).record.Fits := by
  obtain ⟨-, same⟩ | ⟨-, same⟩ | ⟨-, same⟩ | ⟨-, same⟩ | ⟨-, same⟩ := close_eq host s <;> rw [same]
  · exact forceStop_fits host h
  · exact beginClose_fits host h
  · exact beginClose_fits host (request_fits host .running h)
  · exact enter_stopped_fits host h
  · exact h

lemma tick_fits (host : Host) (now : Instant) (h : s.record.Fits) :
    (s.tick host now).2.record.Fits := by
  unfold tick
  dsimp only
  split
  · exact forceStop_fits host h
  · exact h

/-- A process is reported to start only where it is waited for, and its end is not reported. -/
lemma onProcess_fits (host : Host) {process : ProcessState} (h : s.record.Fits)
    (seen : process ≠ .unknown) (alive : process ≠ .stopped)
    (awaited : process = .running → s.record.state.awaits s.record.process) :
    (s.onProcess host process).record.Fits := by
  by_cases known : s.record.process = process
  · unfold onProcess
    rw [if_pos known]
    exact h
  · obtain ⟨t, reconciled, standing⟩ := onProcess_reconciles host known
    simp only [Record.standing, Prod.mk.injEq] at standing
    obtain ⟨-, state, -, noted⟩ := standing
    rw [reconciled]
    refine reconcile_fits host ?_
    unfold Record.Fits
    rw [state, noted]
    exact ProcessState.admits_leadsTo h seen alive awaited

lemma attach_fits (session : Session) (h : s.record.Fits) : (s.attach session).record.Fits := by
  obtain ⟨-, state, -, process⟩ := attach_standing s session
  exact h.of_same state process

lemma detach_fits (h : s.record.Fits) : s.detach.record.Fits := by
  unfold detach
  split
  · rw [letGoSession_record]
    exact h
  · exact h

/-- The session moves its record only where the process allows it. -/
lemma onSession_fits (host : Host) (state : SessionState) (h : s.record.Fits) :
    (s.onSession host state).record.Fits := by
  unfold onSession
  split
  · exact h
  · exact h
  · split
    · rename_i starting
      refine reconcile_fits host (enter_fits host starting (fun process => ?_) h)
      cases process <;> decide
    · exact h
  · split
    · rename_i waiting
      refine enter_fits host waiting (fun process => ?_) h
      cases process <;> decide
    · exact h
  · split
    · exact beginClose_fits host h
    · split
      · exact enter_stopped_fits host h
      · -- a record that is kept is one whose process was seen
        rename_i goesOn
        have seen : s.record.canBeResumed = true := by
          revert goesOn
          cases s.record.canBeResumed <;> simp
        refine .of_gone (enter_state _ _ _) ?_ ?_
        · unfold Record.canBeResumed
          rw [enter_process]
          exact seen
        · rw [enter_process]
          exact h.process_ne

lemma hear_fits (host : Host) (state : SessionState) (h : s.record.Fits) :
    (s.hear host state).record.Fits := by
  unfold hear
  dsimp only
  split
  · exact detach_fits (onSession_fits host state h)
  · exact onSession_fits host state h

end Scene

end AppLifecycle
