import AppLifecycle.Proofs.Scene.Pid
import AppLifecycle.Proofs.Scene.Revival

/-!
# Records whose processes outlive them

An application whose session has ended while it was suspended can be launched again. Its process
should be gone by then, but may have outlived it (`Outlived`): only the end of the session makes it
so, and nothing else is asked of the process before.
-/

namespace AppLifecycle

/-- The record is where it was, and so are its session and its process. -/
structure Record.Rests (r q : Record) : Prop where
  state : q.state = r.state
  session : q.session = r.session
  process : q.process = r.process

/-- The application can be launched again, but its process has not been reported to be gone. -/
def Record.Outlived (r : Record) : Prop :=
  r.state = .stoppedResumable ∧ r.process.isGone = false

instance (r : Record) : Decidable r.Outlived := inferInstanceAs (Decidable (_ ∧ _))

lemma Record.Outlived.of_rests {r q : Record} (h : q.Outlived) (rests : r.Rests q) :
    r.Outlived := by
  refine ⟨rests.state.symm.trans h.1, ?_⟩
  rw [← rests.process]
  exact h.2

namespace Scene

variable {host : Host} {s t : Scene}

/-! ## Records that can be launched again were so before -/

lemma rests_of_standing (same : t.record.standing = s.record.standing) :
    s.record.Rests t.record := by
  obtain ⟨-, state, session, process⟩ := Record.standing_inj.mp same
  exact ⟨state, session, process⟩

lemma rests_of_state {state : InternalState} (gone : t.record.state = .stoppedResumable)
    (entered : t.record.state = state) (other : state ≠ .stoppedResumable) :
    s.record.Rests t.record :=
  absurd (entered.symm.trans gone) other

lemma reconcile_rests (host : Host) (gone : (s.reconcile host).record.state = .stoppedResumable) :
    s.record.Rests (s.reconcile host).record := by
  cases s.reconcile_cases host with
  | wakes _ _ wakes => exact rests_of_state gone wakes.1 (by decide)
  | launches _ _ state _ =>
    obtain state | state := state
    · exact rests_of_state gone state (by decide)
    · exact rests_of_state gone state (by decide)
  | suspends _ _ _ state =>
    obtain state | state | state := state
    · exact rests_of_state gone state (by decide)
    · exact rests_of_state gone state (by decide)
    · exact rests_of_state gone state (by decide)
  | stays same _ => exact rests_of_standing same

lemma request_rests (host : Host) {value : RequestedState}
    (gone : (s.request host value).record.state = .stoppedResumable) :
    s.record.Rests (s.request host value).record := by
  unfold request at gone ⊢
  split
  · exact ⟨rfl, rfl, rfl⟩
  · rename_i other
    rw [if_neg other] at gone
    obtain ⟨state, session, process⟩ :=
      reconcile_rests (s := s.update fun r => { r with requested := value }) host gone
    exact ⟨state, session, process⟩

lemma beginClose_rests (host : Host)
    (gone : (s.beginClose host).record.state = .stoppedResumable) :
    s.record.Rests (s.beginClose host).record := by
  unfold beginClose at gone ⊢
  by_cases armed : s.record.timer.isArmed = true
  · rw [if_pos armed]
    exact ⟨rfl, rfl, rfl⟩
  · rw [if_neg armed] at gone ⊢
    cases session : s.record.session with
    | none => exact ⟨rfl, rfl, rfl⟩
    | some session' =>
      rw [session] at gone
      exact rests_of_state gone (enter_state _ _ _) (by decide)

lemma close_rests (host : Host) (gone : (s.close host).record.state = .stoppedResumable) :
    s.record.Rests (s.close host).record := by
  obtain ⟨-, eq⟩ | ⟨-, eq⟩ | ⟨-, eq⟩ | ⟨-, eq⟩ | ⟨-, eq⟩ := close_eq host s
  all_goals rw [eq] at gone ⊢
  · obtain same | ⟨-, stopped, -⟩ := forceStop_record host s
    · rw [same]
      exact ⟨rfl, rfl, rfl⟩
    · exact rests_of_state gone stopped (by decide)
  · exact beginClose_rests host gone
  · have asked := beginClose_rests host gone
    have before := request_rests host (asked.state.symm.trans gone)
    exact ⟨asked.state.trans before.state, asked.session.trans before.session,
      asked.process.trans before.process⟩
  · exact rests_of_state gone (enter_state _ _ _) (by decide)
  · exact ⟨rfl, rfl, rfl⟩

/-- A report on the process of a record that can be launched again takes it elsewhere, or says that
the process is gone. -/
lemma onProcess_rests (host : Host) {process : ProcessState} (known : process ≠ .unknown)
    (gone : (s.onProcess host process).record.state = .stoppedResumable) :
    s.record.Rests (s.onProcess host process).record ∨
    s.record.state = .stoppedResumable ∧
      (s.onProcess host process).record.process.isGone = true := by
  by_cases same : s.record.process = process
  · have unchanged : s.onProcess host process = s := if_pos same
    rw [unchanged]
    exact .inl ⟨rfl, rfl, rfl⟩
  · obtain ⟨t, reconciles, standing⟩ := onProcess_reconciles host same
    rw [reconciles] at gone ⊢
    have rests := reconcile_rests host gone
    simp only [Record.standing, Prod.mk.injEq] at standing
    obtain ⟨-, state, -, news⟩ := standing
    have left := state.symm.trans (rests.state.symm.trans gone)
    rw [rests.process, news]
    -- only a failure leaves such a record where it is
    revert left known
    cases process <;> cases s.record.state <;> simp [ProcessState.leadsTo, ProcessState.isGone]

lemma hear_rests (host : Host) {state : SessionState} (goesOn : state ≠ .stopped)
    (gone : (s.hear host state).record.state = .stoppedResumable) :
    s.record.Rests (s.hear host state).record := by
  obtain same | ⟨-, -, entered | entered | entered⟩ | waits | ⟨ended, -⟩ :=
    hear_outcome host state s
  · exact rests_of_standing same
  · exact rests_of_state gone entered (by decide)
  · exact rests_of_state gone entered (by decide)
  · exact rests_of_state gone entered (by decide)
  · exact rests_of_state gone waits (by decide)
  · exact absurd ended goesOn

/-! ## Who is outlived by its process -/

/-- A report on its process does not leave a record outlived that was not so before. -/
lemma onProcess_outlived (host : Host) {process : ProcessState} (known : process ≠ .unknown)
    (h : (s.onProcess host process).record.Outlived) : s.record.Outlived := by
  obtain rests | ⟨-, gone⟩ := onProcess_rests host known h.1
  · exact h.of_rests rests
  · exact absurd (h.2.symm.trans gone) Bool.false_ne_true

/-- When its session ends, a record is outlived by its process if it is suspended, or is being
suspended, and the process is there. -/
lemma hear_stopped_outlived (host : Host) (tracked : s.record.state ≠ .stopped)
    (h : (s.hear host .stopped).record.Outlived) : s.record.Outlived ∨
    s.record.state.isAsleep = true ∧
      (s.record.process = .running ∨ s.record.process = .suspended) := by
  obtain ⟨gone, alive⟩ := h
  obtain ⟨goesOn, failed, -, process⟩ := hear_stopped_gone host gone
  rw [process] at alive
  unfold Record.isOver Record.canBeResumed at goesOn
  cases state : s.record.state with
  | stoppedResumable => exact .inl ⟨state, alive⟩
  | suspendingWaitProcess =>
    rw [failed state] at alive
    cases alive
  | _ =>
    cases process : s.record.process <;> simp_all [InternalState.isAsleep, ProcessState.isGone]

/-- An application that is launched again starts anew: of its process nothing is known any more. -/
lemma request_respawns (host : Host) (gone : s.record.state = .stoppedResumable)
    (asleep : s.record.requested = .suspended) :
    ((s.request host .running).record.state = .starting ∨
      (s.request host .running).record.state = .stopped) ∧
    (s.request host .running).record.process = .unknown ∧
    (s.request host .running).record.pid = 0 := by
  have launched := reconcile_gone (s := s.update fun r => { r with requested := .running }) host
    rfl gone
  unfold request
  rw [if_neg (by rw [asleep]; decide), launched]
  exact ⟨respawn_state host _, respawn_process host _, respawn_pid host _⟩

end Scene

end AppLifecycle
