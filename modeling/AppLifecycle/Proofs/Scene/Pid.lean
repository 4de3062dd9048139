import AppLifecycle.Proofs.Scene.Moves

/-!
# The process of a record

No operation of a record gives it a process: it keeps the one that it has, or loses it. Which
process a record has is decided where sessions are authorized, and nowhere else.
-/

namespace AppLifecycle

namespace Scene

variable {host : Host} {s t u : Scene}

/-- The record of `t` has the process that the record of `s` has, or none. -/
def KeepsPid (s t : Scene) : Prop := t.record.pid = s.record.pid ∨ t.record.pid = 0

lemma KeepsPid.of_eq (h : t.record.pid = s.record.pid) : s.KeepsPid t := .inl h

lemma KeepsPid.trans (h : s.KeepsPid t) (h' : t.KeepsPid u) : s.KeepsPid u := by
  unfold KeepsPid at *
  omega

/-! ## Steps that do not touch the process -/

@[simp] lemma enter_pid (host : Host) (state : InternalState) (s : Scene) :
    (s.enter host state).record.pid = s.record.pid := by
  unfold enter
  split
  · rfl
  · rw [syncWakelock_record]
    rfl

@[simp] lemma log_pid (s : Scene) (e : Effect) : (s.log e).record.pid = s.record.pid := rfl

@[simp] lemma call_pid (s : Scene) (c : ControllerCall) :
    (s.call c).record.pid = s.record.pid := rfl

@[simp] lemma violate_pid (s : Scene) (v : Violation) :
    (s.violate v).record.pid = s.record.pid := rfl

@[simp] lemma askSession_pid (s : Scene) (action : SessionAction) (absent : Violation) :
    (s.askSession action absent).record.pid = s.record.pid := by
  unfold askSession
  split <;> rfl

@[simp] lemma suspend_pid (host : Host) (s : Scene) :
    (s.suspend host).record.pid = s.record.pid := by
  unfold suspend
  split
  · rfl
  · split
    · rfl
    · split <;> simp

@[simp] lemma resume_pid (host : Host) (s : Scene) :
    (s.resume host).record.pid = s.record.pid := by
  have wake : ∀ c, (((s.enter host .running).call c).update fun r =>
      { r with process := if r.process = .suspended then .running else r.process }).record.pid =
        s.record.pid := fun c => enter_pid host .running s
  unfold resume
  split <;> simp [wake]

@[simp] lemma beginClose_pid (host : Host) (s : Scene) :
    (s.beginClose host).record.pid = s.record.pid := by
  unfold beginClose
  split
  · rfl
  · split
    · rfl
    · rw [enter_pid]
      rfl

@[simp] lemma forceStop_pid (host : Host) (s : Scene) :
    (s.forceStop host).record.pid = s.record.pid := by
  unfold forceStop
  dsimp only
  split
  · rfl
  · split
    · split <;> rfl
    · split
      · rw [enter_pid]
        rfl
      · rfl

@[simp] lemma checkSessionStopped_pid (host : Host) (violation : SessionState → Violation)
    (s : Scene) : (s.checkSessionStopped host violation).record.pid = s.record.pid := by
  unfold checkSessionStopped
  split
  · rfl
  · split <;> rfl

@[simp] lemma letGoSession_pid (s : Scene) : s.letGoSession.record.pid = s.record.pid := by
  unfold letGoSession
  split <;> rfl

@[simp] lemma detach_pid (s : Scene) : s.detach.record.pid = s.record.pid := by
  unfold detach
  split
  · exact letGoSession_pid s
  · rfl

/-! ## Operations -/

/-- Only a launch in place of a process that is gone makes the record lose it. -/
lemma respawn_pid (host : Host) (s : Scene) : (s.respawn host).record.pid = 0 := by
  unfold respawn
  dsimp only
  split
  · exact enter_pid host _ _
  · exact (enter_pid host _ _).trans (enter_pid host _ _)

lemma reconcile_keepsPid (host : Host) (s : Scene) : s.KeepsPid (s.reconcile host) := by
  have counted : s.KeepsPid (s.update fun r => { r with passes := r.passes + 1 }) := .of_eq rfl
  refine counted.trans ?_
  unfold reconcile
  dsimp only
  split
  · exact .of_eq (resume_pid host _)
  · exact .of_eq (resume_pid host _)
  · exact .of_eq (resume_pid host _)
  · exact .inr (respawn_pid host _)
  · split
    · exact .of_eq (suspend_pid host _)
    · exact .of_eq rfl
    · exact .of_eq rfl
  · exact .of_eq rfl

lemma request_keepsPid (host : Host) (value : RequestedState) (s : Scene) :
    s.KeepsPid (s.request host value) := by
  unfold request
  split
  · exact .of_eq rfl
  · exact (KeepsPid.of_eq rfl).trans (reconcile_keepsPid host _)

lemma setExempt_keepsPid (host : Host) (exempt : Bool) (s : Scene) :
    s.KeepsPid (s.setExempt host exempt) := by
  unfold setExempt
  split
  · exact .of_eq rfl
  · refine .of_eq ?_
    rw [syncWakelock_record]
    rfl

lemma setStage_keepsPid (stage : Stage) (s : Scene) : s.KeepsPid (s.setStage stage).2 := by
  unfold setStage
  split <;> exact .of_eq rfl

lemma close_keepsPid (host : Host) (s : Scene) : s.KeepsPid (s.close host) := by
  have woken : s.KeepsPid ((s.request host .running).beginClose host) :=
    (request_keepsPid host .running s).trans (.of_eq (beginClose_pid host _))
  unfold close
  split
  · exact .of_eq (forceStop_pid host s)
  · exact .of_eq (beginClose_pid host s)
  · exact woken
  · exact woken
  · exact woken
  · exact woken
  · exact .of_eq rfl
  · exact .of_eq (enter_pid host _ s)
  · exact .of_eq rfl

lemma tick_keepsPid (host : Host) (now : Instant) (s : Scene) : s.KeepsPid (s.tick host now).2 := by
  unfold tick
  dsimp only
  split
  · exact .of_eq (forceStop_pid host _)
  · exact .of_eq rfl

lemma onProcess_keepsPid (host : Host) (process : ProcessState) (s : Scene) :
    s.KeepsPid (s.onProcess host process) := by
  unfold onProcess
  split
  · exact .of_eq rfl
  · -- whatever the report does to the record, the process is lost in reconciliation at most
    refine KeepsPid.trans ?_ (reconcile_keepsPid host _)
    refine .of_eq ?_
    cases process with
    | unknown => rfl
    | running =>
      dsimp only
      split
      · exact enter_pid host _ _
      · rfl
    | suspended =>
      dsimp only
      split
      · rfl
      · exact enter_pid host _ _
    | failed =>
      dsimp only
      split <;> simp only [enter_pid, violate_pid, checkSessionStopped_pid] <;> rfl
    | stopped =>
      dsimp only
      split <;> simp only [enter_pid, violate_pid, checkSessionStopped_pid] <;> rfl

lemma onSession_keepsPid (host : Host) (session : SessionState) (s : Scene) :
    s.KeepsPid (s.onSession host session) := by
  unfold onSession
  split
  · exact .of_eq rfl
  · exact .of_eq rfl
  · split
    · exact (KeepsPid.of_eq (enter_pid host _ s)).trans (reconcile_keepsPid host _)
    · exact .of_eq rfl
  · split
    · exact .of_eq (enter_pid host _ s)
    · exact .of_eq rfl
  · split
    · exact .of_eq (beginClose_pid host s)
    · split
      · exact .of_eq (enter_pid host _ s)
      · exact .of_eq (enter_pid host _ s)

lemma hear_keepsPid (host : Host) (state : SessionState) (s : Scene) :
    s.KeepsPid (s.hear host state) := by
  have heard := onSession_keepsPid host state s
  unfold hear
  dsimp only
  split
  · exact heard.trans (.of_eq (detach_pid _))
  · exact heard

lemma attach_keepsPid (session : Session) (s : Scene) : s.KeepsPid (s.attach session) :=
  .of_eq (letGoSession_pid s)

/-- A record that is told which process it has keeps to it. -/
lemma identify_pid (pid : Nat) (side : Prop) [Decidable side] (s : Scene) :
    (s.identify pid side).record.pid = pid := by
  unfold identify setStage
  dsimp only
  split
  · split <;> rfl
  · rfl

end Scene

end AppLifecycle
