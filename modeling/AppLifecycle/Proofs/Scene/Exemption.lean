import AppLifecycle.Proofs.Scene.Reconciliation

/-!
# The exemption of a record

Whether an application is exempt from the lifecycle is decided when its record is created. No
operation of a record has a say in it, but for the one that shells have to change it; and a request
to suspend the application, once it has come to the record, is noted in any case.
-/

namespace AppLifecycle

namespace Scene

/-! ## Single steps -/

@[simp] lemma enter_exempt (host : Host) (state : InternalState) (s : Scene) :
    (s.enter host state).record.exempt = s.record.exempt := by
  unfold enter
  split
  · rfl
  · rw [syncWakelock_record]
    rfl

@[simp] lemma askSession_exempt (s : Scene) (action : SessionAction) (absent : Violation) :
    (s.askSession action absent).record.exempt = s.record.exempt := by
  unfold askSession
  split <;> rfl

@[simp] lemma letGoSession_exempt (s : Scene) :
    s.letGoSession.record.exempt = s.record.exempt := by
  unfold letGoSession
  split <;> rfl

@[simp] lemma checkSessionStopped_exempt (host : Host) (violation : SessionState → Violation)
    (s : Scene) : (s.checkSessionStopped host violation).record.exempt = s.record.exempt := by
  unfold checkSessionStopped
  split
  · rfl
  · split <;> rfl

@[simp] lemma suspend_exempt (host : Host) (s : Scene) :
    (s.suspend host).record.exempt = s.record.exempt := by
  unfold suspend
  split
  · rfl
  · split
    · rfl
    · split <;> simp

@[simp] lemma resume_exempt (host : Host) (s : Scene) :
    (s.resume host).record.exempt = s.record.exempt := by
  have wake : ∀ c, (((s.enter host .running).call c).update fun r =>
      { r with process := if r.process = .suspended then .running else r.process }).record.exempt =
        s.record.exempt := fun c => enter_exempt host .running s
  unfold resume
  split
  · exact (askSession_exempt _ _ _).trans (wake _)
  · exact (askSession_exempt _ _ _).trans (wake _)
  · exact (askSession_exempt _ _ _).trans (enter_exempt host _ s)
  · exact enter_exempt host _ s
  · rfl

@[simp] lemma respawn_exempt (host : Host) (s : Scene) :
    (s.respawn host).record.exempt = s.record.exempt := by
  unfold respawn
  dsimp only
  split
  · exact enter_exempt host _ _
  · exact (enter_exempt host _ _).trans (enter_exempt host _ _)

@[simp] lemma beginClose_exempt (host : Host) (s : Scene) :
    (s.beginClose host).record.exempt = s.record.exempt := by
  unfold beginClose
  split
  · rfl
  · split
    · rfl
    · exact enter_exempt host _ _

@[simp] lemma forceStop_exempt (host : Host) (s : Scene) :
    (s.forceStop host).record.exempt = s.record.exempt := by
  unfold forceStop
  dsimp only
  split
  · rfl
  · split
    · split <;> rfl
    · split
      · exact enter_exempt host _ _
      · rfl

/-! ## Operations -/

@[simp] lemma reconcile_exempt (host : Host) (s : Scene) :
    (s.reconcile host).record.exempt = s.record.exempt := by
  unfold reconcile
  dsimp only
  split
  · exact resume_exempt host _
  · exact resume_exempt host _
  · exact resume_exempt host _
  · exact respawn_exempt host _
  · split
    · exact suspend_exempt host _
    · rfl
    · rfl
  · rfl

@[simp] lemma request_exempt (host : Host) (value : RequestedState) (s : Scene) :
    (s.request host value).record.exempt = s.record.exempt := by
  unfold request
  split
  · rfl
  · exact reconcile_exempt host _

@[simp] lemma setStage_exempt (stage : Stage) (s : Scene) :
    (s.setStage stage).2.record.exempt = s.record.exempt := by
  unfold setStage
  split <;> rfl

@[simp] lemma close_exempt (host : Host) (s : Scene) :
    (s.close host).record.exempt = s.record.exempt := by
  unfold close
  split <;> simp

@[simp] lemma tick_exempt (host : Host) (now : Instant) (s : Scene) :
    (s.tick host now).2.record.exempt = s.record.exempt := by
  unfold tick
  dsimp only
  split
  · exact forceStop_exempt host _
  · rfl

@[simp] lemma onProcess_exempt (host : Host) (process : ProcessState) (s : Scene) :
    (s.onProcess host process).record.exempt = s.record.exempt := by
  by_cases known : s.record.process = process
  · unfold onProcess
    rw [if_pos known]
  · unfold onProcess
    rw [if_neg known, reconcile_exempt]
    cases process with
    | unknown => rfl
    | running =>
      dsimp only
      split
      · exact enter_exempt host _ _
      · rfl
    | suspended =>
      dsimp only
      split
      · rfl
      · exact enter_exempt host _ _
    | failed =>
      dsimp only
      split
      · exact (enter_exempt host _ _).trans (checkSessionStopped_exempt host _ _)
      · exact checkSessionStopped_exempt host _ _
      · exact checkSessionStopped_exempt host _ _
      · exact checkSessionStopped_exempt host _ _
    | stopped =>
      dsimp only
      split
      · exact (enter_exempt host _ _).trans (checkSessionStopped_exempt host _ _)
      · exact (enter_exempt host _ _).trans (checkSessionStopped_exempt host _ _)
      · exact (enter_exempt host _ _).trans (checkSessionStopped_exempt host _ _)
      · exact (enter_exempt host _ _).trans (checkSessionStopped_exempt host _ _)
      · exact checkSessionStopped_exempt host _ _
      · exact checkSessionStopped_exempt host _ _

@[simp] lemma onSession_exempt (host : Host) (session : SessionState) (s : Scene) :
    (s.onSession host session).record.exempt = s.record.exempt := by
  cases session with
  | starting => rfl
  | suspending => rfl
  | running =>
    unfold onSession
    dsimp only
    split
    · exact (reconcile_exempt host _).trans (enter_exempt host _ s)
    · rfl
  | suspended =>
    unfold onSession
    dsimp only
    split
    · exact enter_exempt host _ s
    · rfl
  | stopped =>
    unfold onSession
    dsimp only
    split
    · exact beginClose_exempt host s
    · split
      · exact enter_exempt host _ s
      · exact enter_exempt host _ s

@[simp] lemma attach_exempt (session : Session) (s : Scene) :
    (s.attach session).record.exempt = s.record.exempt := letGoSession_exempt s

@[simp] lemma detach_exempt (s : Scene) : s.detach.record.exempt = s.record.exempt := by
  unfold detach
  split
  · exact letGoSession_exempt s
  · rfl

@[simp] lemma hear_exempt (host : Host) (state : SessionState) (s : Scene) :
    (s.hear host state).record.exempt = s.record.exempt := by
  unfold hear
  dsimp only
  split
  · rw [detach_exempt, onSession_exempt]
  · exact onSession_exempt host state s

/-! ## What is asked of a record that is to be suspended -/

lemma suspend_requested (host : Host) (s : Scene) :
    (s.suspend host).record.requested = s.record.requested := by
  unfold suspend
  split
  · rfl
  · split
    · rfl
    · split
      · exact enter_requested host _ s
      · exact enter_requested host _ _

/-- However far the suspension comes, it is asked for from now on. -/
lemma request_suspended_requested (host : Host) (s : Scene) :
    (s.request host .suspended).record.requested = .suspended := by
  unfold request
  split
  · assumption
  · unfold reconcile
    dsimp only
    split
    · rename_i running _
      cases running
    · rename_i running _
      cases running
    · rename_i running _
      cases running
    · rename_i running _
      cases running
    · split
      · exact suspend_requested host _
      · rfl
      · rfl
    · rfl

end Scene

end AppLifecycle
