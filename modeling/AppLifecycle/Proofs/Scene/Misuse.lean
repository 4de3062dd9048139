import AppLifecycle.Proofs.Scene.Conduct

/-!
# Steps that are out of place

Some steps of a record have a state that they may be taken in: a record is suspended while it runs
and resumed while it is asleep, closing begins while the close timer is idle, a session is taken away
from an application that has stopped, and the process of a record does not become unknown again. A
step that is taken all the same is reported, so that a journal without such a report (`Proper`) tells
that none was. Each operation adds none, most of them whatever the record is like; only closing needs
the timer to be running while the record is closing only.
-/

namespace AppLifecycle

/-- A step was taken that there is none of in the state that the record is in. -/
def Violation.isMisuse : Violation → Bool
  | .processUnknown => true
  | .sessionRemoved _ => true
  | .suspendWhile _ => true
  | .resumeWhile _ => true
  | .closeWhileArmed => true
  | _ => false

/-- It is no report of a step that was out of place. -/
def Effect.Proper : Effect → Prop
  | .report (.violated v) => v.isMisuse = false
  | _ => True

namespace Scene

variable {host : Host} {s : Scene}

/-- No step has been reported to be out of place. -/
def Proper (s : Scene) : Prop := ∀ e ∈ s.journal, e.Proper

namespace Proper

/-! ## Single steps -/

lemma of_journal {t : Scene} (h : s.Proper) (same : t.journal = s.journal) : t.Proper := by
  unfold Proper
  rw [same]
  exact h

lemma log (h : s.Proper) {e : Effect} (proper : e.Proper) : (s.log e).Proper := by
  intro e' he
  obtain he | he := List.mem_append.mp he
  · exact h e' he
  · rw [List.mem_singleton.mp he]
    exact proper

lemma call (h : s.Proper) (c : ControllerCall) : (s.call c).Proper := h.log trivial

lemma ask (h : s.Proper) (session : Session) (action : SessionAction) :
    (s.log (.ask session action)).Proper := h.log trivial

lemma update (h : s.Proper) (f : Record → Record) : (s.update f).Proper := h

/-- A violation may be none of the state. -/
lemma violate (h : s.Proper) {v : Violation} (other : v.isMisuse = false) : (s.violate v).Proper :=
  (h.update _).log other

lemma enter (h : s.Proper) (state : InternalState) : (s.enter host state).Proper :=
  h.of_journal (enter_journal host state s)

lemma askSession (h : s.Proper) (action : SessionAction) {absent : Violation}
    (other : absent.isMisuse = false) : (s.askSession action absent).Proper := by
  unfold Scene.askSession
  split
  · exact h.log trivial
  · exact h.violate other

lemma letGoSession (h : s.Proper) : s.letGoSession.Proper := by
  unfold Scene.letGoSession
  split
  · exact h
  · exact (h.update _).log trivial

/-! ## Reconciliation -/

lemma suspend (h : s.Proper) (running : s.record.state = .running) : (s.suspend host).Proper := by
  unfold Scene.suspend
  rw [if_neg (not_not_intro running)]
  split
  · exact h.violate rfl
  · split
    · exact h.enter _
    · exact (h.ask _ _).enter _

lemma resume (h : s.Proper) (asleep : s.record.state.isAsleep = true) :
    (s.resume host).Proper := by
  unfold Scene.resume
  obtain state | state | state := Record.asleep_cases asleep <;> rw [state]
  · exact h.enter _
  · exact (h.enter _).askSession _ rfl
  · exact (((h.enter _).call _).update _).askSession _ rfl

lemma respawn (h : s.Proper) : (s.respawn host).Proper := by
  have noted : (s.update fun r => { r with pid := 0, process := .unknown }).Proper := h
  have started : ((s.update fun r => { r with pid := 0, process := .unknown }).enter host
      .starting).Proper := noted.enter _
  unfold Scene.respawn
  dsimp only
  split
  · exact started.call _
  · exact ((started.call _).log (e := .report .respawnFailed) trivial).enter _

/-- Reconciliation suspends what runs, and resumes what is asleep. -/
lemma reconcile (h : s.Proper) : (s.reconcile host).Proper := by
  have counted : (s.update fun r => { r with passes := r.passes + 1 }).Proper := h
  unfold Scene.reconcile
  generalize s.update (fun r => { r with passes := r.passes + 1 }) = t at counted
  dsimp only
  split
  · rename_i background
    exact counted.resume (by rw [background]; rfl)
  · rename_i waiting
    exact counted.resume (by rw [waiting]; rfl)
  · rename_i suspended
    exact counted.resume (by rw [suspended]; rfl)
  · exact counted.respawn
  · rename_i running
    split
    · exact counted.suspend running
    · exact counted
    · exact counted.violate rfl
  · exact counted

/-! ## Closing and stopping -/

lemma beginClose (h : s.Proper) (unarmed : s.record.timer.isArmed = false) :
    (s.beginClose host).Proper := by
  cases attached : s.record.session with
  | none =>
    rw [beginClose_of_none host unarmed attached]
    exact h.violate rfl
  | some session =>
    rw [beginClose_of_session host unarmed attached]
    exact ((h.ask session .close).update _).enter _

lemma forceStop (h : s.Proper) : (s.forceStop host).Proper := by
  have asked := (h.update fun r => { r with timer := r.timer.cancel }).call (.stop s.record.id)
  unfold Scene.forceStop
  dsimp only
  split
  · exact asked
  · split
    · split
      · exact asked.call _
      · exact (asked.call _).log trivial
    · split
      · exact asked.enter _
      · exact asked

/-! ## Operations -/

lemma request (h : s.Proper) (value : RequestedState) : (s.request host value).Proper := by
  unfold Scene.request
  split
  · exact h
  · exact (h.update _).reconcile

lemma setExempt (h : s.Proper) (exempt : Bool) : (s.setExempt host exempt).Proper := by
  unfold Scene.setExempt
  split
  · exact h
  · exact h.of_journal (syncWakelock_journal host _)

lemma setStage (h : s.Proper) (stage : Stage) : (s.setStage stage).2.Proper := by
  unfold Scene.setStage
  split
  · exact h
  · exact h

/-- A record that is closed was not closing, nor is it after it has been woken, so that the timer is
idle. -/
lemma close (h : s.Proper) (timed : s.record.Timed) : (s.close host).Proper := by
  obtain ⟨-, same⟩ | ⟨running, same⟩ | ⟨asleep, same⟩ | ⟨-, same⟩ | ⟨-, same⟩ := close_eq host s <;>
    rw [same]
  · exact h.forceStop
  · exact h.beginClose (timed.unarmed (by rw [running]; decide))
  · have idle : s.record.state ≠ .closing ∧ s.record.state ≠ .stoppedResumable := by
      constructor <;> intro state <;> rw [state] at asleep <;> revert asleep <;> decide
    -- being woken does not start the timer, nor does it make a record close
    have calm : Calm s (s.request host .running) := (Calm.refl timed).request fun _ => idle.2
    exact (h.request _).beginClose
      (calm.timed.unarmed fun closing => idle.1 (calm.closing closing).1)
  · exact h.enter _
  · exact h

lemma tick (h : s.Proper) (now : Instant) : (s.tick host now).2.Proper := by
  have polled := h.update fun r => { r with timer := (s.record.timer.poll now).2 }
  unfold Scene.tick
  dsimp only
  split
  · exact polled.forceStop
  · exact polled

lemma checkSessionStopped (h : s.Proper) {violation : SessionState → Violation}
    (other : ∀ state, (violation state).isMisuse = false) :
    (s.checkSessionStopped host violation).Proper := by
  unfold Scene.checkSessionStopped
  split
  · exact h
  · split
    · exact h
    · exact h.violate (other _)

lemma onProcess (h : s.Proper) {process : ProcessState} (seen : process ≠ .unknown) :
    (s.onProcess host process).Proper := by
  have noted := h.update fun r => { r with process }
  unfold Scene.onProcess
  split
  · exact h
  · refine Proper.reconcile ?_
    cases process with
    | unknown => exact absurd rfl seen
    | running =>
      dsimp only
      split
      · exact noted.enter _
      · exact noted
    | suspended =>
      dsimp only
      split
      · exact noted.call _
      · exact noted.enter _
    | failed =>
      have checked : ((s.update fun r => { r with process := .failed }).checkSessionStopped host
          .failedInSession).Proper := noted.checkSessionStopped fun _ => rfl
      dsimp only
      split
      · exact checked.enter _
      · exact checked
      · exact checked
      · exact checked.violate rfl
    | stopped =>
      have checked : ((s.update fun r => { r with process := .stopped }).checkSessionStopped host
          .stoppedInSession).Proper := noted.checkSessionStopped fun _ => rfl
      dsimp only
      split
      · exact checked.enter _
      · exact checked.enter _
      · exact checked.enter _
      · exact checked.enter _
      · exact checked
      · exact checked.violate rfl

lemma onSession (h : s.Proper) (state : SessionState) (timed : s.record.Timed) :
    (s.onSession host state).Proper := by
  unfold Scene.onSession
  split
  · exact h
  · exact h
  · split
    · exact (h.enter _).reconcile
    · exact h
  · split
    · exact (h.enter _).call _
    · exact h.violate rfl
  · split
    · rename_i waiting
      exact (h.beginClose (timed.unarmed (by rw [waiting.1]; decide))).call _
    · split
      · exact h.enter _
      · exact h.enter _

lemma attach (h : s.Proper) (session : Session) : (s.attach session).Proper :=
  (h.letGoSession.update _).log trivial

/-- A session is taken away only where the application has stopped with it. -/
lemma hear (h : s.Proper) (state : SessionState) (timed : s.record.Timed) :
    (s.hear host state).Proper := by
  have heard : (s.onSession host state).Proper := h.onSession state timed
  unfold Scene.hear
  dsimp only
  split
  · -- this is the condition under which a session may be taken away
    rename_i ended
    unfold Scene.detach
    rw [if_pos ended.2]
    exact heard.letGoSession
  · exact heard

end Proper

end Scene

end AppLifecycle
