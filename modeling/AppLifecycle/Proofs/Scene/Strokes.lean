import AppLifecycle.Proofs.Scene.Revival

/-!
# Operations stroke by stroke

An operation may take a record into one state after another: an application that is suspended runs
before it closes. `Operation.strokes` cuts what an operation does to a record into strokes. Each of
them takes the record into one state at most, or launches it again, and is a function that the
operation is made of, so that the strokes in turn are the operation (`play_closing`,
`play_reportProcess`, `play_reportSession`). A record that has been revived in the middle of an
operation has been in one of its strokes (`RevivedIn`).
-/

namespace AppLifecycle

namespace Scene

variable {host : Host} {s : Scene} {f : Scene → Scene} {strokes strokes' : List (Scene → Scene)}

/-- One stroke after the other. -/
def play (strokes : List (Scene → Scene)) (s : Scene) : Scene := strokes.foldl (fun s f => f s) s

/-- One of the strokes revives the record. -/
def RevivedIn : List (Scene → Scene) → Scene → Prop
  | [], _ => False
  | f :: rest, s => s.Revives (f s) ∨ RevivedIn rest (f s)

lemma revivedIn_singleton : RevivedIn [f] s ↔ s.Revives (f s) := by
  simp only [RevivedIn, or_false]

lemma revivedIn_append : RevivedIn (strokes ++ strokes') s ↔
    RevivedIn strokes s ∨ RevivedIn strokes' (play strokes s) := by
  induction strokes generalizing s with
  | nil => simp only [List.nil_append, RevivedIn, play, List.foldl_nil, false_or]
  | cons f rest ih => exact (or_congr_right ih).trans or_assoc.symm

/-! ## The strokes of an operation -/

/-- An application is closed; one that is suspended, or about to be, is resumed first. -/
def closing (host : Host) (s : Scene) : List (Scene → Scene) :=
  match s.record.state with
  | .runningInBackground => [request host .running, beginClose host]
  | .suspendingWaitSession => [request host .running, beginClose host]
  | .suspendingWaitProcess => [request host .running, beginClose host]
  | .suspended => [request host .running, beginClose host]
  | _ => [close host]

/-- A process is reported in another state, and the record is reconciled. -/
def reportProcess (host : Host) (process : ProcessState) (s : Scene) : List (Scene → Scene) :=
  if s.record.process = process then []
  else [fun s => s.update fun r => { r with process }, heedProcess host process, reconcile host]

/-- A session is reported in a state. A record runs with its session before it is reconciled. -/
def reportSession (host : Host) (state : SessionState) (s : Scene) : List (Scene → Scene) :=
  match state with
  | .running => if s.record.state = .starting then [enter host .running, reconcile host] else []
  | state => [hear host state]

lemma play_closing (host : Host) (s : Scene) : play (closing host s) s = s.close host := by
  unfold closing close
  cases state : s.record.state <;> simp [play, state]

lemma play_reportProcess (host : Host) (process : ProcessState) (s : Scene) :
    play (reportProcess host process s) s = s.onProcess host process := by
  rw [onProcess_eq]
  unfold reportProcess
  split <;> rfl

lemma play_reportSession (host : Host) (state : SessionState) (s : Scene) :
    play (reportSession host state s) s = s.hear host state := by
  cases state with
  | running =>
    rw [hear_goesOn host (by decide)]
    unfold reportSession onSession
    dsimp only
    split <;> rfl
  | _ => rfl

end Scene

/-- What an operation does to a record that it finds. -/
def Operation.strokes (host : Host) (s : Scene) : Operation → List (Scene → Scene)
  | .start _ _ => []
  | .stop _ => s.closing host
  | .focus _ => []
  | .suspend _ => [Scene.request host .suspended]
  | .resume _ => [Scene.request host .running]
  | .setExempt _ exempt => [Scene.setExempt host exempt]
  | .setStage _ stage => [fun s => (s.setStage stage).2]
  | .updateScreenshot _ => [Scene.updateScreenshot]
  | .tick now => [fun s => (s.tick host now).2]
  | .process (.starting _) => s.reportProcess host .running
  | .process (.stopped _) => s.reportProcess host .stopped
  | .process (.failed _ _) => s.reportProcess host .failed ++ [Scene.setPid 0]
  | .process (.suspended _) => s.reportProcess host .suspended
  | .process (.focusRequested _) => []
  | .process (.resumeRequested _) => [Scene.request host .running]
  | .authorize _ => []
  | .sessionStarting session => [Scene.attach session]
  | .sessionState _ state => s.reportSession host state
  | .sessionClosed _ => s.reportSession host .stopped

/-- The operation may resume an application. -/
def Operation.mayResume : Operation → Bool
  | .stop _ => true
  | .resume _ => true
  | .process (.resumeRequested _) => true
  | _ => false

namespace Scene

variable {host : Host} {s : Scene} {op : Operation}

/-! ## Strokes that revive a record -/

lemma closing_eq (host : Host) (s : Scene) :
    s.closing host = [request host .running, beginClose host] ∨
    s.record.state.isAsleep = false ∧ s.closing host = [close host] := by
  unfold closing
  cases s.record.state <;> simp [InternalState.isAsleep]

/-- A record that is to be closed is revived exactly if it is asleep and its process is gone. -/
lemma revivedIn_closing_iff (host : Host) (awake : s.record.Awake) (timed : s.record.Timed) :
    RevivedIn (s.closing host) s ↔
      s.record.process.isGone = true ∧ s.record.state.isAsleep = true := by
  obtain woken | ⟨up, closes⟩ := closing_eq host s
  · -- it is revived before it closes, if at all
    have later : ¬RevivedIn [beginClose host] (s.request host .running) :=
      mt revivedIn_singleton.mp (not_revives_of_not_running (beginClose_not_running host))
    rw [woken]
    exact (or_iff_left later).trans (request_revives_iff host awake)
  · rw [closes, revivedIn_singleton, close_revives_iff host awake timed, up]
    simp

lemma not_revivedIn_reportProcess (host : Host) (process : ProcessState)
    (awake : s.record.Awake) : ¬RevivedIn (s.reportProcess host process) s := by
  unfold reportProcess
  split
  · exact id
  · rintro (revives | revives | revives | no)
    · exact absurd revives (not_revives_of_state rfl)
    · exact absurd revives (not_revives_of_not_running (heedProcess_not_running host process))
    · exact absurd revives (heedProcess_reconcile_not_revives host awake rfl)
    · exact no

lemma not_revivedIn_reportSession (host : Host) (state : SessionState)
    (fresh : s.record.Fresh) : ¬RevivedIn (s.reportSession host state) s := by
  unfold reportSession
  split
  · split
    · rename_i starting
      rintro (revives | revives | no)
      · -- the process of a record that is starting is there
        have gone := revives.2.2
        rw [enter_process, fresh starting] at gone
        cases gone
      · exact revives.1 (enter_state host .running s)
      · exact no
    · exact id
  · exact mt revivedIn_singleton.mp (hear_not_revives host _ fresh)

lemma not_revives_tick (host : Host) (now : Instant) (s : Scene) :
    ¬s.Revives (s.tick host now).2 := by
  obtain same | ⟨-, stopped⟩ := tick_record host now s
  · exact not_revives_of_state (by rw [same])
  · refine not_revives_of_not_running fun _ => ?_
    rw [stopped]
    decide

/-- Only operations that may resume an application revive one. -/
theorem not_revivedIn_strokes (host : Host) (reports : op.mayResume = false)
    (awake : s.record.Awake) (fresh : s.record.Fresh) : ¬RevivedIn (op.strokes host s) s := by
  have single {f : Scene → Scene} (h : ¬s.Revives (f s)) : ¬RevivedIn [f] s :=
    mt revivedIn_singleton.mp h
  have report (process : ProcessState) := not_revivedIn_reportProcess host process awake
  cases op with
  | start _ _ | focus _ | authorize _ => exact id
  | suspend _ =>
    exact single (not_revives_of_not_running fun other =>
      request_not_running host other fun no => by cases no)
  | setExempt _ exempt => exact single (not_revives_of_standing (s.setExempt_standing host exempt))
  | setStage _ stage => exact single (not_revives_of_standing (s.setStage_standing stage))
  | updateScreenshot _ => exact single (not_revives_of_standing rfl)
  | tick now => exact single (not_revives_tick host now s)
  | process event =>
    cases event with
    | starting _ | stopped _ | suspended _ => exact report _
    | failed _ _ =>
      rw [Operation.strokes, revivedIn_append, revivedIn_singleton]
      exact not_or.mpr ⟨report .failed, not_revives_of_standing rfl⟩
    | focusRequested _ => exact id
    | resumeRequested _ => cases reports
  | sessionStarting session => exact single (not_revives_of_state (s.attach_standing session).2.1)
  | sessionState _ state => exact not_revivedIn_reportSession host state fresh
  | sessionClosed _ => exact not_revivedIn_reportSession host .stopped fresh
  | _ => cases reports

end Scene

end AppLifecycle
