import AppLifecycle.Proofs.Scene.Attendance
import AppLifecycle.Proofs.Scene.Conduct

/-!
# Records that begin to run

A record begins to run when it is resumed, or when its session does. Whether its process is gone is
looked at by neither: a session runs while its record starts, and then the process is there
(`Fresh`); what is resumed has the process that it had before, be it gone or not (`Wakes`). A record
that is resumed without a process has not been launched again, it is revived (`Revives`).
-/

namespace AppLifecycle

namespace Record

variable {r : Record}

/-- The process of a record that is starting is not gone. -/
def Fresh (r : Record) : Prop := r.state = .starting → r.process.isGone = false

lemma Fresh.of_state (h : r.state ≠ .starting) : r.Fresh := fun starting => absurd starting h

lemma Fresh.of_standing {q : Record} (h : r.Fresh) (same : q.standing = r.standing) : q.Fresh := by
  obtain ⟨-, state, -, process⟩ := standing_inj.mp same
  unfold Fresh
  rw [state, process]
  exact h

end Record

namespace Scene

variable {host : Host} {s t : Scene}

/-- The record has begun to run, and its process is gone. -/
def Revives (s t : Scene) : Prop :=
  s.record.state ≠ .running ∧ t.record.state = .running ∧ t.record.process.isGone = true

lemma not_revives_of_not_running (other : s.record.state ≠ .running →
    t.record.state ≠ .running) : ¬s.Revives t :=
  fun revives => other revives.1 revives.2.1

lemma not_revives_of_state (same : t.record.state = s.record.state) : ¬s.Revives t :=
  not_revives_of_not_running fun other => same.symm ▸ other

lemma not_revives_of_standing (same : t.record.standing = s.record.standing) : ¬s.Revives t :=
  not_revives_of_state (Record.standing_inj.mp same).2.1

/-! ## How a record begins to run -/

lemma request_wakes (host : Host) (awake : s.record.Awake)
    (asleep : s.record.state.isAsleep = true) : s.Wakes (s.request host .running) := by
  have requested := awake.requested asleep
  unfold request
  rw [if_neg (by rw [requested]; decide)]
  exact reconcile_wakes (s := s.update fun r => { r with requested := .running }) host rfl asleep

lemma request_not_running (host : Host) {value : RequestedState}
    (other : s.record.state ≠ .running)
    (stays : value = .running → s.record.state.isAsleep = false) :
    (s.request host value).record.state ≠ .running := by
  unfold request
  split
  · exact other
  · exact reconcile_not_running (s := s.update fun r => { r with requested := value }) host other
      stays

lemma beginClose_not_running (host : Host) (other : s.record.state ≠ .running) :
    (s.beginClose host).record.state ≠ .running := by
  unfold beginClose
  split
  · exact other
  · split
    · exact other
    · rw [enter_state]
      decide

/-- A record that is asleep runs on when it was to be closed, if it has no session. -/
lemma close_wakes (host : Host) (awake : s.record.Awake) (asleep : s.record.state.isAsleep = true)
    (alone : s.record.session = none) : s.Wakes (s.close host) := by
  obtain ⟨running, gone⟩ := request_wakes host awake asleep
  have alone' := (request_session host .running s).trans alone
  obtain ⟨-, state, -, process⟩ := Record.standing_inj.mp (beginClose_alone host alone')
  have woken : s.Wakes ((s.request host .running).beginClose host) := by
    refine ⟨state.trans running, ?_⟩
    rw [process]
    exact gone
  have closed : s.close host = (s.request host .running).beginClose host := by
    unfold close
    obtain h | h | h := Record.asleep_cases asleep <;> rw [h]
  rw [closed]
  exact woken

lemma close_not_running (host : Host) (timed : s.record.Timed) (other : s.record.state ≠ .running)
    (attached : s.record.state.isAsleep = true → s.record.session ≠ none) :
    (s.close host).record.state ≠ .running := by
  obtain ⟨-, h⟩ | ⟨running, h⟩ | ⟨state, h⟩ | ⟨-, h⟩ | ⟨-, h⟩ := close_eq host s <;> rw [h]
  · obtain same | ⟨-, stopped, -⟩ := forceStop_record host s
    · rw [same]
      exact other
    · rw [stopped]
      decide
  · exact absurd running other
  · cases asleep : s.record.state.isAsleep with
    | false => exact beginClose_not_running host (request_not_running host other fun _ => asleep)
    | true =>
      -- it is resumed, and then it closes, since it has a session
      have idle : s.record.state ≠ .closing ∧ s.record.state ≠ .stoppedResumable := by
        constructor <;> intro same <;> rw [same] at asleep <;> cases asleep
      have calm : Calm s (s.request host .running) := (Calm.refl timed).request fun _ => idle.2
      have unarmed := calm.timed.unarmed fun closing => idle.1 (calm.closing closing).1
      obtain ⟨session, hsession⟩ := Option.ne_none_iff_exists'.mp (attached asleep)
      rw [beginClose_of_session host unarmed ((request_session host .running s).trans hsession),
        enter_state]
      decide
  · rw [enter_state]
    decide
  · exact other

/-- A request to run revives a record whose process is gone exactly if it is asleep. -/
lemma request_revives_iff (host : Host) (awake : s.record.Awake) :
    s.Revives (s.request host .running) ↔
      s.record.process.isGone = true ∧ s.record.state.isAsleep = true := by
  constructor
  · rintro ⟨other, runs, gone⟩
    cases asleep : s.record.state.isAsleep with
    | true => exact ⟨(request_wakes host awake asleep).2.symm.trans gone, rfl⟩
    | false => exact absurd runs (request_not_running host other fun _ => asleep)
  · rintro ⟨gone, asleep⟩
    obtain ⟨runs, same⟩ := request_wakes host awake asleep
    exact ⟨Record.not_running_of_asleep asleep, runs, same.trans gone⟩

/-- The wish to close it leaves a record revived exactly if it has no session besides. -/
lemma close_revives_iff (host : Host) (awake : s.record.Awake) (timed : s.record.Timed) :
    s.Revives (s.close host) ↔
      s.record.process.isGone = true ∧ s.record.state.isAsleep = true ∧
        s.record.session = none := by
  constructor
  · rintro ⟨other, runs, gone⟩
    by_cases alone : s.record.state.isAsleep = true ∧ s.record.session = none
    · exact ⟨(close_wakes host awake alone.1 alone.2).2.symm.trans gone, alone⟩
    · exact absurd runs (close_not_running host timed other fun asleep none => alone ⟨asleep, none⟩)
  · rintro ⟨gone, asleep, alone⟩
    obtain ⟨runs, same⟩ := close_wakes host awake asleep alone
    exact ⟨Record.not_running_of_asleep asleep, runs, same.trans gone⟩

/-! ## Reports -/

/-- No report on a process makes its record run at once; it is put to sleep by its suspension
only, and starts again only if it runs. -/
lemma leadsTo_cases (process : ProcessState) (state : InternalState) :
    (process.leadsTo state = .running → state = .running) ∧
    ((process.leadsTo state).isAsleep = true → state.isAsleep = true ∨ process = .suspended) ∧
    (process.leadsTo state = .starting → process.isGone = false) := by
  cases process <;> cases state <;> decide

/-- What a report on the process does at once does not make the record run. -/
lemma heedProcess_not_running (host : Host) (process : ProcessState)
    (other : s.record.state ≠ .running) : (s.heedProcess host process).record.state ≠ .running := by
  have state := congrArg (fun standing => standing.2.1) (heedProcess_standing host process s)
  exact fun runs => other ((leadsTo_cases process s.record.state).1 (state.symm.trans runs))

/-- If the record is resumed next, its process has been suspended just now. -/
lemma heedProcess_reconcile_not_revives (host : Host) {process : ProcessState}
    (awake : s.record.Awake) (noted : s.record.process = process) :
    ¬(s.heedProcess host process).Revives ((s.heedProcess host process).reconcile host) := by
  have standing := heedProcess_standing host process s
  generalize s.heedProcess host process = t at standing ⊢
  simp only [Record.standing, Prod.mk.injEq] at standing
  obtain ⟨requested, state, -, same⟩ := standing
  have asleep := (leadsTo_cases process s.record.state).2.1
  rw [← state] at asleep
  rintro ⟨other, runs, gone⟩
  by_cases wakes : t.record.requested = .running ∧ t.record.state.isAsleep = true
  · -- a record that is to run was not asleep before, so that the process has been suspended
    have suspended : process = .suspended := by
      refine (asleep wakes.2).resolve_left fun before => ?_
      have both := (awake.requested before).symm.trans (requested.symm.trans wakes.1)
      cases both
    rw [(reconcile_wakes host wakes.1 wakes.2).2, same, noted, suspended] at gone
    cases gone
  · refine reconcile_not_running host other (fun requested => ?_) runs
    exact Bool.eq_false_iff.mpr fun h => wakes ⟨requested, h⟩

/-- No report on its process revives a record. -/
lemma onProcess_not_revives (host : Host) (process : ProcessState) (awake : s.record.Awake) :
    ¬s.Revives (s.onProcess host process) := by
  rw [onProcess_eq]
  split
  · exact not_revives_of_standing rfl
  · rintro ⟨other, runs, gone⟩
    refine heedProcess_reconcile_not_revives (s := s.update fun r => { r with process }) host
      awake rfl ⟨?_, runs, gone⟩
    exact heedProcess_not_running host process other

/-- A report of a session makes a record run that was starting, which may be suspended at once, or
leaves it as it is, or says that the session is suspended or has ended. -/
lemma hear_outcome (host : Host) (state : SessionState) (s : Scene) :
    (s.hear host state).record.standing = s.record.standing ∨
    s.record.state = .starting ∧ (s.hear host state).record.process = s.record.process ∧
      ((s.hear host state).record.state = .running ∨
        (s.hear host state).record.state = .runningInBackground ∨
        (s.hear host state).record.state = .suspendingWaitSession) ∨
    (s.hear host state).record.state = .suspendingWaitProcess ∨
    state = .stopped ∧ ((s.hear host state).record.state = .closing ∨
      (s.hear host state).record.state = .stopped ∨
      (s.hear host state).record.state = .stoppedResumable) := by
  cases state with
  | starting =>
    rw [hear_goesOn host (by decide)]
    exact .inl rfl
  | running =>
    rw [hear_goesOn host (by decide)]
    unfold onSession
    dsimp only
    split
    · rename_i starting
      obtain ⟨process, goesOn⟩ := reconcile_of_running host (enter_state host .running s)
      exact .inr (.inl ⟨starting, process.trans (enter_process host .running s), goesOn⟩)
    · exact .inl rfl
  | suspending =>
    rw [hear_goesOn host (by decide)]
    exact .inl rfl
  | suspended =>
    rw [hear_goesOn host (by decide)]
    unfold onSession
    dsimp only
    split
    · refine .inr (.inr (.inl ?_))
      rw [call_record, enter_state]
    · exact .inl (violate_standing _ _)
  | stopped =>
    right
    right
    by_cases suspending : s.record.state = .suspendingWaitProcess ∧ s.record.process ≠ .failed
    · obtain waits | closes := hear_stopped_closes host suspending.1 suspending.2
      · exact .inl waits
      · exact .inr ⟨rfl, .inl closes⟩
    · rw [(hear_stopped_over host suspending).2.1]
      split
      · exact .inr ⟨rfl, .inr (.inl rfl)⟩
      · exact .inr ⟨rfl, .inr (.inr rfl)⟩

/-- No report of a session revives a record. -/
lemma hear_not_revives (host : Host) (state : SessionState) (fresh : s.record.Fresh) :
    ¬s.Revives (s.hear host state) := by
  rintro ⟨other, runs, gone⟩
  obtain same | ⟨starting, process, -⟩ | waits | ⟨-, ended⟩ := hear_outcome host state s
  · exact other ((Record.standing_inj.mp same).2.1.symm.trans runs)
  · rw [process, fresh starting] at gone
    cases gone
  · rw [runs] at waits
    cases waits
  · rw [runs] at ended
    obtain no | no | no := ended <;> cases no

/-! ## The process of a record that starts -/

lemma reconcile_fresh (host : Host) (h : s.record.Fresh) : (s.reconcile host).record.Fresh := by
  cases s.reconcile_cases host with
  | wakes _ _ wakes =>
    refine .of_state ?_
    rw [wakes.1]
    decide
  | launches _ _ _ process =>
    intro _
    rw [process]
    rfl
  | suspends _ _ _ state =>
    refine .of_state ?_
    obtain state | state | state := state <;> rw [state] <;> decide
  | stays same _ => exact h.of_standing same

lemma request_fresh (host : Host) (value : RequestedState) (h : s.record.Fresh) :
    (s.request host value).record.Fresh := by
  unfold request
  split
  · exact h
  · exact reconcile_fresh (s := s.update fun r => { r with requested := value }) host h

lemma beginClose_fresh (host : Host) (h : s.record.Fresh) : (s.beginClose host).record.Fresh := by
  unfold beginClose
  split
  · exact h
  · split
    · exact h
    · refine .of_state ?_
      rw [enter_state]
      decide

lemma close_fresh (host : Host) (h : s.record.Fresh) : (s.close host).record.Fresh := by
  obtain ⟨-, eq⟩ | ⟨-, eq⟩ | ⟨-, eq⟩ | ⟨-, eq⟩ | ⟨-, eq⟩ := close_eq host s <;> rw [eq]
  · obtain same | ⟨-, stopped, -⟩ := forceStop_record host s
    · rw [same]
      exact h
    · refine .of_state ?_
      rw [stopped]
      decide
  · exact beginClose_fresh host h
  · exact beginClose_fresh host (request_fresh host .running h)
  · refine .of_state ?_
    rw [enter_state]
    decide
  · exact h

lemma onProcess_fresh (host : Host) (process : ProcessState) (h : s.record.Fresh) :
    (s.onProcess host process).record.Fresh := by
  by_cases known : s.record.process = process
  · have unchanged : s.onProcess host process = s := if_pos known
    rw [unchanged]
    exact h
  · obtain ⟨t, reconciles, standing⟩ := onProcess_reconciles host known
    simp only [Record.standing, Prod.mk.injEq] at standing
    obtain ⟨-, state, -, news⟩ := standing
    rw [reconciles]
    refine reconcile_fresh host fun starting => ?_
    rw [news]
    exact (leadsTo_cases process s.record.state).2.2 (state.symm.trans starting)

lemma hear_fresh (host : Host) (state : SessionState) (h : s.record.Fresh) :
    (s.hear host state).record.Fresh := by
  obtain same | ⟨-, -, state | state | state⟩ | state | ⟨-, state | state | state⟩ :=
    hear_outcome host state s
  · exact h.of_standing same
  all_goals
    refine .of_state ?_
    rw [state]
    decide

end Scene

end AppLifecycle
