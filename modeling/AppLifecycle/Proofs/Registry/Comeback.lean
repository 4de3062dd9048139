import AppLifecycle.Proofs.Registry.Authorization
import AppLifecycle.Proofs.Registry.Relaunch

/-!
# Applications that come back from outside

An application that can be launched again may be launched by others than the registry. When its
process is reported to start, its record is to start as well, so that the process is admitted. It
does unless the record believes that a process runs already (`started_again_iff`): where a process
has outlived its application, the report of the next one passes for old news.
-/

namespace AppLifecycle

namespace Scene

variable {s : Scene}

lemma enter_starting_of_gone (host : Host) (gone : s.record.state = .stoppedResumable) :
    (s.enter host .starting).record = { s.record with state := .starting } := by
  have elsewhere : s.record.state ≠ .starting := by
    rw [gone]
    decide
  have unclosing : s.record.state ≠ .closing := by
    rw [gone]
    decide
  unfold enter
  rw [if_neg elsewhere, syncWakelock_record]
  simp [update, unclosing]

/-- Where a process is reported to run that was not known to, a record that can be launched again
starts. -/
lemma onProcess_running_of_gone (host : Host) (gone : s.record.state = .stoppedResumable)
    (news : s.record.process ≠ .running) :
    (s.onProcess host .running).record =
      { s.record with
        state := .starting, process := .running, passes := s.record.passes + 1 } := by
  have present : (s.update fun r => { r with process := .running }).record.state =
      .stoppedResumable := gone
  unfold onProcess
  rw [if_neg news]
  dsimp only
  rw [if_pos present, reconcile_of_state host (.inl (enter_state host _ _))]
  exact congrArg (fun r : Record => { r with passes := r.passes + 1 })
    (enter_starting_of_gone host present)

/-- What is known of a process is not heard again. -/
lemma onProcess_of_known (host : Host) {process : ProcessState}
    (known : s.record.process = process) : s.onProcess host process = s := if_pos known

end Scene

namespace Registry

variable {reg : Registry} {front back : List Record} {r : Record} {id : AppId}

/-- The record of an application that comes back starts, with its process running. -/
lemma find_of_comeback (host : Host) (found : reg.find id = some r)
    (gone : r.state = .stoppedResumable) (news : r.process ≠ .running) :
    (reg.onProcessStarting host id).find id =
      some { r with state := .starting, process := .running, passes := r.passes + 1 } := by
  obtain ⟨front, back, place, hid⟩ := exists_located_of_find found
  have record := Scene.onProcess_running_of_gone (s := reg.scene r) host gone news
  have starts : (Scene.onProcess host .running (reg.scene r)).record.state ≠ .stopped := by
    simp [record]
  rw [onProcessStarting_of_gone host place hid gone]
  unfold settle
  rw [if_neg starts]
  have still : Located ((reg.emit [.focusRequested r.id]).place front r back
      (Scene.onProcess host .running (reg.scene r))) front
      (Scene.onProcess host .running (reg.scene r)).record back := by
    refine ⟨rfl, ?_⟩
    rw [record]
    exact place.first
  rw [still.find (by rw [record]; exact hid), record]
  rfl

/-- The report of a process passes for old news where one is believed to run. -/
lemma onProcessStarting_of_outlived (host : Host) (found : reg.find id = some r)
    (gone : r.state = .stoppedResumable) (known : r.process = .running) :
    reg.onProcessStarting host id = reg.emit [.focusRequested r.id] := by
  obtain ⟨front, back, place, hid⟩ := exists_located_of_find found
  have still : (reg.emit [.focusRequested r.id]).entries = front ++ r :: back := place.entries
  rw [onProcessStarting_of_gone host place hid gone,
    Scene.onProcess_of_known (s := reg.scene r) host known]
  apply settle_self still
  rw [gone]
  decide

/-- When the process of an application is reported to start that can be launched again, its record
starts exactly if it was not believed to have a running process all along. If so, any process that
the controller confirms is admitted. If not, nothing happens but that the focus is requested; and
then the process that is believed to run has outlived the application since its session ended. -/
theorem started_again_iff (lifecycle : LifecyclePolicy) (authorization : AuthorizationPolicy)
    (ops : List (Host × Operation)) (host : Host) (id : AppId) (reg reg' : Registry)
    (hreg : reg = after lifecycle authorization ops)
    (hreg' : reg' = (reg.perform host (.process (.starting id))).2)
    (found : reg.find id = some r) (gone : r.state = .stoppedResumable) :
    ((∃ q, reg'.find id = some q ∧ q.state = .starting ∧ q.process = .running) ↔
      r.process ≠ .running) ∧
    (r.process ≠ .running →
      reg'.find id =
        some { r with state := .starting, process := .running, passes := r.passes + 1 } ∧
      ∀ host' pid, host'.hasProcess r.id pid = true →
        (reg'.authorizeSession host' pid).1 = true) ∧
    (r.process = .running → reg' = reg.emit [.focusRequested r.id] ∧
      OutlivedSince lifecycle authorization ops r.owner) := by
  have performed : reg' = reg.onProcessStarting host id := hreg'
  have starts : r.process ≠ .running → reg'.find id =
      some { r with state := .starting, process := .running, passes := r.passes + 1 } := by
    intro news
    rw [performed]
    exact find_of_comeback host found gone news
  refine ⟨⟨?_, fun news => ⟨_, starts news, rfl, rfl⟩⟩, fun news => ⟨starts news, ?_⟩,
    fun known => ⟨?_, ?_⟩⟩
  · rintro ⟨q, again, starting, -⟩ known
    rw [performed, onProcessStarting_of_outlived host found gone known] at again
    have same : reg.find id = some q := again
    cases found.symm.trans same
    rw [gone] at starting
    cases starting
  · intro host' pid owns
    have shares : Shares reg' := by
      rw [hreg', hreg]
      exact ((after_reachable lifecycle authorization ops).perform _ trivial).shares
    rw [authorizeSession_iff shares]
    exact .inl ⟨_, List.mem_of_find?_eq_some (starts news), rfl, owns⟩
  · rw [performed, onProcessStarting_of_outlived host found gone known]
  · have hr := List.mem_of_find?_eq_some found
    rw [hreg] at hr
    refine outlivedSince hr ⟨gone, ?_⟩
    rw [known]
    rfl

/-- After its demise the clock is launched by somebody else: it starts, and its new process is
admitted. -/
theorem clock_started_again :
    ∃ r ∈ (after .standard .standard demise).entries,
      (after .standard .standard demise).find ⟨"clock"⟩ = some r ∧
      r.state = .stoppedResumable ∧ r.process = .failed ∧
      (∃ q, ((after .standard .standard demise).perform .willing
          (.process (.starting ⟨"clock"⟩))).2.find ⟨"clock"⟩ = some q ∧
        q.state = .starting ∧ q.process = .running) ∧
      (((after .standard .standard demise).perform .willing
        (.process (.starting ⟨"clock"⟩))).2.authorizeSession .willing 8).1 = true := by
  have clock : ∃ r ∈ (after .standard .standard demise).entries,
      (after .standard .standard demise).find ⟨"clock"⟩ = some r ∧
      r.state = .stoppedResumable ∧ r.process = .failed := by decide
  obtain ⟨r, hr, found, gone, failed⟩ := clock
  have news : r.process ≠ .running := by
    rw [failed]
    decide
  obtain ⟨starts, admits, -⟩ :=
    started_again_iff .standard .standard demise .willing ⟨"clock"⟩ _ _ rfl rfl found gone
  exact ⟨r, hr, found, gone, failed, starts.mpr news, (admits news).2 .willing 8 rfl⟩

/-- After the parting the clock is launched by somebody else, and nothing is made of it: its record
does not start, and the new process is refused. -/
theorem clock_never_started_again :
    Reachable Host.Faithful (after .standard .standard parting) ∧
    (after .standard .standard parting).entries.map (fun r => (r.id, r.state, r.process)) =
      [(⟨"clock"⟩, .stoppedResumable, .running)] ∧
    ((after .standard .standard parting).perform .willing
      (.process (.starting ⟨"clock"⟩))).2.entries = (after .standard .standard parting).entries ∧
    (((after .standard .standard parting).perform .willing
      (.process (.starting ⟨"clock"⟩))).2.authorizeSession .willing 8).1 = false :=
  ⟨willing_reachable _, by decide, by decide, by decide⟩

end Registry

end AppLifecycle
