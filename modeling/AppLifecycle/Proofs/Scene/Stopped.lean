import AppLifecycle.Proofs.Registry.WakelockShares
import AppLifecycle.Proofs.Scene.Conduct

/-!
# Records that have stopped

A record that has stopped stays so whatever is asked of it, and whatever is reported but for two
things that rouse it (`RecordOperation.rouses`): that its process has been suspended, and that its
session has ended although a process was seen. Up to there, no order is given but to end the
application, and the record has no share in the wakelock (`stays_stopped_iff`).
-/

namespace AppLifecycle

namespace RecordOperation

/-- What was reported of the process last, after the operation. -/
def reported (known : ProcessState) : RecordOperation → ProcessState
  | .process state => state
  | _ => known

/-- A record that has stopped does not stay so: its process is newly reported to be suspended, or
its session to have ended although a process was seen. -/
def rouses (known : ProcessState) : RecordOperation → Bool
  | .process .suspended => known ≠ .suspended
  | .session .stopped => known ≠ .unknown
  | _ => false

/-- What was reported of the process last, after a run. -/
def lastReported (known : ProcessState) (run : List (Host × RecordOperation)) : ProcessState :=
  run.foldl (fun known x => x.2.reported known) known

lemma lastReported_concat (known : ProcessState) (run : List (Host × RecordOperation))
    (x : Host × RecordOperation) :
    lastReported known (run ++ [x]) = x.2.reported (lastReported known run) :=
  List.foldl_append

end RecordOperation

namespace Scene

variable {host : Host} {s : Scene} {op : RecordOperation}

/-- Carries out operations in turn, each with the answers it gets. -/
def performAll (s : Scene) (run : List (Host × RecordOperation)) : Scene :=
  run.foldl (fun s x => (s.perform x.1 x.2).2) s

lemma performAll_concat (s : Scene) (run : List (Host × RecordOperation))
    (x : Host × RecordOperation) :
    s.performAll (run ++ [x]) = ((s.performAll run).perform x.1 x.2).2 :=
  List.foldl_append

/-! ## One operation -/

/-- The record is still stopped, what was reported of its process is noted, and no order was given
but to end the application. -/
structure StaysStopped (op : RecordOperation) (s t : Scene) : Prop where
  state : t.record.state = .stopped
  process : t.record.process = op.reported s.record.process
  orders : ∃ n, t.orders = s.orders ++ List.replicate n (.stop s.record.id)

lemma StaysStopped.of_quiet {t : Scene} (state : t.record.state = .stopped)
    (process : t.record.process = op.reported s.record.process) (orders : t.orders = s.orders) :
    StaysStopped op s t :=
  ⟨state, process, 0, by rw [orders, List.replicate_zero, List.append_nil]⟩

lemma checkSessionStopped_orders (host : Host) (violation : SessionState → Violation) (s : Scene) :
    (s.checkSessionStopped host violation).orders = s.orders := by
  unfold checkSessionStopped
  split
  · rfl
  · split
    · rfl
    · exact violate_orders s _

lemma request_staysStopped (host : Host) (value : RequestedState)
    (stopped : s.record.state = .stopped) :
    StaysStopped (.request value) s (s.request host value) := by
  unfold request
  split
  · exact .of_quiet stopped rfl rfl
  · have passed := reconcile_of_state (s := s.update fun r => { r with requested := value }) host
      (.inr (.inr (.inr stopped)))
    rw [passed]
    exact .of_quiet stopped rfl rfl

lemma onProcess_staysStopped (host : Host) {process : ProcessState}
    (stopped : s.record.state = .stopped)
    (quiet : process = .suspended → s.record.process = .suspended) :
    StaysStopped (.process process) s (s.onProcess host process) := by
  -- the report is noted, and the pass that follows finds nothing to do
  have passed : ∀ t : Scene, t.record.state = .stopped → t.record.process = process →
      t.orders = s.orders → StaysStopped (.process process) s (t.reconcile host) := by
    intro t state noted orders
    rw [reconcile_of_state host (.inr (.inr (.inr state)))]
    exact .of_quiet state noted orders
  have checked : ∀ violation,
      ((s.update fun r => { r with process }).checkSessionStopped host violation).record.state =
        .stopped ∧
      StaysStopped (.process process) s
        (((s.update fun r => { r with process }).checkSessionStopped host violation).reconcile
          host) := by
    intro violation
    obtain ⟨-, state, -, noted⟩ := Record.standing_inj.mp (checkSessionStopped_standing host
      violation (s.update fun r => { r with process }))
    have still := state.trans stopped
    exact ⟨still, passed _ still noted (checkSessionStopped_orders host violation _)⟩
  by_cases known : s.record.process = process
  · unfold onProcess
    rw [if_pos known]
    exact .of_quiet stopped known rfl
  · unfold onProcess
    rw [if_neg known]
    cases process with
    | unknown => exact passed _ stopped rfl (violate_orders _ _)
    | running =>
      dsimp only
      rw [if_neg (by show s.record.state ≠ _; rw [stopped]; decide)]
      exact passed _ stopped rfl rfl
    | suspended => exact absurd (quiet rfl) known
    | failed =>
      obtain ⟨state, stays⟩ := checked .failedInSession
      dsimp only
      rw [state]
      exact stays
    | stopped =>
      obtain ⟨state, stays⟩ := checked .stoppedInSession
      dsimp only
      rw [state]
      exact stays

lemma onSession_staysStopped (host : Host) {state : SessionState}
    (stopped : s.record.state = .stopped)
    (quiet : state = .stopped → s.record.process = .unknown) :
    StaysStopped (.session state) s (s.onSession host state) := by
  have start : StaysStopped (.session state) s s := .of_quiet stopped rfl rfl
  unfold onSession
  rw [stopped]
  cases state with
  | starting => exact start
  | suspending => exact start
  | running => exact start
  | suspended => exact .of_quiet stopped rfl (violate_orders s _)
  | stopped =>
    -- without a process there is nothing to launch again, so that the end is the last state still
    have unseen : s.record.canBeResumed = false := by
      unfold Record.canBeResumed
      rw [quiet rfl]
      rfl
    rw [unseen]
    exact .of_quiet (enter_state host _ s) (enter_process host _ s) (enter_orders host _ s)

/-- An operation that does not rouse it leaves a record stopped. -/
lemma perform_staysStopped (host : Host) (stopped : s.record.state = .stopped)
    (quiet : op.rouses s.record.process = false) : StaysStopped op s (s.perform host op).2 := by
  cases op with
  | setPid pid => exact .of_quiet stopped rfl rfl
  | request value => exact request_staysStopped host value stopped
  | process process =>
    refine onProcess_staysStopped host stopped fun suspended => ?_
    subst suspended
    exact of_decide_eq_false quiet |> Decidable.not_not.mp
  | session state =>
    refine onSession_staysStopped host stopped fun ended => ?_
    subst ended
    exact of_decide_eq_false quiet |> Decidable.not_not.mp
  | attach session =>
    obtain ⟨-, state, -, process⟩ := attach_standing s session
    exact .of_quiet (state.trans stopped) process
      ((log_orders _ rfl).trans (letGoSession_orders s))
  | detach =>
    have record := detach_record (.inl stopped)
    have orders : s.detach.orders = s.orders := by
      unfold detach
      rw [if_pos (.inl stopped)]
      exact letGoSession_orders s
    exact .of_quiet (by rw [perform, record]; exact stopped) (by rw [perform, record]; rfl) orders
  | setExempt exempt =>
    obtain ⟨-, state, -, process⟩ := Record.standing_inj.mp (s.setExempt_standing host exempt)
    have orders : (s.setExempt host exempt).orders = s.orders := by
      unfold setExempt
      split
      · rfl
      · exact syncWakelock_orders host _
    exact .of_quiet (state.trans stopped) process orders
  | setStage stage =>
    obtain ⟨-, state, -, process⟩ := Record.standing_inj.mp (s.setStage_standing stage)
    have orders : (s.setStage stage).2.orders = s.orders := by
      unfold setStage
      split <;> rfl
    exact .of_quiet (state.trans stopped) process orders
  | updateScreenshot => exact .of_quiet stopped rfl rfl
  | close =>
    have same : s.close host = s := by
      unfold close
      rw [stopped]
    exact .of_quiet (by rw [perform, same]; exact stopped) (by rw [perform, same]; rfl)
      (by rw [perform, same])
  | tick now =>
    obtain record | ⟨starting, -⟩ := tick_record host now s
    · refine ⟨?_, ?_, if (s.record.timer.poll now).1 then 1 else 0, ?_⟩
      · show (s.tick host now).2.record.state = .stopped
        rw [record]
        exact stopped
      · show (s.tick host now).2.record.process = s.record.process
        rw [record]
      · refine (tick_orders host now s).trans ?_
        split <;> rfl
    · rw [stopped] at starting
      cases starting

/-- The two reports that rouse it take a record out of its last state. -/
lemma perform_roused (host : Host) (stopped : s.record.state = .stopped)
    (roused : op.rouses s.record.process = true) :
    (s.perform host op).2.record.state ≠ .stopped := by
  cases op with
  | process process =>
    cases process with
    | suspended =>
      have news : s.record.process ≠ .suspended := of_decide_eq_true roused
      obtain ⟨t, reconciled, standing⟩ := onProcess_reconciles host news
      simp only [Record.standing, Prod.mk.injEq] at standing
      obtain ⟨-, state, -, -⟩ := standing
      rw [stopped] at state
      have asleep : t.record.state = .suspended := state
      show (s.onProcess host .suspended).record.state ≠ .stopped
      rw [reconciled]
      -- a record that is asleep is woken by the pass, or goes on to sleep
      cases t.reconcile_cases host with
      | wakes _ _ wakes => rw [wakes.1]; decide
      | launches _ gone _ _ => rw [asleep] at gone; cases gone
      | suspends _ running _ _ => rw [asleep] at running; cases running
      | stays same _ => rw [(Record.standing_inj.mp same).2.1, asleep]; decide
    | _ => cases roused
  | session state =>
    cases state with
    | stopped =>
      have seen : s.record.process ≠ .unknown := of_decide_eq_true roused
      have resumable : s.record.canBeResumed = true := decide_eq_true seen
      have resumes : s.onSession host .stopped = s.enter host .stoppedResumable := by
        unfold onSession
        dsimp only
        rw [stopped, resumable]
        rfl
      show (s.onSession host .stopped).record.state ≠ .stopped
      rw [resumes, enter_state]
      decide
    | _ => cases roused
  | _ => cases roused

/-! ## A run -/

lemma performAll_id (s : Scene) (run : List (Host × RecordOperation)) :
    (s.performAll run).record.id = s.record.id := by
  induction run using List.reverseRecOn with
  | nil => rfl
  | append_singleton run x ih =>
    rw [performAll_concat]
    exact ((Moves.refl _).perform x.2).sameIdentity.id.trans ih

/-- Along a run that does not rouse it, a record that has stopped stays so. -/
lemma stopped_along {later mid : List (Host × RecordOperation)}
    (stopped : s.record.state = .stopped)
    (quiet : ∀ mid x, mid ++ [x] <+: later →
      x.2.rouses (RecordOperation.lastReported s.record.process mid) = false)
    (within : mid <+: later) :
    (s.performAll mid).record.state = .stopped ∧
    (s.performAll mid).record.process = RecordOperation.lastReported s.record.process mid ∧
    ∃ n, (s.performAll mid).orders = s.orders ++ List.replicate n (.stop s.record.id) := by
  -- the induction is on what has been done so far, since each operation is judged by what was
  -- reported before it
  induction mid using List.reverseRecOn with
  | nil => exact ⟨stopped, rfl, 0, (List.append_nil _).symm⟩
  | append_singleton mid x ih =>
    obtain ⟨state, process, n, orders⟩ := ih ((List.prefix_append mid [x]).trans within)
    have unroused := quiet mid x within
    rw [← process] at unroused
    have still := perform_staysStopped x.1 state unroused
    obtain ⟨m, more⟩ := still.orders
    rw [performAll_concat, RecordOperation.lastReported_concat]
    refine ⟨still.state, still.process.trans (congrArg x.2.reported process), n + m, ?_⟩
    rw [more, orders, performAll_id s mid, List.append_assoc, List.replicate_add]

/-- What is known of the process of a record that stays stopped is what was reported last. -/
lemma process_along {later mid : List (Host × RecordOperation)}
    (stays : ∀ mid, mid <+: later → (s.performAll mid).record.state = .stopped)
    (within : mid <+: later) :
    (s.performAll mid).record.process = RecordOperation.lastReported s.record.process mid := by
  induction mid using List.reverseRecOn with
  | nil => rfl
  | append_singleton mid x ih =>
    have before := (List.prefix_append mid [x]).trans within
    have process := ih before
    have still := stays _ within
    rw [performAll_concat] at still ⊢
    have unroused : x.2.rouses (s.performAll mid).record.process = false :=
      Bool.eq_false_iff.mpr fun roused => perform_roused x.1 (stays mid before) roused still
    rw [RecordOperation.lastReported_concat, ← process]
    exact (perform_staysStopped x.1 (stays mid before) unroused).process

/-- The share of a record follows its state, whatever is done to it. -/
lemma performAll_accounts {others : WakelockOwner → Prop} (h : s.Accounts others)
    (run : List (Host × RecordOperation)) : (s.performAll run).Accounts others := by
  induction run using List.reverseRecOn with
  | nil => exact h
  | append_singleton run x ih =>
    rw [performAll_concat]
    exact ((Moves.refl _).perform x.2).accounts ih

/-- Once a record has stopped, it stays so exactly as long as it is not roused: as long as its process
is not newly reported to be suspended, and its session not to have ended although a process was seen.
As long as it stays so, no order is given but to end the application, and whenever it has stopped it
has no share in the wakelock. -/
theorem stays_stopped_iff (host : Host) (r : Record) (wakelock : Wakelock) (journal : List Effect)
    (before later : List (Host × RecordOperation)) (s : Scene)
    (hs : s = (begin host r wakelock journal).performAll before)
    (nodup : wakelock.owners.Nodup) (stopped : s.record.state = .stopped) :
    ((∀ mid, mid <+: later → (s.performAll mid).record.state = .stopped) ↔
      ∀ mid x, mid ++ [x] <+: later →
        x.2.rouses (RecordOperation.lastReported s.record.process mid) = false) ∧
    ((∀ mid, mid <+: later → (s.performAll mid).record.state = .stopped) →
      ∃ n, (s.performAll later).orders = s.orders ++ List.replicate n (.stop s.record.id)) ∧
    (∀ mid, mid <+: later → (s.performAll mid).record.state = .stopped →
      (s.performAll mid).record.owner ∉ (s.performAll mid).wakelock.owners) := by
  have quiet : (∀ mid, mid <+: later → (s.performAll mid).record.state = .stopped) →
      ∀ mid x, mid ++ [x] <+: later →
        x.2.rouses (RecordOperation.lastReported s.record.process mid) = false := by
    intro stays mid x within
    have within' := (List.prefix_append mid [x]).trans within
    have still := stays _ within
    rw [performAll_concat] at still
    rw [← process_along stays within']
    exact Bool.eq_false_iff.mpr fun roused => perform_roused x.1 (stays mid within') roused still
  refine ⟨⟨quiet, fun unroused mid within => (stopped_along stopped unroused within).1⟩,
    fun stays => (stopped_along stopped (quiet stays) (List.prefix_refl later)).2.2, ?_⟩
  -- the share has followed the state since the record began
  intro mid _ still shares
  have accounts : s.Accounts fun owner => owner ∈ wakelock.owners := by
    rw [hs]
    exact performAll_accounts (syncWakelock_accounts host nodup fun _ _ => Iff.rfl) before
  have wanted := (performAll_accounts accounts mid).own.mp shares
  unfold Record.wantsWakelock at wanted
  rw [still] at wanted
  exact Bool.false_ne_true ((Bool.and_false _).symm.trans wanted)

/-- The clock has been launched, and nobody has a share in the wakelock yet. -/
def launchOfClock : Scene :=
  begin .willing (.launched (.basic ⟨"clock"⟩ "Clock" ["clock"]) [] false ⟨3000⟩ ⟨0⟩) .idle []

/-- The clock runs, and stops with its session. -/
def endOfClock : List (Host × RecordOperation) :=
  [.process .running, .attach Registry.windowOfClock, .session .running, .session .stopped].map
    (Prod.mk .willing)

/-- What is reported of the clock after its end, and asked of it. -/
def epilogue : List (Host × RecordOperation) :=
  [.process .failed, .session .running, .request .suspended, .process .stopped,
    .request .running, .close].map (Prod.mk .willing)

/-- None of that rouses the clock. -/
theorem clock_stays_stopped :
    Wakelock.idle.owners.Nodup ∧ (launchOfClock.performAll endOfClock).record.state = .stopped ∧
    ∀ mid, mid <+: epilogue →
      ((launchOfClock.performAll endOfClock).performAll mid).record.state = .stopped := by
  have nodup : Wakelock.idle.owners.Nodup := List.nodup_nil
  have stopped : (launchOfClock.performAll endOfClock).record.state = .stopped := by decide
  obtain ⟨stays, -, -⟩ := stays_stopped_iff .willing _ .idle [] endOfClock epilogue _ rfl nodup
    stopped
  refine ⟨nodup, stopped, stays.mpr fun mid x within => ?_⟩
  have known : ∀ x ∈ epilogue, ∀ known, x.2.rouses known = false := by
    simp [epilogue, RecordOperation.rouses]
  exact known x (within.subset (by simp)) _

/-- The session of the clock is reported to have ended once more, then the clock is to be suspended,
and to run. -/
def comebackOfClock : List (Host × RecordOperation) :=
  [.session .stopped, .request .suspended, .request .running].map (Prod.mk .willing)

/-- The clock has stopped with its session. When the end of the session is reported twice, it can be
launched again; it is, although it had stopped, and has a share in the wakelock again. -/
theorem clock_roused :
    (launchOfClock.performAll endOfClock).record.state = .stopped ∧
    ((launchOfClock.performAll endOfClock).perform .willing (.session .stopped)).2.record.state =
      .stoppedResumable ∧
    ((launchOfClock.performAll endOfClock).performAll comebackOfClock).record.state = .starting ∧
    ((launchOfClock.performAll endOfClock).performAll comebackOfClock).orders =
      [.start ⟨"clock"⟩ []] ∧
    ((launchOfClock.performAll endOfClock).performAll comebackOfClock).wakelock.owners = [⟨0⟩] := by
  decide

end Scene

end AppLifecycle
