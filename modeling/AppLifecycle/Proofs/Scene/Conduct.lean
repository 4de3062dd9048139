import AppLifecycle.Proofs.Scene.Pass

/-!
# Orders and the close timer

An order asks the controller to launch an application or to end it. Few operations of a record give
one, and few start the close timer or stop it: all others are calm (`Calm`), which means that no
order is given, that the record does not begin to close, and that the timer ends with the closing if
that ends. `Conduct` lists what else an operation other than a tick may do, and when.
-/

namespace AppLifecycle

namespace CloseTimer

variable {t : CloseTimer}

@[simp] lemma cancel_cancel (t : CloseTimer) : t.cancel.cancel = t.cancel := rfl

@[simp] lemma arm_cancel (t : CloseTimer) (now : Instant) : t.cancel.arm now = t.arm now := rfl

lemma cancel_eq (h : t.isArmed = false) : t.cancel = t := by
  have none : t.deadline = none := Option.isSome_eq_false_iff.mp h |> Option.isNone_iff_eq_none.mp
  unfold cancel
  rw [← none]

/-- A timer that is looked at goes on as it was, or is stopped. -/
lemma poll_snd (t : CloseTimer) (now : Instant) :
    (t.poll now).2 = t ∨ (t.poll now).2 = t.cancel := by
  unfold poll
  split
  · split
    · exact .inr rfl
    · exact .inl rfl
  · exact .inl rfl

end CloseTimer

namespace Record

/-- The close timer runs while the record is closing only. -/
def Timed (r : Record) : Prop := r.timer.isArmed = true → r.state = .closing

/-- A record that should run, but can only be launched again, has lost its process to a failure. -/
def Grounded (r : Record) : Prop :=
  r.requested = .running → r.state = .stoppedResumable → r.process = .failed

variable {r : Record}

lemma Timed.unarmed (h : r.Timed) (state : r.state ≠ .closing) : r.timer.isArmed = false :=
  Bool.eq_false_iff.mpr fun armed => state (h armed)

lemma Timed.cancel_eq (h : r.Timed) (state : r.state ≠ .closing) : r.timer.cancel = r.timer :=
  CloseTimer.cancel_eq (h.unarmed state)

end Record

/-- An application is to be launched, or to be ended. -/
def Effect.order : Effect → Option ControllerCall
  | .call (.start id args) => some (.start id args)
  | .call (.stop id) => some (.stop id)
  | _ => none

/-- The orders among effects. -/
def orders (effects : List Effect) : List ControllerCall := effects.filterMap Effect.order

lemma orders_append (l l' : List Effect) : orders (l ++ l') = orders l ++ orders l' :=
  List.filterMap_append

/-- An effect that is no order leaves the orders as they are. -/
lemma orders_quiet (l : List Effect) {e : Effect} (h : e.order = none) :
    orders (l ++ [e]) = orders l := by
  rw [orders_append]
  simp [orders, h]

namespace Scene

variable {host : Host} {s t u : Scene}

/-- The orders that have been given. -/
def orders (s : Scene) : List ControllerCall := AppLifecycle.orders s.journal

@[simp] lemma update_orders (s : Scene) (f : Record → Record) :
    (s.update f).orders = s.orders := rfl

lemma log_orders (s : Scene) {e : Effect} (h : e.order = none) : (s.log e).orders = s.orders :=
  orders_quiet s.journal h

@[simp] lemma violate_orders (s : Scene) (v : Violation) : (s.violate v).orders = s.orders :=
  log_orders _ rfl

lemma syncWakelock_orders (host : Host) (s : Scene) :
    (s.syncWakelock host).orders = s.orders :=
  congrArg AppLifecycle.orders (syncWakelock_journal host s)

@[simp] lemma enter_orders (host : Host) (state : InternalState) (s : Scene) :
    (s.enter host state).orders = s.orders :=
  congrArg AppLifecycle.orders (enter_journal host state s)

@[simp] lemma letGoSession_orders (s : Scene) : s.letGoSession.orders = s.orders := by
  unfold letGoSession
  split
  · rfl
  · exact log_orders _ rfl

lemma call_start_orders (s : Scene) (id : AppId) (args : List String) :
    (s.call (.start id args)).orders = s.orders ++ [.start id args] := orders_append s.journal _

lemma call_stop_orders (s : Scene) (id : AppId) :
    (s.call (.stop id)).orders = s.orders ++ [.stop id] := orders_append s.journal _

/-! ## Calm operations -/

/-- Between two scenes no order is given, the record has not begun to close, and the close timer is
stopped exactly if the record is not closing any more. -/
structure Calm (s t : Scene) : Prop where
  orders : t.orders = s.orders
  closing : t.record.state = .closing → s.record.state = .closing ∧ t.record.timer = s.record.timer
  idle : t.record.state ≠ .closing → t.record.timer = s.record.timer.cancel

namespace Calm

lemma refl (timed : s.record.Timed) : Calm s s :=
  ⟨rfl, fun closing => ⟨closing, rfl⟩, fun idle => (timed.cancel_eq idle).symm⟩

/-- What matters is the orders, the state and the timer. -/
lemma of_same (h : Calm s t) (orders : u.orders = t.orders)
    (state : u.record.state = t.record.state) (timer : u.record.timer = t.record.timer) :
    Calm s u := by
  refine ⟨orders.trans h.orders, ?_, ?_⟩
  · rw [state, timer]
    exact h.closing
  · rw [state, timer]
    exact h.idle

lemma log (h : Calm s t) {e : Effect} (quiet : e.order = none) : Calm s (t.log e) :=
  h.of_same (log_orders t quiet) rfl rfl

lemma update (h : Calm s t) {f : Record → Record} (state : (f t.record).state = t.record.state)
    (timer : (f t.record).timer = t.record.timer) : Calm s (t.update f) :=
  h.of_same rfl state timer

lemma violate (h : Calm s t) (v : Violation) : Calm s (t.violate v) :=
  h.of_same (violate_orders t v) rfl rfl

lemma enter (h : Calm s t) {state : InternalState} (hne : state ≠ .closing) :
    Calm s (t.enter host state) := by
  refine ⟨(enter_orders host state t).trans h.orders, fun closing => ?_, fun _ => ?_⟩
  · rw [enter_state] at closing
    exact absurd closing hne
  · rw [enter_timer]
    -- the timer is stopped here if this is the step out of closing, and was before otherwise
    split
    · rename_i left
      rw [(h.closing left.1).2]
    · rename_i other
      exact h.idle fun closing => other ⟨closing, hne⟩

lemma askSession (h : Calm s t) (action : SessionAction) (absent : Violation) :
    Calm s (t.askSession action absent) := by
  unfold Scene.askSession
  split
  · exact h.log rfl
  · exact h.violate absent

lemma suspend (h : Calm s t) : Calm s (t.suspend host) := by
  unfold Scene.suspend
  split
  · exact h.violate _
  · split
    · exact h.violate _
    · split
      · exact h.enter (by decide)
      · exact (h.log rfl).enter (by decide)

lemma resume (h : Calm s t) : Calm s (t.resume host) := by
  have running : Calm s (t.enter host .running) := h.enter (by decide)
  have wake : Calm s (((t.enter host .running).call (.resume t.record.id)).update fun r =>
      { r with process := if r.process = .suspended then .running else r.process }) :=
    (running.log rfl).update rfl rfl
  unfold Scene.resume
  split
  · exact wake.askSession _ _
  · exact wake.askSession _ _
  · exact running.askSession _ _
  · exact running
  · exact h.violate _

/-- Reconciliation gives no order, unless it launches the application again. -/
lemma reconcile (h : Calm s t)
    (stays : t.record.requested = .running → t.record.state ≠ .stoppedResumable) :
    Calm s (t.reconcile host) := by
  have counted : Calm s (t.update fun r => { r with passes := r.passes + 1 }) := h.update rfl rfl
  unfold Scene.reconcile
  dsimp only
  split
  · exact counted.resume
  · exact counted.resume
  · exact counted.resume
  · rename_i requested state
    exact absurd state (stays requested)
  · split
    · exact counted.suspend
    · exact counted
    · exact counted.violate _
  · exact counted

lemma request (h : Calm s t) {value : RequestedState}
    (stays : value = .running → t.record.state ≠ .stoppedResumable) :
    Calm s (t.request host value) := by
  unfold Scene.request
  split
  · exact h
  · have asked : Calm s (t.update fun r => { r with requested := value }) := h.update rfl rfl
    exact asked.reconcile stays

lemma setExempt (h : Calm s t) (exempt : Bool) : Calm s (t.setExempt host exempt) := by
  unfold Scene.setExempt
  split
  · exact h
  · refine h.of_same (syncWakelock_orders host _) ?_ ?_
    · rw [syncWakelock_record]
      rfl
    · rw [syncWakelock_record]
      rfl

lemma setStage (h : Calm s t) (stage : Stage) : Calm s (t.setStage stage).2 := by
  unfold Scene.setStage
  split
  · exact h.update (f := fun r => { r with stage }) rfl rfl
  · exact h

lemma checkSessionStopped (h : Calm s t) (violation : SessionState → Violation) :
    Calm s (t.checkSessionStopped host violation) := by
  unfold Scene.checkSessionStopped
  split
  · exact h
  · split
    · exact h
    · exact h.violate _

lemma letGoSession (h : Calm s t) : Calm s t.letGoSession := by
  refine h.of_same (letGoSession_orders t) ?_ ?_
  · rw [letGoSession_record]
  · rw [letGoSession_record]

lemma attach (h : Calm s t) (session : Session) : Calm s (t.attach session) := by
  have attached : Calm s (t.letGoSession.update fun r => { r with session := some session }) :=
    h.letGoSession.update rfl rfl
  exact attached.log rfl

lemma detach (h : Calm s t) : Calm s t.detach := by
  unfold Scene.detach
  split
  · exact h.letGoSession
  · exact h.violate _

end Calm

/-! ## Reports on the process -/

/-- A report on the process gives no order: where there is something to launch again, the process
has been reported to have failed already. -/
lemma Calm.onProcess (h : Calm s t) {process : ProcessState} (known : process ≠ .unknown)
    (grounded : t.record.Grounded) : Calm s (t.onProcess host process) := by
  unfold Scene.onProcess
  split
  · exact h
  · rename_i news
    have noted : Calm s (t.update fun r => { r with process }) := h.update rfl rfl
    have entered : ∀ {v : Scene} {state : InternalState}, Calm s v → state ≠ .closing →
        state ≠ .stoppedResumable → Calm s ((v.enter host state).reconcile host) := by
      intro v state calm hne stays
      refine (calm.enter hne).reconcile fun _ => ?_
      rw [enter_state]
      exact stays
    cases process with
    | unknown => exact absurd rfl known
    | running =>
      dsimp only
      split
      · exact entered noted (by decide) (by decide)
      · rename_i other
        exact noted.reconcile fun _ => other
    | suspended =>
      dsimp only
      split
      · rename_i closing
        have called : Calm s ((t.update fun r => { r with process := .suspended }).call
            (.resume t.record.id)) := noted.log rfl
        refine called.reconcile fun _ state => ?_
        have both : InternalState.closing = .stoppedResumable := closing.symm.trans state
        cases both
      · exact entered noted (by decide) (by decide)
    | failed =>
      have checked : Calm s ((t.update fun r => { r with process := .failed }).checkSessionStopped
          host .failedInSession) := noted.checkSessionStopped _
      have standing := checkSessionStopped_standing host .failedInSession
        (t.update fun r => { r with process := .failed })
      obtain ⟨requested, state, -, -⟩ := Record.standing_inj.mp standing
      -- a failure was reported before if the record should run and can only be launched again
      have stays : t.record.requested = .running → t.record.state ≠ .stoppedResumable :=
        fun running gone => news (grounded running gone)
      dsimp only
      split
      · exact entered checked (by decide) (by decide)
      · refine checked.reconcile ?_
        rw [requested, state]
        exact stays
      · refine checked.reconcile ?_
        rw [requested, state]
        exact stays
      · refine (checked.violate _).reconcile ?_
        show _ = _ → (Scene.checkSessionStopped host _ _).record.state ≠ _
        rw [state]
        intro running
        exact stays (requested.symm.trans running)
    | stopped =>
      have checked : Calm s ((t.update fun r => { r with process := .stopped }).checkSessionStopped
          host .stoppedInSession) := noted.checkSessionStopped _
      dsimp only
      split
      · exact entered checked (by decide) (by decide)
      · exact entered checked (by decide) (by decide)
      · exact entered checked (by decide) (by decide)
      · exact entered checked (by decide) (by decide)
      · rename_i stopped
        refine checked.reconcile fun _ => ?_
        rw [stopped]
        decide
      · rename_i other _ _ _
        exact (checked.violate _).reconcile fun _ => other

/-! ## The beginning of closing -/

/-- The record begins to close: its session is asked to, and the timer starts. -/
structure Closes (host : Host) (s t : Scene) : Prop where
  orders : t.orders = s.orders
  before : s.record.state ≠ .closing
  closing : t.record.state = .closing
  timer : t.record.timer = s.record.timer.arm host.now

/-- A calm operation leaves the timer running while the record is closing only. -/
lemma Calm.timed (h : Calm s t) : t.record.Timed := by
  intro armed
  by_cases closing : t.record.state = .closing
  · exact closing
  · rw [h.idle closing] at armed
    cases armed

lemma beginClose_of_none (host : Host) (unarmed : s.record.timer.isArmed = false)
    (alone : s.record.session = none) : s.beginClose host = s.violate .closeWithoutSession := by
  unfold beginClose
  rw [unarmed, alone]
  rfl

lemma beginClose_of_session (host : Host) (unarmed : s.record.timer.isArmed = false)
    {session : Session} (attached : s.record.session = some session) :
    s.beginClose host = ((s.log (.ask session .close)).update fun r =>
      { r with timer := r.timer.arm host.now }).enter host .closing := by
  unfold beginClose
  rw [unarmed, attached]
  rfl

/-- A record that is not closing can be closed if it has a session. -/
lemma beginClose_cases (host : Host) (timed : s.record.Timed)
    (state : s.record.state ≠ .closing) :
    s.record.session = none ∧ s.beginClose host = s.violate .closeWithoutSession ∨
    Closes host s (s.beginClose host) := by
  have unarmed := timed.unarmed state
  cases hsession : s.record.session with
  | none => exact .inl ⟨rfl, beginClose_of_none host unarmed hsession⟩
  | some session =>
    have asked : (s.log (.ask session .close)).orders = s.orders := log_orders s rfl
    rw [beginClose_of_session host unarmed hsession]
    refine .inr ⟨(enter_orders _ _ _).trans asked, state, enter_state _ _ _, ?_⟩
    rw [enter_timer, if_neg fun both => both.2 rfl]
    rfl

/-- The same after a calm operation. -/
lemma Calm.beginClose (h : Calm s t) (state : s.record.state ≠ .closing) :
    Calm s (t.beginClose host) ∨ Closes host s (t.beginClose host) := by
  have idle : t.record.state ≠ .closing := fun closing => state (h.closing closing).1
  obtain ⟨-, refused⟩ | closes := beginClose_cases host h.timed idle
  · rw [refused]
    exact .inl (h.violate _)
  · refine .inr ⟨closes.orders.trans h.orders, state, closes.closing, ?_⟩
    rw [closes.timer, h.idle idle, CloseTimer.arm_cancel]

/-! ## Operations that give an order -/

/-- The application is ended while it starts. -/
structure Ends (s t : Scene) : Prop where
  starting : s.record.state = .starting
  orders : t.orders = s.orders ++ [.stop s.record.id]
  state : t.record.state ≠ .closing
  timer : t.record.timer = s.record.timer.cancel

/-- The application is launched again as it was launched before. -/
structure Relaunches (s t : Scene) : Prop where
  gone : s.record.state = .stoppedResumable
  asleep : s.record.requested = .suspended
  orders : t.orders = s.orders ++ [.start s.record.id s.record.arguments]
  state : t.record.state ≠ .closing
  timer : t.record.timer = s.record.timer.cancel

lemma forceStop_orders (host : Host) (s : Scene) :
    (s.forceStop host).orders = s.orders ++ [.stop s.record.id] := by
  have asked : ((s.update fun r => { r with timer := r.timer.cancel }).call
      (.stop s.record.id)).orders = s.orders ++ [.stop s.record.id] := call_stop_orders _ _
  unfold forceStop
  dsimp only
  split
  · exact asked
  · split
    · split
      · exact (log_orders _ rfl).trans asked
      · exact (log_orders _ rfl).trans ((log_orders _ rfl).trans asked)
    · split
      · exact (enter_orders _ _ _).trans asked
      · exact asked

lemma forceStop_ends (host : Host) (starting : s.record.state = .starting) :
    Ends s (s.forceStop host) := by
  obtain same | ⟨-, state, timer⟩ := forceStop_record host s
  · refine ⟨starting, forceStop_orders host s, ?_, ?_⟩
    · rw [same]
      show s.record.state ≠ .closing
      rw [starting]
      decide
    · rw [same]
  · refine ⟨starting, forceStop_orders host s, ?_, timer⟩
    rw [state]
    decide

lemma respawn_orders (host : Host) (s : Scene) :
    (s.respawn host).orders = s.orders ++ [.start s.record.id s.record.arguments] := by
  have same := enter_sameIdentity host
    (s.update fun r => { r with pid := 0, process := .unknown }) .starting
  unfold respawn
  dsimp only
  rw [same.id, same.arguments]
  split
  · rw [call_start_orders, enter_orders]
    rfl
  · rw [enter_orders, log_orders _ rfl, call_start_orders, enter_orders]
    rfl

lemma respawn_timer (host : Host) (idle : s.record.state ≠ .closing) :
    (s.respawn host).record.timer = s.record.timer := by
  have entered : ((s.update fun r => { r with pid := 0, process := .unknown }).enter host
      .starting).record.timer = s.record.timer := by
    rw [enter_timer, if_neg fun both => idle both.1]
    rfl
  unfold respawn
  dsimp only
  split
  · exact entered
  · rw [enter_timer, if_neg]
    · exact entered
    · rintro ⟨closing, -⟩
      have starting := enter_state host .starting
        (s.update fun r => { r with pid := 0, process := .unknown })
      have both : InternalState.starting = .closing := starting.symm.trans closing
      cases both

lemma reconcile_gone (host : Host) (requested : s.record.requested = .running)
    (gone : s.record.state = .stoppedResumable) :
    s.reconcile host = (s.update fun r => { r with passes := r.passes + 1 }).respawn host := by
  have requested' : (s.update fun r => { r with passes := r.passes + 1 }).record.requested =
      .running := requested
  have gone' : (s.update fun r => { r with passes := r.passes + 1 }).record.state =
      .stoppedResumable := gone
  unfold reconcile
  dsimp only
  rw [requested', gone']

lemma request_relaunches (host : Host) (timed : s.record.Timed)
    (gone : s.record.state = .stoppedResumable) (asleep : s.record.requested = .suspended) :
    Relaunches s (s.request host .running) := by
  have idle : s.record.state ≠ .closing := by
    rw [gone]
    decide
  have launched := reconcile_gone (s := s.update fun r => { r with requested := .running }) host
    rfl gone
  unfold request
  rw [if_neg (by rw [asleep]; decide), launched]
  refine ⟨gone, asleep, respawn_orders host _, ?_, ?_⟩
  · obtain state | state := respawn_state host _ <;> rw [state] <;> decide
  · refine (respawn_timer host ?_).trans (timed.cancel_eq idle).symm
    exact idle

/-! ## What an operation does -/

/-- A request is calm, or launches the application again. -/
lemma request_cases (host : Host) (value : RequestedState) (timed : s.record.Timed) :
    Calm s (s.request host value) ∨ value = .running ∧ Relaunches s (s.request host value) := by
  by_cases launches : value = .running ∧ s.record.state = .stoppedResumable ∧
      s.record.requested = .suspended
  · obtain ⟨rfl, gone, asleep⟩ := launches
    exact .inr ⟨rfl, request_relaunches host timed gone asleep⟩
  · by_cases same : s.record.requested = value
    · left
      unfold request
      rw [if_pos same]
      exact .refl timed
    · refine .inl ((Calm.refl timed).request fun running gone => launches ⟨running, gone, ?_⟩)
      cases hrequested : s.record.requested with
      | running => exact absurd (hrequested.trans running.symm) same
      | suspended => rfl

lemma close_cases (host : Host) (timed : s.record.Timed) :
    Calm s (s.close host) ∨ Closes host s (s.close host) ∨ Ends s (s.close host) := by
  have start : Calm s s := .refl timed
  obtain ⟨starting, h⟩ | ⟨running, h⟩ | ⟨state, h⟩ | ⟨-, h⟩ | ⟨-, h⟩ := close_eq host s <;> rw [h]
  · exact .inr (.inr (forceStop_ends host starting))
  · have idle : s.record.state ≠ .closing := by rw [running]; decide
    exact (start.beginClose idle).imp_right .inl
  · have idle : s.record.state ≠ .closing ∧ s.record.state ≠ .stoppedResumable := by
      constructor <;> intro same <;> rw [same] at state <;> revert state <;> decide
    exact ((start.request fun _ => idle.2).beginClose idle.1).imp_right .inl
  · exact .inl (start.enter (by decide))
  · exact .inl start

lemma hear_cases (host : Host) (state : SessionState) (timed : s.record.Timed) :
    Calm s (s.hear host state) ∨ Closes host s (s.hear host state) := by
  have start : Calm s s := .refl timed
  have heard : Calm s (s.onSession host state) ∨ Closes host s (s.onSession host state) := by
    unfold onSession
    split
    · exact .inl start
    · exact .inl start
    · split
      · refine .inl ((start.enter (by decide)).reconcile fun _ => ?_)
        rw [enter_state]
        decide
      · exact .inl start
    · split
      · exact .inl ((start.enter (by decide)).log rfl)
      · exact .inl (start.violate _)
    · split
      · rename_i suspending
        have idle : s.record.state ≠ .closing := by rw [suspending.1]; decide
        have begun : Calm s (s.beginClose host) ∨ Closes host s (s.beginClose host) :=
          start.beginClose idle
        obtain calm | closes := begun
        · exact .inl (calm.log rfl)
        · exact .inr ⟨(log_orders _ rfl).trans closes.orders, idle, closes.closing, closes.timer⟩
      · split
        · exact .inl (start.enter (by decide))
        · exact .inl (start.enter (by decide))
  unfold hear
  dsimp only
  obtain calm | closes := heard
  · split
    · exact .inl calm.detach
    · exact .inl calm
  · -- a record that is closing keeps its session
    rw [if_neg]
    · exact .inr closes
    · rw [closes.closing]
      rintro ⟨-, ended⟩
      revert ended
      decide

/-! ## Ticks -/

/-- A tick that finds the timer expired orders the application to be ended. -/
lemma tick_orders (host : Host) (now : Instant) (s : Scene) :
    (s.tick host now).2.orders =
      s.orders ++ if (s.record.timer.poll now).1 then [.stop s.record.id] else [] := by
  unfold tick
  dsimp only
  split
  · exact forceStop_orders host _
  · simp

/-- A tick changes the timer only, unless the application never started. -/
lemma tick_record (host : Host) (now : Instant) (s : Scene) :
    (s.tick host now).2.record = { s.record with timer := (s.record.timer.poll now).2 } ∨
    s.record.state = .starting ∧ (s.tick host now).2.record.state = .stopped := by
  unfold tick
  dsimp only
  split
  · rename_i fired
    have cancelled : (s.record.timer.poll now).2.cancel = (s.record.timer.poll now).2 := by
      unfold CloseTimer.poll at fired ⊢
      split at fired
      · split at fired
        · simp [*]
        · cases fired
      · cases fired
    obtain same | ⟨starting, stopped, -⟩ := forceStop_record host
      (s.update fun r => { r with timer := (s.record.timer.poll now).2 })
    · left
      rw [same]
      show { s.record with timer := (s.record.timer.poll now).2.cancel } = _
      rw [cancelled]
    · exact .inr ⟨starting, stopped⟩
  · exact .inl rfl

end Scene

end AppLifecycle
