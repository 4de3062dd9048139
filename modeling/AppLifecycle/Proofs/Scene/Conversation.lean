import AppLifecycle.Proofs.Scene.Attendance

/-!
# What sessions are told

Whatever happens to a record, nothing is asked of any session but its own, and its hold on that one
is kept (`Loyal`), until the session ends or another one takes its place. What a session was told
last, to suspend or to resume, suits the state of its record (`InTune`): it is `suspend` while the
record waits for the suspension, and never while the application is to go on.
-/

namespace AppLifecycle

namespace Effect

/-- The effect is nothing to any session but this one, and the hold on this one is kept. -/
def Within (session : Option Session) : Effect → Prop
  | .ask x _ => session = some x
  | .letGo _ => False
  | _ => True

/-- The effect is nothing to any session. -/
def Aside : Effect → Prop
  | .ask _ _ => False
  | .letGo _ => False
  | _ => True

/-- What a session is told by an effect, to suspend or to resume. -/
def bid (id : SessionId) : Effect → Option SessionAction
  | .ask x .suspend => if x.id = id then some .suspend else none
  | .ask x .resume => if x.id = id then some .resume else none
  | _ => none

variable {e : Effect} {id : SessionId} {session : Option Session}

lemma Aside.within (h : e.Aside) : e.Within session := by
  cases e <;> first | exact h.elim | trivial

lemma Aside.bid (h : e.Aside) : e.bid id = none := by
  cases e <;> first | exact h.elim | rfl

/-- What is asked of a session is no bid to another one. -/
lemma bid_ask_of_ne {x : Session} (action : SessionAction) (other : x.id ≠ id) :
    (Effect.ask x action).bid id = none := by
  cases action <;> simp [Effect.bid, other]

end Effect

/-- What a session was told last, to suspend or to resume. -/
def lastBid (id : SessionId) (effects : List Effect) : Option SessionAction :=
  (effects.filterMap (Effect.bid id)).getLast?

variable {id : SessionId} {l l' : List Effect}

lemma lastBid_append : lastBid id (l ++ l') = (lastBid id l').or (lastBid id l) := by
  unfold lastBid
  rw [List.filterMap_append, List.getLast?_append]

lemma lastBid_of_forall (h : ∀ e ∈ l, e.bid id = none) : lastBid id l = none := by
  unfold lastBid
  rw [List.filterMap_eq_nil_iff.mpr h]
  rfl

/-- Effects that tell a session neither leave it with what it was told before. -/
lemma lastBid_append_of_forall (h : ∀ e ∈ l', e.bid id = none) :
    lastBid id (l ++ l') = lastBid id l := by
  rw [lastBid_append, lastBid_of_forall h]
  rfl

lemma lastBid_concat_suspend (x : Session) : lastBid x.id (l ++ [.ask x .suspend]) =
    some .suspend := by
  rw [lastBid_append]
  simp [lastBid, Effect.bid]

lemma lastBid_concat_resume (x : Session) : lastBid x.id (l ++ [.ask x .resume]) =
    some .resume := by
  rw [lastBid_append]
  simp [lastBid, Effect.bid]

/-- What the session of a record in this state may have been told last. -/
def InternalState.Suits (bid : Option SessionAction) : InternalState → Prop
  | .suspendingWaitSession => bid = some .suspend
  | .suspendingWaitProcess => bid = some .suspend
  | .starting => bid ≠ some .suspend
  | .running => bid ≠ some .suspend
  | .runningInBackground => bid ≠ some .suspend
  | .stoppedResumable => bid ≠ some .suspend
  | .suspended => True
  | .closing => True
  | .stopped => True

namespace Scene

variable {host : Host} {s t u : Scene} {state : InternalState}

/-- What the session of the record was told last suits the record's state. -/
def InTune (s : Scene) : Prop :=
  ∀ x, s.record.session = some x → s.record.state.Suits (lastBid x.id s.journal)

lemma inTune_of_alone (h : s.record.session = none) : s.InTune := by
  intro x attached
  rw [h] at attached
  cases attached

lemma inTune_of_resumed (running : s.record.state = .running)
    (told : ∀ x, s.record.session = some x → lastBid x.id s.journal = some .resume) :
    s.InTune := by
  intro x attached
  rw [running, told x attached]
  exact fun no => by cases no

/-- The session of the record stays, nothing is asked of any other, and no hold is given up. -/
structure Loyal (s t : Scene) : Prop where
  session : t.record.session = s.record.session
  effects : ∃ effects, t.journal = s.journal ++ effects ∧
    ∀ e ∈ effects, e.Within s.record.session

namespace Loyal

lemma refl (s : Scene) : Loyal s s := ⟨rfl, [], (List.append_nil _).symm, by simp⟩

lemma trans (h : Loyal s t) (h' : Loyal t u) : Loyal s u := by
  obtain ⟨effects, journal, within⟩ := h.effects
  obtain ⟨effects', journal', within'⟩ := h'.effects
  rw [h.session] at within'
  refine ⟨h'.session.trans h.session, effects ++ effects', ?_, fun e he => ?_⟩
  · rw [journal', journal, List.append_assoc]
  · obtain he | he := List.mem_append.mp he
    · exact within e he
    · exact within' e he

lemma of_journal (session : t.record.session = s.record.session) (journal : t.journal = s.journal) :
    Loyal s t := ⟨session, [], by rw [journal, List.append_nil], by simp⟩

lemma log (h : Loyal s t) {e : Effect} (within : e.Within t.record.session) :
    Loyal s (t.log e) := by
  refine h.trans ⟨rfl, [e], rfl, fun e' he => ?_⟩
  rw [List.mem_singleton.mp he]
  exact within

lemma update (h : Loyal s t) {f : Record → Record}
    (session : (f t.record).session = t.record.session) : Loyal s (t.update f) :=
  h.trans (.of_journal session rfl)

lemma enter (h : Loyal s t) (state : InternalState) : Loyal s (t.enter host state) :=
  h.trans (.of_journal (enter_session host state t) (enter_journal host state t))

end Loyal

/-- The session of the record stays and is told what suits the record's state. -/
structure Converses (s t : Scene) : Prop extends Loyal s t where
  tune : s.InTune → t.InTune

namespace Converses

lemma refl (s : Scene) : Converses s s := ⟨.refl s, id⟩

lemma trans (h : Converses s t) (h' : Converses t u) : Converses s u :=
  ⟨h.toLoyal.trans h'.toLoyal, fun tune => h'.tune (h.tune tune)⟩

/-! ## Single steps -/

lemma log (h : Converses s t) {e : Effect} (aside : e.Aside) : Converses s (t.log e) := by
  refine ⟨h.toLoyal.log aside.within, fun tune x attached => ?_⟩
  have kept : lastBid x.id (t.journal ++ [e]) = lastBid x.id t.journal :=
    lastBid_append_of_forall fun e' he => by
      rw [List.mem_singleton.mp he]
      exact aside.bid
  show t.record.state.Suits (lastBid x.id (t.journal ++ [e]))
  rw [kept]
  exact h.tune tune x attached

lemma call (h : Converses s t) (c : ControllerCall) : Converses s (t.call c) := h.log trivial

lemma report (h : Converses s t) (incident : Incident) : Converses s (t.log (.report incident)) :=
  h.log trivial

lemma update (h : Converses s t) {f : Record → Record}
    (session : (f t.record).session = t.record.session)
    (state : (f t.record).state = t.record.state) : Converses s (t.update f) := by
  refine ⟨h.toLoyal.update session, fun tune x attached => ?_⟩
  show (f t.record).state.Suits _
  rw [state]
  exact h.tune tune x (session.symm.trans attached)

lemma violate (h : Converses s t) (v : Violation) : Converses s (t.violate v) :=
  (h.update rfl rfl).log trivial

/-- A record may enter a state that what its session was told last suits as well. -/
lemma enter (h : Converses s t)
    (suits : ∀ bid, t.record.state.Suits bid → state.Suits bid) :
    Converses s (t.enter host state) := by
  refine ⟨h.toLoyal.enter state, fun tune x attached => ?_⟩
  rw [enter_session] at attached
  rw [enter_state, enter_journal]
  exact suits _ (h.tune tune x attached)

/-- A record that is to run may enter its state if its session is told to resume. -/
lemma resumed (h : Loyal s t) (running : t.record.state = .running) (absent : Violation) :
    Converses s (t.askSession .resume absent) := by
  unfold askSession
  cases attached : t.record.session with
  | none =>
    have told : Loyal s (t.violate absent) := (h.update rfl).log trivial
    exact ⟨told, fun _ => inTune_of_alone attached⟩
  | some session =>
    refine ⟨h.log attached, fun _ => inTune_of_resumed running fun x same => ?_⟩
    obtain rfl : session = x := Option.some.inj (attached.symm.trans same)
    exact lastBid_concat_resume session

/-! ## Reconciliation -/

lemma suspend (h : Converses s t) : Converses s (t.suspend host) := by
  unfold Scene.suspend
  split
  · exact h.violate _
  · rename_i running
    have running : t.record.state = .running := Decidable.not_not.mp running
    split
    · exact h.violate _
    · rename_i session attached
      split
      · refine h.enter fun bid suits => ?_
        rw [running] at suits
        exact suits
      · refine ⟨(h.toLoyal.log (e := .ask session .suspend) attached).enter _, fun _ x same => ?_⟩
        rw [enter_session] at same
        obtain rfl : session = x := Option.some.inj (attached.symm.trans same)
        rw [enter_state, enter_journal]
        exact lastBid_concat_suspend session

lemma resume (h : Converses s t) : Converses s (t.resume host) := by
  have entered : Loyal s (t.enter host .running) := h.toLoyal.enter .running
  have running : (t.enter host .running).record.state = .running := enter_state host .running t
  have woken : Converses s ((((t.enter host .running).call (.resume t.record.id)).update fun r =>
      { r with process := if r.process = .suspended then .running else r.process }).askSession
        .resume .resumeWithoutSession) :=
    .resumed ((entered.log (e := .call (.resume t.record.id)) trivial).update
      (f := fun r => { r with process := if r.process = .suspended then .running else r.process })
      rfl) running _
  unfold Scene.resume
  split
  · exact woken
  · exact woken
  · exact .resumed entered running _
  · rename_i background
    refine h.enter fun bid suits => ?_
    rw [background] at suits
    exact suits
  · exact h.violate _

lemma respawn (h : Converses s t) (gone : t.record.state = .stoppedResumable) :
    Converses s (t.respawn host) := by
  have noted := h.update (f := fun r => { r with pid := 0, process := .unknown }) rfl rfl
  have started : Converses s
      ((t.update fun r => { r with pid := 0, process := .unknown }).enter host .starting) := by
    refine noted.enter fun bid suits => ?_
    have suits : t.record.state.Suits bid := suits
    rw [gone] at suits
    exact suits
  unfold Scene.respawn
  dsimp only
  split
  · exact started.call _
  · exact ((started.call _).report _).enter fun _ _ => trivial

lemma reconcile (h : Converses s t) : Converses s (t.reconcile host) := by
  have counted := h.update (f := fun r => { r with passes := r.passes + 1 }) rfl rfl
  unfold Scene.reconcile
  dsimp only
  split
  · exact counted.resume
  · exact counted.resume
  · exact counted.resume
  · rename_i gone
    exact counted.respawn gone
  · split
    · exact counted.suspend
    · exact counted
    · exact counted.violate _
  · exact counted

/-! ## Closing and stopping -/

lemma beginClose (h : Converses s t) : Converses s (t.beginClose host) := by
  unfold Scene.beginClose
  split
  · exact h.violate _
  · split
    · exact h.violate _
    · rename_i session attached
      have asked := (h.toLoyal.log (e := .ask session .close) attached).update
        (f := fun r => { r with timer := r.timer.arm host.now }) rfl
      refine ⟨asked.enter .closing, fun _ x _ => ?_⟩
      rw [enter_state]
      trivial

lemma forceStop (h : Converses s t) : Converses s (t.forceStop host) := by
  have asked := (h.update (f := fun r => { r with timer := r.timer.cancel }) rfl rfl).call
    (.stop t.record.id)
  unfold Scene.forceStop
  dsimp only
  split
  · exact asked
  · split
    · split
      · exact asked.call _
      · exact (asked.call _).report _
    · split
      · exact asked.enter fun _ _ => trivial
      · exact asked

/-! ## The operations -/

lemma request (h : Converses s t) (value : RequestedState) :
    Converses s (t.request host value) := by
  unfold Scene.request
  split
  · exact h
  · exact (h.update (f := fun r => { r with requested := value }) rfl rfl).reconcile

lemma setExempt (h : Converses s t) (exempt : Bool) : Converses s (t.setExempt host exempt) := by
  have told : (t.setExempt host exempt).journal = t.journal := by
    unfold Scene.setExempt
    split
    · rfl
    · exact syncWakelock_journal host _
  obtain ⟨-, state, session, -⟩ := Record.standing_inj.mp (t.setExempt_standing host exempt)
  refine h.trans ⟨.of_journal session told, fun tune x attached => ?_⟩
  rw [state, told]
  exact tune x (session.symm.trans attached)

lemma setStage (h : Converses s t) (stage : Stage) : Converses s (t.setStage stage).2 := by
  unfold Scene.setStage
  split
  · exact h.update (f := fun r => { r with stage }) rfl rfl
  · exact h

lemma close (h : Converses s t) : Converses s (t.close host) := by
  unfold Scene.close
  split
  · exact h.forceStop
  · exact h.beginClose
  · exact (h.request _).beginClose
  · exact (h.request _).beginClose
  · exact (h.request _).beginClose
  · exact (h.request _).beginClose
  · exact h
  · exact h.enter fun _ _ => trivial
  · exact h

lemma tick (h : Converses s t) (now : Instant) : Converses s (t.tick host now).2 := by
  have polled := h.update (f := fun r => { r with timer := (t.record.timer.poll now).2 }) rfl rfl
  unfold Scene.tick
  dsimp only
  split
  · exact polled.forceStop
  · exact polled

lemma checkSessionStopped (h : Converses s t) (host : Host)
    (violation : SessionState → Violation) :
    Converses s (t.checkSessionStopped host violation) := by
  unfold Scene.checkSessionStopped
  split
  · exact h
  · split
    · exact h
    · exact h.violate _

lemma onProcess (h : Converses s t) (process : ProcessState) :
    Converses s (t.onProcess host process) := by
  have noted := h.update (f := fun r => { r with process }) rfl rfl
  unfold Scene.onProcess
  split
  · exact h
  · refine Converses.reconcile ?_
    cases process with
    | unknown => exact noted.violate _
    | running =>
      dsimp only
      split
      · rename_i gone
        refine noted.enter fun bid suits => ?_
        rw [gone] at suits
        exact suits
      · exact noted
    | suspended =>
      dsimp only
      split
      · exact noted.call _
      · exact noted.enter fun _ _ => trivial
    | failed =>
      have checked := noted.checkSessionStopped host .failedInSession
      dsimp only
      split
      · exact checked.enter fun _ _ => trivial
      · exact checked
      · exact checked
      · exact checked.violate _
    | stopped =>
      have checked := noted.checkSessionStopped host .stoppedInSession
      dsimp only
      split
      · exact checked.enter fun _ _ => trivial
      · exact checked.enter fun _ _ => trivial
      · exact checked.enter fun _ _ => trivial
      · exact checked.enter fun _ _ => trivial
      · exact checked
      · exact checked.violate _

end Converses

/-! ## The end and the beginning of a session -/

lemma onSession_loyal (host : Host) (state : SessionState) (s : Scene) :
    Loyal s (s.onSession host state) := by
  have start : Converses s s := .refl s
  unfold onSession
  split
  · exact .refl s
  · exact .refl s
  · split
    · exact ((Loyal.refl s).enter .running).trans (Converses.refl _).reconcile.toLoyal
    · exact .refl s
  · split
    · exact ((Loyal.refl s).enter .suspendingWaitProcess).log trivial
    · exact (start.violate _).toLoyal
  · split
    · exact (start.beginClose.call _).toLoyal
    · split
      · exact (Loyal.refl s).enter .stopped
      · exact (Loyal.refl s).enter .stoppedResumable

/-- A report of a session leaves the session told what suits the state, unless with the session the
application has stopped and can be launched again. -/
lemma onSession_converses (host : Host) {state : SessionState}
    (goesOn : state = .stopped → (s.onSession host state).record.state ≠ .stoppedResumable) :
    Converses s (s.onSession host state) := by
  have start : Converses s s := .refl s
  revert goesOn
  unfold onSession
  split
  · exact fun _ => start
  · exact fun _ => start
  · split
    · rename_i starting
      refine fun _ => Converses.reconcile (start.enter fun bid suits => ?_)
      rw [starting] at suits
      exact suits
    · exact fun _ => start
  · split
    · rename_i waiting
      refine fun _ => Converses.call (start.enter fun bid suits => ?_) _
      rw [waiting] at suits
      exact suits
    · exact fun _ => start.violate _
  · split
    · exact fun _ => start.beginClose.call _
    · split
      · exact fun _ => start.enter fun _ _ => trivial
      · exact fun goesOn => absurd (enter_state _ _ _) (goesOn rfl)

/-- A report of its session that does not end it leaves a record with the session, which is told
what suits the state; otherwise it lets the session go. -/
lemma hear_converses (host : Host) (state : SessionState) (s : Scene) :
    Converses s (s.hear host state) ∨
    state = .stopped ∧ ∃ t, Loyal s t ∧ s.hear host state = t.letGoSession := by
  by_cases ended : state = .stopped ∧ ((s.onSession host state).record.state = .stopped ∨
      (s.onSession host state).record.state = .stoppedResumable)
  · refine .inr ⟨ended.1, _, onSession_loyal host state s, ?_⟩
    have heard : s.hear host state = (s.onSession host state).detach := if_pos ended
    rw [heard]
    exact if_pos ended.2
  · left
    have heard : s.hear host state = s.onSession host state := if_neg ended
    rw [heard]
    exact onSession_converses host fun stopped gone => ended ⟨stopped, .inr gone⟩

lemma letGoSession_journal (s : Scene) : s.letGoSession.journal =
    s.journal ++ s.record.session.toList.map fun x => .letGo x.id := by
  unfold letGoSession
  cases s.record.session with
  | none => exact (List.append_nil _).symm
  | some session => rfl

lemma attach_journal (s : Scene) (session : Session) : (s.attach session).journal =
    s.journal ++ (s.record.session.toList.map fun x => .letGo x.id) ++
      [.ask session (greeting s.record.state)] := by
  have state : s.letGoSession.record.state = s.record.state := by
    rw [letGoSession_record]
  unfold attach
  show s.letGoSession.journal ++ [.ask session (greeting s.letGoSession.record.state)] = _
  rw [letGoSession_journal, state]

/-- A session that has been told neither is told what suits the state as it begins. -/
lemma attach_inTune (s : Scene) {session : Session}
    (unheard : lastBid session.id s.journal = none) : (s.attach session).InTune := by
  obtain ⟨-, state, attached, -⟩ := s.attach_standing session
  intro x same
  obtain rfl : session = x := Option.some.inj (attached.symm.trans same)
  have dropped : ∀ e ∈ s.record.session.toList.map fun x => Effect.letGo x.id,
      e.bid session.id = none := by
    intro e he
    obtain ⟨x, -, rfl⟩ := List.mem_map.mp he
    rfl
  rw [state, attach_journal, lastBid_append, lastBid_append_of_forall dropped, unheard]
  cases s.record.state <;> simp [lastBid, Effect.bid, greeting, InternalState.Suits]

end Scene

end AppLifecycle
