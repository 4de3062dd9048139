import AppLifecycle.Proofs.Scene.Reconciliation
import AppLifecycle.Proofs.WakelockTurns

/-!
# What a report does depends on its record

A report of a process or a session acts on one record. What becomes of the record, who takes and
gives up a share in the wakelock, and what is done outside follow from the record and from what the
machine says of its application, whatever the others who share the wakelock do and whatever has been
done before (`Uniform`).
-/

namespace AppLifecycle

/-- An application, the session that its record has, and the machine it runs on. -/
structure Party where
  id : AppId
  session : Option Session
  host : Host

namespace Party

/-- The same time, and the same answers to what may be asked for the application and its session;
every request for the wakelock is granted. -/
structure Agrees (p : Party) (host : Host) : Prop where
  now : host.now = p.host.now
  start : ∀ args, host.start p.id args = p.host.start p.id args
  sessionState : ∀ session, p.session = some session →
    host.sessionState session.id = p.host.sessionState session.id
  grants : ∀ attempt, host.grants attempt = true

/-- The record of the application, which has its session or has given it up. -/
structure Has (p : Party) (r : Record) : Prop where
  id : r.id = p.id
  session : r.session = p.session ∨ r.session = none

/-- A session that the record still has is the application's. -/
lemma Has.session_eq {p : Party} {r : Record} {session : Session} (has : p.Has r)
    (attached : r.session = some session) : p.session = some session := by
  obtain same | gone := has.session
  · exact same.symm.trans attached
  · rw [gone] at attached
    cases attached

/-- The effect is one on the application or its session; incidents are on nobody. -/
def Owns (p : Party) : Effect → Prop
  | .call (.start id _) => id = p.id
  | .call (.stop id) => id = p.id
  | .call (.suspend id) => id = p.id
  | .call (.resume id) => id = p.id
  | .call (.terminate _) => False
  | .ask session _ => p.session = some session
  | .letGo session => p.session.map Session.id = some session
  | .report _ => True

end Party

/-- What happens to a record, to the wakelock and outside. -/
structure Impact where
  record : Record
  turns : List (WakelockOwner × Bool)
  effects : List Effect

namespace Impact

/-- What a scene becomes. -/
def on (i : Impact) (wakelock : Wakelock) (journal : List Effect) : Scene :=
  ⟨i.record, wakelock.follow i.turns, journal ++ i.effects⟩

/-- All that happens to a record happens to its application. -/
structure Within (p : Party) (r : Record) (i : Impact) : Prop where
  has : p.Has i.record
  owner : i.record.owner = r.owner
  turns : ∀ t ∈ i.turns, t.1 = r.owner
  effects : ∀ e ∈ i.effects, p.Owns e

end Impact

namespace Scene

/-- What is done to the record does not depend on the wakelock, on what was done before, or on what
a machine says of others. -/
def Uniform (p : Party) (f : Host → Scene → Scene) (r : Record) : Prop :=
  ∃ i : Impact, i.Within p r ∧
    ∀ host, p.Agrees host → ∀ wakelock journal,
      f host ⟨r, wakelock, journal⟩ = i.on wakelock journal

variable {p : Party} {f g : Host → Scene → Scene} {r : Record} {e : Effect}

namespace Uniform

lemma congr (same : ∀ host, p.Agrees host → ∀ wakelock journal,
    f host ⟨r, wakelock, journal⟩ = g host ⟨r, wakelock, journal⟩) (h : Uniform p g r) :
    Uniform p f r := by
  obtain ⟨i, within, all⟩ := h
  exact ⟨i, within, fun host agrees w j => (same host agrees w j).trans (all host agrees w j)⟩

lemma stay (has : p.Has r) : Uniform p (fun _ s => s) r :=
  ⟨⟨r, [], []⟩, ⟨has, rfl, fun _ no => (nomatch no), fun _ no => (nomatch no)⟩,
    fun _ _ _ journal => congrArg (Scene.mk r _) (List.append_nil journal).symm⟩

lemma andThen (h : Uniform p f r) (next : ∀ r', p.Has r' → Uniform p g r') :
    Uniform p (fun host s => g host (f host s)) r := by
  obtain ⟨i, within, all⟩ := h
  obtain ⟨i', within', all'⟩ := next i.record within.has
  refine ⟨⟨i'.record, i.turns ++ i'.turns, i.effects ++ i'.effects⟩, ⟨within'.has,
    within'.owner.trans within.owner, ?_, ?_⟩, fun host agrees w j => ?_⟩
  · refine List.forall_mem_append.mpr ⟨within.turns, fun t ht => ?_⟩
    exact (within'.turns t ht).trans within.owner
  · exact List.forall_mem_append.mpr ⟨within.effects, within'.effects⟩
  · show g host (f host ⟨r, w, j⟩) = _
    rw [all host agrees]
    show g host ⟨i.record, w.follow i.turns, j ++ i.effects⟩ = _
    rw [all' host agrees]
    unfold Impact.on
    dsimp only
    rw [Wakelock.follow_append, List.append_assoc]

end Uniform

/-! ## Single steps -/

lemma uniform_log (has : p.Has r) (owns : p.Owns e) : Uniform p (fun _ s => s.log e) r :=
  ⟨⟨r, [], [e]⟩, ⟨has, rfl, fun _ no => (nomatch no), List.forall_mem_singleton.mpr owns⟩,
    fun _ _ _ _ => rfl⟩

lemma uniform_update (change : Record → Record) (has : p.Has (change r))
    (owner : (change r).owner = r.owner) : Uniform p (fun _ s => s.update change) r :=
  ⟨⟨change r, [], []⟩, ⟨has, owner, fun _ no => (nomatch no), fun _ no => (nomatch no)⟩,
    fun _ _ _ journal => congrArg (Scene.mk (change r) _) (List.append_nil journal).symm⟩

lemma uniform_violate (v : Violation) (has : p.Has r) : Uniform p (fun _ s => s.violate v) r :=
  (uniform_update (fun r => { r with violations := r.violations + 1 })
    ⟨has.id, has.session⟩ rfl).andThen fun _ has =>
      uniform_log (e := .report (.violated v)) has trivial

lemma uniform_enter (state : InternalState) (has : p.Has r) :
    Uniform p (fun host s => s.enter host state) r := by
  by_cases same : r.state = state
  · exact .congr (g := fun _ s => s) (fun _ _ _ _ => if_pos same) (.stay has)
  · let entered : Record :=
      { r with state, timer := if r.state = .closing then r.timer.cancel else r.timer }
    refine ⟨⟨entered, [(r.owner, entered.wantsWakelock)], []⟩, ⟨⟨has.id, has.session⟩, rfl,
      List.forall_mem_singleton.mpr rfl, fun _ no => (nomatch no)⟩, fun host agrees w j => ?_⟩
    -- a system that may refuse would tell how often it has been asked before
    have granted : host.grants = fun _ => true := funext agrees.grants
    have enters : enter host state ⟨r, w, j⟩ = syncWakelock host ⟨entered, w, j⟩ := if_neg same
    show enter host state ⟨r, w, j⟩ = ⟨entered, w.turn (r.owner, _), j ++ []⟩
    rw [enters, List.append_nil]
    unfold syncWakelock Wakelock.turn
    rw [granted]
    split <;> rfl

lemma uniform_askSession (action : SessionAction) (absent : Violation) (has : p.Has r) :
    Uniform p (fun _ s => s.askSession action absent) r := by
  cases attached : r.session with
  | none =>
    refine .congr (fun _ _ w j => ?_) (uniform_violate absent has)
    unfold askSession
    rw [show (⟨r, w, j⟩ : Scene).record.session = none from attached]
  | some session =>
    have owns : p.Owns (.ask session action) := has.session_eq attached
    refine .congr (fun _ _ w j => ?_) (uniform_log has owns)
    unfold askSession
    rw [show (⟨r, w, j⟩ : Scene).record.session = some session from attached]

/-! ## Reconciliation -/

lemma uniform_suspend (has : p.Has r) : Uniform p (fun host s => s.suspend host) r := by
  by_cases running : r.state = .running
  · cases attached : r.session with
    | none =>
      refine .congr (fun _ _ w j => ?_) (uniform_violate .suspendWithoutSession has)
      simp [suspend, running, attached]
    | some session =>
      by_cases exempt : r.exempt = true
      · refine .congr (fun _ _ w j => ?_) (uniform_enter .runningInBackground has)
        simp [suspend, running, attached, exempt]
      · refine .congr (fun _ _ w j => ?_)
          ((uniform_askSession .suspend .suspendWithoutSession has).andThen
            fun _ has => uniform_enter .suspendingWaitSession has)
        simp [suspend, askSession, running, attached, exempt]
  · refine .congr (fun _ _ w j => ?_) (uniform_violate (.suspendWhile r.state) has)
    simp [suspend, running]

/-- A process is woken. -/
lemma uniform_wake (has : p.Has r) : Uniform p (fun host s =>
    ((s.enter host .running).call (.resume s.record.id)).update fun r =>
      { r with process := if r.process = .suspended then .running else r.process }) r := by
  have sameId : r.id = p.id := has.id
  have waken := ((uniform_enter .running has).andThen fun _ has =>
    uniform_log (e := .call (.resume r.id)) has sameId).andThen fun _ has =>
      uniform_update (fun r => { r with
        process := if r.process = .suspended then .running else r.process })
        ⟨has.id, has.session⟩ rfl
  exact .congr (fun _ _ _ _ => rfl) waken

lemma uniform_resume (has : p.Has r) : Uniform p (fun host s => s.resume host) r := by
  cases state : r.state with
  | suspended =>
    refine .congr (fun _ _ w j => ?_) ((uniform_wake has).andThen
      fun _ has => uniform_askSession .resume .resumeWithoutSession has)
    simp [resume, state]
  | suspendingWaitProcess =>
    refine .congr (fun _ _ w j => ?_) ((uniform_wake has).andThen
      fun _ has => uniform_askSession .resume .resumeWithoutSession has)
    simp [resume, state]
  | suspendingWaitSession =>
    refine .congr (fun _ _ w j => ?_) ((uniform_enter .running has).andThen
      fun _ has => uniform_askSession .resume .resumeWithoutSession has)
    simp [resume, state]
  | runningInBackground =>
    refine .congr (fun _ _ w j => ?_) (uniform_enter .running has)
    simp [resume, state]
  | _ =>
    refine .congr (fun _ _ w j => ?_) (uniform_violate (.resumeWhile r.state) has)
    simp [resume, state]

/-- The controller is asked for a new process; if it fails, the application is over. -/
def launchAgain (host : Host) (s : Scene) : Scene :=
  let s := s.call (.start s.record.id s.record.arguments)
  match host.start s.record.id s.record.arguments with
  | .ok () => s
  | .error _ => (s.log (.report .respawnFailed)).enter host .stopped

lemma uniform_launchAgain (has : p.Has r) : Uniform p (fun host s => s.launchAgain host) r := by
  have called := uniform_log (e := .call (.start r.id r.arguments)) has has.id
  have answer {host : Host} (agrees : p.Agrees host) :
      host.start r.id r.arguments = p.host.start p.id r.arguments := by
    rw [has.id]
    exact agrees.start r.arguments
  cases launched : p.host.start p.id r.arguments with
  | ok done =>
    refine .congr (fun host agrees w j => ?_) called
    simp [launchAgain, call, log, answer agrees, launched]
  | error e =>
    refine .congr (fun host agrees w j => ?_) ((called.andThen fun _ has =>
      uniform_log (e := .report .respawnFailed) has trivial).andThen
        fun _ has => uniform_enter .stopped has)
    simp [launchAgain, call, log, answer agrees, launched]

lemma uniform_respawn (has : p.Has r) : Uniform p (fun host s => s.respawn host) r := by
  have cleared := (uniform_update (fun r => { r with pid := 0, process := .unknown })
    (show p.Has { r with pid := 0, process := .unknown } from ⟨has.id, has.session⟩) rfl).andThen
      fun _ has => uniform_enter .starting has
  exact .congr (fun _ _ _ _ => rfl) (cleared.andThen fun _ has => uniform_launchAgain has)

lemma uniform_reconcile (has : p.Has r) : Uniform p (fun host s => s.reconcile host) r := by
  have counted := uniform_update (fun r => { r with passes := r.passes + 1 })
    (show p.Has { r with passes := r.passes + 1 } from ⟨has.id, has.session⟩) rfl
  cases requested : r.requested with
  | running =>
    cases state : r.state with
    | runningInBackground | suspendingWaitSession | suspended =>
      refine .congr (fun _ _ w j => ?_) (counted.andThen fun _ has => uniform_resume has)
      simp [reconcile, update, requested, state]
    | stoppedResumable =>
      refine .congr (fun _ _ w j => ?_) (counted.andThen fun _ has => uniform_respawn has)
      simp [reconcile, update, requested, state]
    | _ =>
      refine .congr (fun _ _ w j => ?_) counted
      simp [reconcile, update, requested, state]
  | suspended =>
    cases state : r.state with
    | running =>
      cases process : r.process with
      | running =>
        refine .congr (fun _ _ w j => ?_) (counted.andThen fun _ has => uniform_suspend has)
        simp [reconcile, update, requested, state, process]
      | unknown =>
        refine .congr (fun _ _ w j => ?_) counted
        simp [reconcile, update, requested, state, process]
      | _ =>
        refine .congr (fun _ _ w j => ?_) (counted.andThen
          fun _ has => uniform_violate (.runningWithProcess r.process) has)
        simp [reconcile, update, requested, state, process]
    | _ =>
      refine .congr (fun _ _ w j => ?_) counted
      simp [reconcile, update, requested, state]

/-! ## Closing -/

lemma uniform_beginClose (has : p.Has r) : Uniform p (fun host s => s.beginClose host) r := by
  by_cases armed : r.timer.isArmed = true
  · refine .congr (fun _ _ w j => ?_) (uniform_violate .closeWhileArmed has)
    simp [beginClose, armed]
  · cases attached : r.session with
    | none =>
      refine .congr (fun _ _ w j => ?_) (uniform_violate .closeWithoutSession has)
      simp [beginClose, armed, attached]
    | some session =>
      refine .congr (fun host agrees w j => ?_)
        (((uniform_askSession .close .closeWithoutSession has).andThen fun _ has =>
          uniform_update (fun r => { r with timer := r.timer.arm p.host.now })
            ⟨has.id, has.session⟩ rfl).andThen fun _ has => uniform_enter .closing has)
      simp [beginClose, askSession, armed, attached, agrees.now]

lemma uniform_request (value : RequestedState) (has : p.Has r) :
    Uniform p (fun host s => s.request host value) r := by
  by_cases same : r.requested = value
  · exact .congr (g := fun _ s => s) (fun _ _ _ _ => if_pos same) (.stay has)
  · have noted := uniform_update (fun r => { r with requested := value })
      (show p.Has { r with requested := value } from ⟨has.id, has.session⟩) rfl
    exact .congr
      (g := fun host s => (s.update fun r => { r with requested := value }).reconcile host)
      (fun _ _ _ _ => if_neg same) (noted.andThen fun _ has => uniform_reconcile has)

/-! ## Reports -/

lemma uniform_checkSessionStopped (violation : SessionState → Violation) (has : p.Has r) :
    Uniform p (fun host s => s.checkSessionStopped host violation) r := by
  cases attached : r.session with
  | none =>
    refine .congr (fun _ _ w j => ?_) (.stay has)
    simp [checkSessionStopped, attached]
  | some session =>
    have own := has.session_eq attached
    cases reported : p.host.sessionState session.id with
    | stopped =>
      refine .congr (fun host agrees w j => ?_) (.stay has)
      simp [checkSessionStopped, attached, agrees.sessionState session own, reported]
    | _ =>
      refine .congr (fun host agrees w j => ?_)
        (uniform_violate (violation (p.host.sessionState session.id)) has)
      simp [checkSessionStopped, attached, agrees.sessionState session own, reported]

lemma uniform_setPid (pid : Nat) (has : p.Has r) : Uniform p (fun _ s => s.setPid pid) r :=
  uniform_update (fun r => { r with pid }) ⟨has.id, has.session⟩ rfl

lemma uniform_heedFailure (has : p.Has r) : Uniform p (fun host s => s.heedFailure host) r := by
  cases state : r.state with
  | starting =>
    refine .congr (fun _ _ w j => ?_) (uniform_enter .stopped has)
    simp [heedFailure, state]
  | stopped | stoppedResumable =>
    refine .congr (fun _ _ w j => ?_) (.stay has)
    simp [heedFailure, state]
  | _ =>
    refine .congr (fun _ _ w j => ?_) (uniform_violate (.processFailed r.state) has)
    simp [heedFailure, state]

lemma uniform_heedEnd (has : p.Has r) : Uniform p (fun host s => s.heedEnd host) r := by
  cases state : r.state with
  | starting | stoppedResumable | closing | suspendingWaitProcess =>
    refine .congr (fun _ _ w j => ?_) (uniform_enter .stopped has)
    simp [heedEnd, state]
  | stopped =>
    refine .congr (fun _ _ w j => ?_) (.stay has)
    simp [heedEnd, state]
  | _ =>
    refine .congr (fun _ _ w j => ?_) (uniform_violate (.processStopped r.state) has)
    simp [heedEnd, state]

lemma uniform_heedProcess (process : ProcessState) (has : p.Has r) :
    Uniform p (fun host s => s.heedProcess host process) r := by
  cases process with
  | unknown => exact uniform_violate .processUnknown has
  | running =>
    by_cases rests : r.state = .stoppedResumable
    · exact .congr (g := fun host s => s.enter host .starting) (fun _ _ _ _ => if_pos rests)
        (uniform_enter .starting has)
    · exact .congr (g := fun _ s => s) (fun _ _ _ _ => if_neg rests) (.stay has)
  | suspended =>
    by_cases closing : r.state = .closing
    · exact .congr (g := fun _ s => s.log (.call (.resume r.id))) (fun _ _ _ _ => if_pos closing)
        (uniform_log (e := .call (.resume r.id)) has has.id)
    · exact .congr (g := fun host s => s.enter host .suspended) (fun _ _ _ _ => if_neg closing)
        (uniform_enter .suspended has)
  -- the session is looked at first, which may change the record
  | failed =>
    exact (uniform_checkSessionStopped .failedInSession has).andThen
      fun _ has => uniform_heedFailure has
  | stopped =>
    exact (uniform_checkSessionStopped .stoppedInSession has).andThen
      fun _ has => uniform_heedEnd has

lemma uniform_onProcess (process : ProcessState) (has : p.Has r) :
    Uniform p (fun host s => s.onProcess host process) r := by
  by_cases same : r.process = process
  · exact .congr (g := fun _ s => s) (fun _ _ _ _ => if_pos same) (.stay has)
  · have noted := uniform_update (fun r => { r with process })
      (show p.Has { r with process } from ⟨has.id, has.session⟩) rfl
    exact .congr (g := fun host s =>
        ((s.update fun r => { r with process }).heedProcess host process).reconcile host)
      (fun _ _ _ _ => if_neg same) ((noted.andThen fun _ has =>
        uniform_heedProcess process has).andThen fun _ has => uniform_reconcile has)

lemma uniform_onSession (session : SessionState) (has : p.Has r) :
    Uniform p (fun host s => s.onSession host session) r := by
  cases session with
  | starting => exact .stay has
  | suspending => exact .stay has
  | running =>
    by_cases starting : r.state = .starting
    · exact .congr (g := fun host s => (s.enter host .running).reconcile host)
        (fun _ _ _ _ => if_pos starting)
        ((uniform_enter .running has).andThen fun _ has => uniform_reconcile has)
    · exact .congr (g := fun _ s => s) (fun _ _ _ _ => if_neg starting) (.stay has)
  | suspended =>
    by_cases waits : r.state = .suspendingWaitSession
    · refine .congr (g := fun host s => (s.enter host .suspendingWaitProcess).log
        (.call (.suspend r.id))) (fun _ _ _ _ => if_pos waits)
        ((uniform_enter .suspendingWaitProcess has).andThen fun _ next =>
          uniform_log (e := .call (.suspend r.id)) next has.id)
    · exact .congr (g := fun _ s => s.violate (.sessionSuspended r.state))
        (fun _ _ _ _ => if_neg waits) (uniform_violate _ has)
  | stopped =>
    by_cases suspending : r.state = .suspendingWaitProcess ∧ r.process ≠ .failed
    · refine .congr (g := fun host s => (s.beginClose host).log (.call (.resume r.id)))
        (fun _ _ _ _ => if_pos suspending)
        ((uniform_beginClose has).andThen fun _ next =>
          uniform_log (e := .call (.resume r.id)) next has.id)
    · by_cases ended : (!r.canBeResumed || r.state = .starting || r.state = .running ||
          r.state = .closing) = true
      · exact .congr (g := fun host s => s.enter host .stopped)
          (fun _ _ _ _ => (if_neg suspending).trans (if_pos ended)) (uniform_enter .stopped has)
      · exact .congr (g := fun host s => s.enter host .stoppedResumable)
          (fun _ _ _ _ => (if_neg suspending).trans (if_neg ended))
          (uniform_enter .stoppedResumable has)

lemma uniform_letGoSession (has : p.Has r) : Uniform p (fun _ s => s.letGoSession) r := by
  cases attached : r.session with
  | none =>
    refine .congr (fun _ _ w j => ?_) (.stay has)
    simp [letGoSession, attached]
  | some session =>
    have own := has.session_eq attached
    have owns : p.Owns (.letGo session.id) := congrArg (Option.map Session.id) own
    refine .congr (fun _ _ w j => ?_) ((uniform_update (fun r => { r with session := none })
      ⟨has.id, .inr rfl⟩ rfl).andThen fun _ has => uniform_log has owns)
    simp [letGoSession, attached]

lemma uniform_detach (has : p.Has r) : Uniform p (fun _ s => s.detach) r := by
  by_cases ended : r.state = .stopped ∨ r.state = .stoppedResumable
  · exact .congr (g := fun _ s => s.letGoSession) (fun _ _ _ _ => if_pos ended)
      (uniform_letGoSession has)
  · exact .congr (g := fun _ s => s.violate (.sessionRemoved r.state))
      (fun _ _ _ _ => if_neg ended) (uniform_violate _ has)

lemma uniform_hear (state : SessionState) (has : p.Has r) :
    Uniform p (fun host s => s.hear host state) r := by
  refine .congr (fun _ _ _ _ => rfl) ((uniform_onSession state has).andThen (g := fun _ s =>
    if state = .stopped ∧ (s.record.state = .stopped ∨ s.record.state = .stoppedResumable) then
      s.detach
    else s) fun q has => ?_)
  by_cases ended : state = .stopped ∧ (q.state = .stopped ∨ q.state = .stoppedResumable)
  · exact .congr (g := fun _ s => s.detach) (fun _ _ _ _ => if_pos ended) (uniform_detach has)
  · exact .congr (g := fun _ s => s) (fun _ _ _ _ => if_neg ended) (.stay has)

/-- The record is given up. -/
def depart (s : Scene) : Scene :=
  ({ s with wakelock := s.wakelock.release s.record.owner }).letGoSession

lemma finish_eq (s : Scene) : s.finish = (s.depart.wakelock, s.depart.journal) := rfl

lemma uniform_depart (has : p.Has r) : Uniform p (fun _ s => s.depart) r := by
  have released : Uniform p
      (fun _ s => { s with wakelock := s.wakelock.release s.record.owner }) r :=
    ⟨⟨r, [(r.owner, false)], []⟩, ⟨has, rfl, List.forall_mem_singleton.mpr rfl,
      fun _ no => (nomatch no)⟩,
      fun _ _ w j => congrArg (Scene.mk r (w.release r.owner)) (List.append_nil j).symm⟩
  exact released.andThen fun _ has => uniform_letGoSession has

end Scene

end AppLifecycle
