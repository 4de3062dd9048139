import AppLifecycle.Proofs.Registry.Attendance
import AppLifecycle.Proofs.Registry.Sessions

/-!
# Sessions that are woken to be closed

A session has to be awake to close, so that an application that is suspended, or about to be, is
resumed before its session is asked to. But while a session has suspended already and its process
has not yet, the application cannot be resumed, and its session is asked to close all the same
(`ClosesAsleep`).
-/

namespace AppLifecycle

/-- What is done to wake an application before its session is asked to close. -/
def Record.wakening (r : Record) (session : Session) : List Effect :=
  match r.state with
  | .suspendingWaitSession => [.ask session .resume]
  | .suspended => [.call (.resume r.id), .ask session .resume]
  | _ => []

/-- What an application's session has been told last once the application has been woken. -/
lemma Record.lastBid_wakening (r : Record) (session : Session) (journal : List Effect) :
    lastBid session.id (journal ++ r.wakening session) =
      if r.state = .suspendingWaitSession ∨ r.state = .suspended then some .resume
      else lastBid session.id journal := by
  unfold Record.wakening
  cases r.state <;> simp [lastBid, Effect.bid]

lemma Record.close_notMem_wakening (r : Record) (session : Session) :
    .ask session .close ∉ r.wakening session := by
  unfold Record.wakening
  cases r.state <;> simp

namespace Scene

variable {host : Host} {s : Scene} {session : Session}

lemma askSession_journal (action : SessionAction) (absent : Violation) (session : Session)
    (attached : s.record.session = some session) :
    (s.askSession action absent).journal = s.journal ++ [.ask session action] := by
  unfold askSession
  rw [attached]
  rfl

lemma resume_journal (host : Host) (attached : s.record.session = some session)
    (asleep : s.record.state.isAsleep = true) :
    (s.resume host).journal = s.journal ++ s.record.wakening session := by
  have entered : (s.enter host .running).record.session = some session :=
    (enter_session host .running s).trans attached
  unfold resume Record.wakening
  obtain state | state | state := Record.asleep_cases asleep <;> rw [state] <;> dsimp only
  · rw [enter_journal, List.append_nil]
  · rw [askSession_journal _ _ session entered, enter_journal]
  · refine (askSession_journal _ _ session ?_).trans ?_
    · exact entered
    · show (s.enter host .running).journal ++ [_] ++ [_] = _
      rw [enter_journal, List.append_assoc]
      rfl

/-- A request to run wakes an application that is not to run, unless its process is still to be
suspended. -/
lemma request_running_journal (host : Host) (awake : s.record.Awake)
    (attached : s.record.session = some session)
    (subdued : s.record.state.isAsleep = true ∨ s.record.state = .suspendingWaitProcess) :
    (s.request host .running).journal = s.journal ++ s.record.wakening session := by
  obtain asleep | waiting := subdued
  · have requested : s.record.requested ≠ .running := by
      rw [awake.requested asleep]
      decide
    have resumed := resume_journal (s := s.update fun r =>
      { r with requested := .running, passes := r.passes + 1 }) host attached asleep
    have asked : s.request host .running = (s.update fun r =>
        { r with requested := .running, passes := r.passes + 1 }).resume host := by
      unfold request
      rw [if_neg requested]
      unfold reconcile
      obtain state | state | state := Record.asleep_cases asleep <;> simp only [update, state]
    rw [asked]
    exact resumed
  · have told : s.record.wakening session = [] := by
      unfold Record.wakening
      rw [waiting]
    rw [told, List.append_nil]
    unfold request
    split
    · rfl
    · unfold reconcile
      simp only [update, waiting]

/-- An application with a session that is suspended, or about to be, is woken, and its session is
asked to close. -/
lemma close_journal (host : Host) (awake : s.record.Awake) (timed : s.record.Timed)
    (attached : s.record.session = some session)
    (subdued : s.record.state.isAsleep = true ∨ s.record.state = .suspendingWaitProcess) :
    (s.close host).record.state = .closing ∧
    (s.close host).journal = s.journal ++ (s.record.wakening session ++ [.ask session .close]) := by
  have idle : s.record.state ≠ .closing ∧ s.record.state ≠ .stoppedResumable := by
    constructor <;> intro same <;> rw [same] at subdued <;> simp [InternalState.isAsleep] at subdued
  have closed : s.close host = (s.request host .running).beginClose host := by
    unfold close
    obtain asleep | waiting := subdued
    · obtain state | state | state := Record.asleep_cases asleep <;> rw [state]
    · rw [waiting]
  have calm : Calm s (s.request host .running) := (Calm.refl timed).request fun _ => idle.2
  have unarmed := calm.timed.unarmed fun closing => idle.1 (calm.closing closing).1
  have stays := (request_session host .running s).trans attached
  have begun := beginClose_of_session host unarmed stays
  rw [closed, begun, enter_state, enter_journal]
  refine ⟨rfl, ?_⟩
  show (s.request host .running).journal ++ [.ask session .close] = _
  rw [request_running_journal host awake attached subdued, List.append_assoc]

end Scene

namespace Registry

variable {P : Host → Prop} {host : Host} {op : Operation} {reg : Registry} {r : Record}
variable {front back : List Record} {id : AppId} {session : Session}

/-- With an operation a session is asked to close that was told to suspend, and not to resume
since. -/
def ClosesAsleep (host : Host) (op : Operation) (reg : Registry) (session : Session) : Prop :=
  ∃ told later, reg.effectsOf host op = told ++ .ask session .close :: later ∧
    lastBid session.id (reg.journal ++ told) = some .suspend

lemma stop_journal (host : Host) (place : Located reg front r back) (hid : r.id = id.normalized) :
    (reg.perform host (.stop id)).2.journal = ((reg.scene r).close host).journal ++
      (if ((reg.scene r).close host).record.state = .stopped then
        ((reg.scene r).close host).record.session.toList else []).map fun x => .letGo x.id := by
  show (reg.stopApplication host id).2.journal = _
  rw [stopApplication_eq host place hid]
  exact settle_journal _ _ _ _ _

/-- An application is stopped without asking anything of the sessions of others. -/
lemma session_of_stop_asks (place : Located reg front r back) (hid : r.id = id.normalized)
    {action : SessionAction} (asked : .ask session action ∈ reg.effectsOf host (.stop id)) :
    r.session = some session := by
  have closes : Scene.Converses (reg.scene r) ((reg.scene r).close host) :=
    (Scene.Converses.refl _).close
  obtain ⟨effects, journal, within⟩ := closes.effects
  have after := stop_journal host place hid
  rw [journal, List.append_assoc] at after
  rw [effectsOf_eq after] at asked
  obtain own | no := List.mem_append.mp asked
  · exact within _ own
  · obtain ⟨_, -, no⟩ := List.mem_map.mp no
    cases no

/-- An application with a session that is suspended, or about to be, is stopped by waking it and
asking its session to close. -/
lemma stop_effects (h : Reachable P reg) (host : Host) (place : Located reg front r back)
    (hid : r.id = id.normalized) (attached : r.session = some session)
    (subdued : r.state.isAsleep = true ∨ r.state = .suspendingWaitProcess) :
    reg.effectsOf host (.stop id) = r.wakening session ++ [.ask session .close] := by
  obtain ⟨closing, journal⟩ := Scene.close_journal (s := reg.scene r) host (h.awake r place.mem)
    (h.timed r place.mem) attached subdued
  have after := stop_journal host place hid
  rw [closing, if_neg (by decide), List.map_nil, List.append_nil, journal] at after
  exact effectsOf_eq after

/-- The session of an application that is stopped while it is suspended, or about to be, is asleep
exactly if the application is not woken and the session was told to suspend last. -/
lemma closesAsleep_iff (h : Reachable P reg) (host : Host) (place : Located reg front r back)
    (hid : r.id = id.normalized) (subdued : r.state.isAsleep = true ∨
      r.state = .suspendingWaitProcess) :
    ClosesAsleep host (.stop id) reg session ↔ r.session = some session ∧
      (r.state = .runningInBackground ∨ r.state = .suspendingWaitProcess) ∧
      lastBid session.id reg.journal = some .suspend := by
  have woken : (r.state = .suspendingWaitSession ∨ r.state = .suspended) ↔
      ¬(r.state = .runningInBackground ∨ r.state = .suspendingWaitProcess) := by
    cases state : r.state <;> simp_all [InternalState.isAsleep]
  have told := r.lastBid_wakening session reg.journal
  constructor
  · rintro ⟨before, later, effects, asleep⟩
    have attached : r.session = some session := session_of_stop_asks place hid (by
      rw [effects]
      exact List.mem_append_right _ List.mem_cons_self)
    rw [stop_effects h host place hid attached subdued] at effects
    -- the session is asked to close once, after all that is done to wake it
    obtain ⟨same, -⟩ := (List.append_cons_inj_of_notMem (r.close_notMem_wakening session)
      List.not_mem_nil).mp effects
    rw [← same, told] at asleep
    split at asleep
    · cases asleep
    · rename_i unwoken
      exact ⟨attached, Decidable.not_not.mp (mt woken.mpr unwoken), asleep⟩
  · rintro ⟨attached, unwoken, asleep⟩
    refine ⟨_, [], stop_effects h host place hid attached subdued, ?_⟩
    rw [told, if_neg fun no => woken.mp no unwoken]
    exact asleep

/-- In a run, where an application is stopped that is suspended, or about to be, its session is
asked to close, after what is done to wake it, and no other one is. It is asleep then only if the
application is running in the background, or is waiting for its process to be suspended; and where
the sessions that are opened have distinct ids, exactly in the latter case. -/
theorem close_asleep_iff (lifecycle : LifecyclePolicy) (authorization : AuthorizationPolicy)
    (ops : List (Host × Operation)) (host : Host) (id : AppId) (r : Record)
    (found : (after lifecycle authorization ops).find id = some r)
    (subdued : r.state.isAsleep = true ∨ r.state = .suspendingWaitProcess) :
    (∀ session, .ask session .close ∈
        (after lifecycle authorization ops).effectsOf host (.stop id) ↔
      r.session = some session) ∧
    (∀ session, r.session = some session →
      (after lifecycle authorization ops).effectsOf host (.stop id) =
        r.wakening session ++ [.ask session .close]) ∧
    (∀ session, ClosesAsleep host (.stop id) (after lifecycle authorization ops) session ↔
      r.session = some session ∧
        (r.state = .runningInBackground ∨ r.state = .suspendingWaitProcess) ∧
        lastBid session.id (after lifecycle authorization ops).journal = some .suspend) ∧
    (((announced ops).map Session.id).Nodup → ∀ session,
      ClosesAsleep host (.stop id) (after lifecycle authorization ops) session ↔
        r.session = some session ∧ r.state = .suspendingWaitProcess) := by
  have reachable := after_reachable lifecycle authorization ops
  obtain ⟨front, back, place, hid⟩ := exists_located_of_find found
  have asleep : ∀ session,
      ClosesAsleep host (.stop id) (after lifecycle authorization ops) session ↔
        r.session = some session ∧
          (r.state = .runningInBackground ∨ r.state = .suspendingWaitProcess) ∧
          lastBid session.id (after lifecycle authorization ops).journal = some .suspend :=
    fun _ => closesAsleep_iff reachable host place hid subdued
  have effects := fun session (attached : r.session = some session) =>
    stop_effects reachable host place hid attached subdued
  refine ⟨fun session => ⟨session_of_stop_asks place hid, fun attached => ?_⟩, effects, asleep,
    fun distinct session => ?_⟩
  · rw [effects session attached]
    exact List.mem_append_right _ List.mem_cons_self
  · -- each session has been told what suits the state of its record
    have tuned : r.session = some session →
        r.state.Suits (lastBid session.id (after lifecycle authorization ops).journal) :=
      after_inTune lifecycle authorization distinct r place.mem session
    rw [asleep]
    constructor
    · rintro ⟨attached, background | waiting, told⟩
      · have suits := tuned attached
        rw [background] at suits
        exact absurd told suits
      · exact ⟨attached, waiting⟩
    · rintro ⟨attached, waiting⟩
      have suits := tuned attached
      rw [waiting] at suits
      exact ⟨attached, .inr waiting, suits⟩

/-- The clock is to be suspended, and its session has suspended. -/
def dozing : List (Host × Operation) :=
  [.start ⟨"clock"⟩ [], .process (.starting ⟨"clock"⟩), .authorize 7,
    .sessionStarting windowOfClock, .sessionState windowOfClock.id .running, .suspend ⟨"clock"⟩,
    .sessionState windowOfClock.id .suspended].map (Prod.mk .willing)

/-- Before its session has suspended, the clock is stopped by waking the session first. -/
theorem clock_woken_to_close :
    ((announced dozing.dropLast).map Session.id).Nodup ∧
    ∃ r, (after .standard .standard dozing.dropLast).find ⟨"clock"⟩ = some r ∧
      r.state.isAsleep = true ∧ r.session = some windowOfClock ∧
      (after .standard .standard dozing.dropLast).effectsOf .willing (.stop ⟨"clock"⟩) =
        r.wakening windowOfClock ++ [.ask windowOfClock .close] ∧
      ¬ClosesAsleep .willing (.stop ⟨"clock"⟩) (after .standard .standard dozing.dropLast)
        windowOfClock := by
  have distinct : ((announced dozing.dropLast).map Session.id).Nodup := by decide
  have clock : ∃ r, (after .standard .standard dozing.dropLast).find ⟨"clock"⟩ = some r ∧
      r.state = .suspendingWaitSession ∧ r.session = some windowOfClock :=
    ⟨_, rfl, by decide, by decide⟩
  obtain ⟨r, found, state, attached⟩ := clock
  have asleep : r.state.isAsleep = true := by
    rw [state]
    rfl
  obtain ⟨-, effects, -, iff⟩ := close_asleep_iff .standard .standard dozing.dropLast .willing
    ⟨"clock"⟩ r found (.inl asleep)
  refine ⟨distinct, r, found, asleep, attached, effects _ attached, fun closes => ?_⟩
  have waiting := ((iff distinct windowOfClock).mp closes).2
  rw [state] at waiting
  cases waiting

/-- Afterwards the clock is stopped by asking its session to close, which was told to suspend
last. -/
theorem clock_closed_asleep :
    Reachable Host.Faithful (after .standard .standard dozing) ∧
    ((after .standard .standard dozing).entries.map fun r => (r.state, r.session)) =
      [(.suspendingWaitProcess, some windowOfClock)] ∧
    (after .standard .standard dozing).effectsOf .willing (.stop ⟨"clock"⟩) =
      [.ask windowOfClock .close] ∧
    lastBid windowOfClock.id (after .standard .standard dozing).journal = some .suspend ∧
    ClosesAsleep .willing (.stop ⟨"clock"⟩) (after .standard .standard dozing) windowOfClock := by
  have effects : (after .standard .standard dozing).effectsOf .willing (.stop ⟨"clock"⟩) =
      [.ask windowOfClock .close] := by decide
  have told : lastBid windowOfClock.id (after .standard .standard dozing).journal =
      some .suspend := by decide
  refine ⟨willing_reachable _, by decide, effects, told, [], [], effects, ?_⟩
  rw [List.append_nil]
  exact told

end Registry

end AppLifecycle
