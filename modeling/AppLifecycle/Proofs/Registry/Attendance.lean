import AppLifecycle.Proofs.Registry.Orders
import AppLifecycle.Proofs.Scene.Attendance

/-!
# Applications and their sessions

An application that runs, is being suspended or is closing should have a session. It does, unless it
was resumed without one: `SkipsSession` names the operations that do so, and the record that they do
it to. Such an application runs, but cannot be closed.
-/

namespace AppLifecycle

/-- The operation may take a record into a state that needs a session, or report one that runs. -/
def Operation.mayWake : Operation → Bool
  | .stop _ => true
  | .resume _ => true
  | .process (.suspended _) => true
  | .process (.resumeRequested _) => true
  | .sessionState _ _ => true
  | _ => false

namespace Registry

variable {P : Host → Prop} {host : Host} {op : Operation} {reg reg' : Registry}
variable {front back : List Record} {r q : Record} {s : Scene} {f : Scene → Scene} {id : AppId}

/-- Every record that is in session has a session. -/
def Attended (reg : Registry) : Prop := ∀ r ∈ reg.entries, r.Attended

instance (reg : Registry) : Decidable reg.Attended :=
  inferInstanceAs (Decidable (∀ r ∈ reg.entries, r.Attended))

/-- The operation resumes an application that has no session: one that is suspended, as its process
was before it had opened one; one whose process is suspended while it should run; or one that has
another record's session. -/
def SkipsSession (reg : Registry) : Operation → Prop
  | .stop id => ∃ r, reg.find id = some r ∧ r.session = none ∧ r.state = .suspended
  | .resume id => reg.lifecycle.isExempt id.normalized = false ∧
      ∃ r, reg.find id = some r ∧ r.session = none ∧ r.state = .suspended
  | .process (.resumeRequested id) =>
      ∃ r, reg.find id = some r ∧ r.session = none ∧ r.state = .suspended
  | .process (.suspended id) =>
      ∃ r, reg.find id = some r ∧ r.session = none ∧ r.requested = .running ∧
        r.process ≠ .suspended
  | .sessionState session state =>
      state = .running ∧ ∃ r, reg.attached session = some r ∧ r.session = none ∧
        r.state = .starting
  | _ => False

/-! ## Operations that cannot resume an application -/

lemma Treatment.attended (h : Treatment host reg op r f) (untimed : ∀ now, op ≠ .tick now)
    (asleep : op.mayWake = false) (hs : s.record = r) (attended : r.Attended) (awake : r.Awake) :
    (f s).record.Attended := by
  subst hs
  cases h with
  | suspend _ _ =>
    refine (Scene.attended_iff_of_idle (p := False) attended (Scene.request_session host _ s)
      fun idle => ?_).mpr fun both => both.2
    rw [Scene.request_idle host _ idle]
    simp
  | setExempt exempt _ =>
    exact Scene.attended_of_standing attended (s.setExempt_standing host exempt)
  | setStage stage _ => exact Scene.attended_of_standing attended (s.setStage_standing stage)
  | updateScreenshot _ => exact attended
  | tick now => exact absurd rfl (untimed now)
  | started _ _ => exact Scene.onProcess_attended host attended awake (by decide)
  | failed _ _ =>
    have failed : (s.onProcess host .failed).record.Attended :=
      Scene.onProcess_attended host attended awake (by decide)
    exact failed
  | ended _ _ => exact Scene.onProcess_attended host attended awake (by decide)
  | attach session _ _ _ _ => exact Scene.attended_of_session (s.attach_standing session).2.2.1
  | reported _ state hop _ _ _ =>
    obtain rfl | ⟨rfl, rfl⟩ := hop
    · cases asleep
    · exact (Scene.hear_attended_iff host .stopped attended).mpr fun all => by cases all.1
  | _ => cases asleep

lemma Fate.attended (h : Fate host op reg r q) (asleep : op.mayWake = false)
    (attended : r.Attended) (awake : r.Awake) : q.Attended := by
  cases h with
  | kept _ => exact attended
  | bound _ _ _ => exact attended
  | ticked _ _ _ _ => exact attended
  | treated untimed _ treatment hs _ =>
    exact treatment.attended untimed asleep hs attended awake

lemma perform_attended (host : Host) (asleep : op.mayWake = false)
    (awake : ∀ r ∈ reg.entries, r.Awake) (h : reg.Attended) :
    (reg.perform host op).2.Attended := by
  intro q hq
  obtain ⟨r, hr, fate⟩ | born := perform_origin host op hq
  · exact fate.attended asleep (h r hr) (awake r hr)
  · intro active
    rw [born.state] at active
    cases active

/-! ## Operations that may -/

/-- Where all records are attended, it is the record at hand that matters. -/
lemma attended_settle (h : reg.Attended) (entries : reg.entries = front ++ r :: back) :
    (reg.settle front r back s).Attended ↔ s.record.Attended := by
  refine forall_settle h entries fun stopped active => ?_
  rw [stopped] at active
  cases active

/-- What `f` does to the record of an application leaves all records attended, unless it takes this
one out of line. -/
lemma attended_onRecord (h : reg.Attended) {skips : Record → Prop}
    (hf : ∀ r ∈ reg.entries, (f (reg.scene r)).record.Attended ↔ ¬skips r) :
    (reg.onRecord id.normalized f).2.Attended ↔ ¬∃ r, reg.find id = some r ∧ skips r := by
  obtain ⟨untracked, same⟩ | ⟨front, r, back, place, found, changed⟩ := onRecord_find id f reg
  · rw [same, untracked]
    exact iff_of_true h fun ⟨_, found, _⟩ => Option.some_ne_none _ found.symm
  · rw [changed, attended_settle h place.entries, hf r place.mem, found]
    simp

/-- An operation leaves all records attended exactly if it does not resume one without a session. -/
theorem perform_attended_iff (host : Host) (op : Operation)
    (awake : ∀ r ∈ reg.entries, r.Awake) (h : reg.Attended) :
    (reg.perform host op).2.Attended ↔ ¬reg.SkipsSession op := by
  have resumed : ∀ r ∈ reg.entries, ((reg.scene r).request host .running).record.Attended ↔
      ¬(r.session = none ∧ r.state = .suspended) :=
    fun r hr => Scene.request_attended_iff (s := reg.scene r) host (h r hr) (awake r hr)
  cases op with
  | stop id =>
    show (orNotFound _ _).2.Attended ↔ _
    rw [orNotFound_snd]
    exact attended_onRecord h fun r hr =>
      Scene.close_attended_iff (s := reg.scene r) host (h r hr) (awake r hr)
  | resume id =>
    show (reg.requestState host .running id).2.Attended ↔ _
    cases exempt : reg.lifecycle.isExempt id.normalized with
    | true =>
      rw [requestState_exempt host _ exempt]
      refine iff_of_true h fun skips => ?_
      exact Bool.false_ne_true (skips.1.symm.trans exempt)
    | false =>
      rw [requestState_snd _ exempt, attended_onRecord h resumed]
      exact not_congr (and_iff_right exempt).symm
  | process event =>
    cases event with
    | suspended id =>
      exact attended_onRecord h fun r hr =>
        Scene.onProcess_suspended_attended_iff (s := reg.scene r) host (h r hr)
    | resumeRequested id =>
      show (reg.onResumeRequested host id).Attended ↔ _
      obtain ⟨_, _, _, asked⟩ | ⟨nobody, same⟩ := onResumeRequested_eq host id reg
      · rw [asked]
        exact attended_onRecord h resumed
      · rw [same]
        exact iff_of_true h fun ⟨r, found, _, suspended⟩ => nobody r found suspended
    | _ => exact iff_of_true (perform_attended host rfl awake h) id
  | sessionState session state =>
    show (reg.sessionStateChanged host session state).Attended ↔ _
    obtain ⟨nobody, same⟩ | ⟨front, r, back, place, somebody, changed⟩ :=
      sessionStateChanged_eq host reg session state
    · rw [same]
      refine iff_of_true h ?_
      rintro ⟨-, r, found, -⟩
      rw [nobody] at found
      cases found
    · rw [changed, attended_settle h place.entries,
        Scene.hear_attended_iff (s := reg.scene r) host state (h r place.mem)]
      show _ ↔ ¬(state = .running ∧ ∃ c, reg.attached session = some c ∧ _)
      rw [somebody]
      simp [scene]
  | _ => exact iff_of_true (perform_attended host rfl awake h) id

/-! ## Closing an application that runs -/

lemma stopApplication_eq (host : Host) (place : Located reg front r back)
    (hid : r.id = id.normalized) :
    reg.stopApplication host id =
      (.ok (), reg.settle front r back ((reg.scene r).close host)) := by
  unfold stopApplication
  dsimp only
  rw [← hid, onRecord_eq place]
  rfl

/-- With a session, a running application begins to close; without one, it runs on. -/
lemma stopApplication_running (h : Reachable P reg) (host : Host) (found : reg.find id = some r)
    (running : r.state = .running) :
    (reg.stopApplication host id).1 = .ok () ∧
    (∀ session, r.session = some session →
      (∃ q ∈ (reg.stopApplication host id).2.entries,
        q.owner = r.owner ∧ q.state = .closing ∧ q.timer.isArmed = true) ∧
      (reg.stopApplication host id).2.journal = reg.journal ++ [.ask session .close]) ∧
    (r.session = none →
      (∃ q ∈ (reg.stopApplication host id).2.entries, q.owner = r.owner ∧ q.state = .running) ∧
      (reg.stopApplication host id).2.journal =
        reg.journal ++ [.report (.violated .closeWithoutSession)]) := by
  obtain ⟨front, back, place, hid⟩ := exists_located_of_find found
  have idle : r.state ≠ .closing := by
    rw [running]
    decide
  have unarmed := (h.timed r place.mem).unarmed idle
  have closed : (reg.scene r).close host = (reg.scene r).beginClose host := by
    unfold Scene.close
    rw [show (reg.scene r).record.state = .running from running]
  have moves : Scene.Moves host (reg.scene r) ((reg.scene r).beginClose host) :=
    (Scene.Moves.refl _).beginClose
  have owner : ((reg.scene r).beginClose host).record.owner = r.owner := moves.sameIdentity.owner
  rw [stopApplication_eq host place hid, closed]
  refine ⟨rfl, fun session attached => ?_, fun alone => ?_⟩
  · have begun := Scene.beginClose_of_session (s := reg.scene r) host unarmed attached
    have state : ((reg.scene r).beginClose host).record.state = .closing := by
      rw [begun]
      exact Scene.enter_state _ _ _
    have goesOn : ((reg.scene r).beginClose host).record.state ≠ .stopped := by
      rw [state]
      decide
    refine ⟨⟨_, mem_settle_self goesOn, owner, state, ?_⟩, ?_⟩
    · rw [begun, Scene.enter_timer, if_neg fun both => both.2 rfl]
      rfl
    · unfold settle
      rw [if_neg goesOn, begun]
      exact Scene.enter_journal _ _ _
  · have refused := Scene.beginClose_of_none (s := reg.scene r) host unarmed alone
    have state : ((reg.scene r).beginClose host).record.state = .running := by
      rw [refused]
      exact running
    have goesOn : ((reg.scene r).beginClose host).record.state ≠ .stopped := by
      rw [state]
      decide
    refine ⟨⟨_, mem_settle_self goesOn, owner, state⟩, ?_⟩
    unfold settle
    rw [if_neg goesOn, refused]
    rfl

/-! ## What it comes to -/

/-- Where ids are distinct, the record that a report of a session is for has the session. -/
lemma attached_session (orderly : Orderly reg) {session : SessionId}
    (hr : reg.attached session = some r) : r.session.map Session.id = some session := by
  obtain ⟨id, hid, found⟩ := Option.bind_eq_some_iff.mp hr
  obtain ⟨q, hq, rfl⟩ := Option.map_eq_some_iff.mp hid
  have named := List.find?_some found
  have same : r.id = q.id := of_decide_eq_true named
  obtain rfl : r = q := List.inj_on_of_nodup_map orderly.distinct
    (List.mem_of_find?_eq_some found) (List.mem_of_find?_eq_some hq) same
  have owns := List.find?_some hq
  exact of_decide_eq_true owns

/-- Along a run, every record that is in session has a session at all times, exactly if no operation
resumes one without. With faithful descriptors no report of a session does, so that it takes the
suspension of a process that had opened none. An application that runs begins to close when it is
stopped if it has a session; if it has none, that is a violation, and it runs on. -/
theorem attended_iff (lifecycle : LifecyclePolicy) (authorization : AuthorizationPolicy)
    (ops : List (Host × Operation)) :
    ((∀ run, run <+: ops → (after lifecycle authorization run).Attended) ↔
      ∀ run host op, run ++ [(host, op)] <+: ops →
        ¬(after lifecycle authorization run).SkipsSession op) ∧
    ((∀ x ∈ ops, x.1.Faithful) → ∀ session state,
      ¬(after lifecycle authorization ops).SkipsSession (.sessionState session state)) ∧
    ∀ (reg : Registry) host id r, reg = after lifecycle authorization ops →
      reg.find id = some r → r.state = .running →
      (reg.stopApplication host id).1 = .ok () ∧
      (∀ session, r.session = some session →
        (∃ q ∈ (reg.stopApplication host id).2.entries,
          q.owner = r.owner ∧ q.state = .closing ∧ q.timer.isArmed = true) ∧
        (reg.stopApplication host id).2.journal = reg.journal ++ [.ask session .close]) ∧
      (r.session = none →
        (∃ q ∈ (reg.stopApplication host id).2.entries, q.owner = r.owner ∧ q.state = .running) ∧
        (reg.stopApplication host id).2.journal =
          reg.journal ++ [.report (.violated .closeWithoutSession)]) := by
  have reachable : ∀ run, Reachable (fun _ => True) (after lifecycle authorization run) :=
    after_reachable lifecycle authorization
  refine ⟨⟨fun attended run host op hrun => ?_, fun kept run => ?_⟩,
    fun faithful session state => ?_, fun reg host id r hreg found running => ?_⟩
  · have before := attended run ((List.prefix_append _ _).trans hrun)
    have next := attended _ hrun
    rw [after_concat] at next
    exact (perform_attended_iff host op (reachable run).awake before).mp next
  -- operation by operation, from the empty registry on
  · induction run using List.reverseRecOn with
    | nil => exact fun _ _ hr => absurd hr List.not_mem_nil
    | append_singleton run x ih =>
      intro hrun
      have before := ih ((List.prefix_append _ _).trans hrun)
      rw [after_concat]
      exact (perform_attended_iff x.1 x.2 (reachable run).awake before).mpr (kept run x.1 x.2 hrun)
  · rintro ⟨-, r, attached, alone, -⟩
    have orderly := ((Reachable.empty lifecycle authorization).performAll faithful).orderly
    have own := attached_session orderly attached
    rw [alone] at own
    cases own
  · rw [hreg] at found ⊢
    exact stopApplication_running (reachable ops) host found running

/-- The clock has its session while it runs, and closes. -/
theorem attended_on_errand :
    (∀ run, run <+: errand → (after .standard .standard run).Attended) ∧
    (∀ run host op, run ++ [(host, op)] <+: errand →
      ¬(after .standard .standard run).SkipsSession op) ∧
    (∀ x ∈ errand, x.1.Faithful) ∧
    (∀ session state, ¬afterErrand.SkipsSession (.sessionState session state)) ∧
    ∃ r, (after .standard .standard errand.dropLast).find ⟨"clock"⟩ = some r ∧
      r.session = some windowOfClock ∧
      ∃ q ∈ ((after .standard .standard errand.dropLast).stopApplication .willing
          ⟨"clock"⟩).2.entries,
        q.owner = r.owner ∧ q.state = .closing ∧ q.timer.isArmed = true := by
  have attended : ∀ run ∈ errand.inits, (after .standard .standard run).Attended := by decide
  have kept : ∀ run, run <+: errand → (after .standard .standard run).Attended :=
    fun run hrun => attended run ((List.mem_inits run errand).mpr hrun)
  have faithful : ∀ x ∈ errand, x.1.Faithful := by
    intro x hx
    obtain ⟨op, -, rfl⟩ := List.mem_map.mp hx
    exact Host.willing_faithful
  obtain ⟨iff, fromSession, -⟩ := attended_iff .standard .standard errand
  -- before it is to be suspended, the clock runs
  obtain ⟨-, -, closes⟩ := attended_iff .standard .standard errand.dropLast
  have clock : ∃ r, (after .standard .standard errand.dropLast).find ⟨"clock"⟩ = some r ∧
      r.state = .running ∧ r.session = some windowOfClock := ⟨_, rfl, by decide, by decide⟩
  obtain ⟨r, found, running, session⟩ := clock
  have closed := (closes _ .willing ⟨"clock"⟩ r rfl found running).2.1 windowOfClock session
  exact ⟨kept, iff.mp kept, faithful, fromSession faithful, r, found, session, closed.1⟩

/-- The process of the clock is suspended while the clock is starting. -/
def nap : List (Host × Operation) :=
  [.start ⟨"clock"⟩ [], .process (.starting ⟨"clock"⟩), .process (.suspended ⟨"clock"⟩)].map
    (Prod.mk .willing)

/-- After the nap the clock runs without a session, and cannot be closed. -/
theorem clock_runs_without_session :
    Reachable Host.Faithful (after .standard .standard nap) ∧
    ¬(after .standard .standard nap).Attended ∧
    ((after .standard .standard nap).entries.map fun r => (r.state, r.session)) =
      [(.running, none)] ∧
    ((after .standard .standard nap).stopApplication .willing ⟨"clock"⟩).2.journal =
      (after .standard .standard nap).journal ++ [.report (.violated .closeWithoutSession)] ∧
    (((after .standard .standard nap).stopApplication .willing ⟨"clock"⟩).2.entries.map
      Record.state) = [.running] := by
  refine ⟨(Reachable.empty .standard .standard).performAll fun x hx => ?_, by decide, by decide,
    by decide, by decide⟩
  obtain ⟨op, -, rfl⟩ := List.mem_map.mp hx
  exact Host.willing_faithful

end Registry

end AppLifecycle
