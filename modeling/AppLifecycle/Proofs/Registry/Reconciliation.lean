import AppLifecycle.Proofs.Registry.Orderly
import AppLifecycle.Proofs.Registry.WakelockShares
import AppLifecycle.Proofs.Scene.Reconciliation

/-!
# Requests in a registry

What is requested of an application is not lost: every operation leaves the records in line with
what is requested of them, with two exceptions that `Strands` names. The first one leaves an
application that is to run stopped, and no request can launch it again, since a request for what is
requested already does nothing.
-/

namespace AppLifecycle

/-- The operation comes from a session. -/
def Operation.ofSession : Operation → Bool
  | .sessionStarting _ => true
  | .sessionState _ _ => true
  | .sessionClosed _ => true
  | _ => false

namespace Registry

variable {P : Host → Prop} {host : Host} {op : Operation} {reg reg' : Registry}
variable {front back : List Record} {r q : Record} {s : Scene} {f : Scene → Scene} {id : AppId}

/-- Every record is in line with what is requested of it. -/
def Reconciled (reg : Registry) : Prop := ∀ r ∈ reg.entries, r.Reconciled

instance (reg : Registry) : Decidable reg.Reconciled :=
  inferInstanceAs (Decidable (∀ r ∈ reg.entries, r.Reconciled))

/-- Before it is added, nothing is done outside the registry for a new record. -/
lemma newcomer_journal {descriptor : Descriptor} {arguments : List String} {exempt : Bool}
    (introduction : Introduction op f) :
    (reg.newcomer host descriptor arguments exempt f).journal = reg.journal := by
  have begun : ∀ record, (Scene.begin host record reg.wakelock reg.journal).journal = reg.journal :=
    fun record => Scene.syncWakelock_journal host _
  cases introduction with
  | launched _ => exact begun _
  | identified pid side =>
    unfold newcomer Scene.identify Scene.setStage
    dsimp only
    split
    · split <;> exact begun _
    · exact begun _

/-! ## Operations that do not come from sessions -/

lemma Treatment.inLine (h : Treatment host reg op r f) (hop : op.ofSession = false) (s : Scene) :
    s.InLine (f s) := by
  cases h with
  | close _ => exact Scene.inLine_close
  | suspend _ _ => exact Scene.inLine_request _
  | resume _ _ => exact Scene.inLine_request _
  | resumeRequested _ _ => exact Scene.inLine_request _
  | setExempt exempt _ => exact Scene.inLine_setExempt exempt
  | setStage stage _ => exact Scene.inLine_setStage stage
  | updateScreenshot _ => exact Scene.inLine_updateScreenshot
  | tick now => exact Scene.inLine_tick now
  | started _ _ => exact Scene.inLine_onProcess _
  | failed _ _ => exact (Scene.inLine_onProcess _).trans (Scene.inLine_setPid 0)
  | ended _ _ => exact Scene.inLine_onProcess _
  | suspended _ => exact Scene.inLine_onProcess _
  | attach session _ _ _ _ => cases hop
  | reported _ _ from_session _ _ _ =>
    obtain rfl | ⟨rfl, -⟩ := from_session <;> cases hop

lemma Step.reconciled (hop : op.ofSession = false) (step : Step host op reg reg')
    (h : reg.Reconciled) : reg'.Reconciled := by
  refine step.forall_entries ?_ ?_ ?_ ?_ h
  · exact fun _ _ reconciled => reconciled.of_standing rfl
  · exact fun _ _ _ reconciled => reconciled.of_standing rfl
  · intro id descriptor arguments exempt f _ introduction
    obtain ⟨pid, stage, record⟩ := introduction.newcomer host reg descriptor arguments exempt
    rw [record]
    exact .of_state (.inl rfl)
  · exact fun r f _ treatment reconciled _ =>
      (treatment.inLine hop (reg.scene r)).reconciled reconciled

/-! ## No record is asleep that should run -/

lemma Treatment.awake (h : Treatment host reg op r f) (s : Scene) (awake : s.record.Awake) :
    (f s).record.Awake := by
  cases hop : op.ofSession with
  | false => exact (h.inLine hop s).awake awake
  | true =>
    cases h with
    | attach session _ _ _ _ =>
      obtain ⟨requested, state, -, -⟩ := s.attach_standing session
      unfold Record.Awake
      rw [requested, state]
      exact awake
    | reported _ state _ _ _ _ =>
      by_cases stopped : state = .stopped
      · rw [stopped]
        exact s.hear_stopped_awake host
      · exact (Scene.inLine_hear stopped).awake awake
    | _ => cases hop

/-- In every reachable registry, a record that should run is not in the middle of a suspension that
could be taken back. -/
theorem Reachable.awake (h : Reachable P reg) : ∀ r ∈ reg.entries, r.Awake := by
  refine h.invariant (I := fun reg => ∀ r ∈ reg.entries, r.Awake)
    (fun _ _ _ hr => absurd hr List.not_mem_nil) ?_ fun _ _ _ h => h
  intro host op reg reg' _ step
  refine step.forall_entries ?_ ?_ ?_ ?_
  · exact fun _ _ awake => awake
  · exact fun _ _ _ awake => awake
  · intro id descriptor arguments exempt f _ introduction
    obtain ⟨pid, stage, record⟩ := introduction.newcomer host reg descriptor arguments exempt
    rw [record]
    exact fun _ => ⟨InternalState.noConfusion, InternalState.noConfusion, InternalState.noConfusion⟩
  · exact fun r f _ treatment awake _ => treatment.awake (reg.scene r) awake

/-! ## Operations that come from sessions -/

/-- The record that a report of an open session is for. -/
def attached (reg : Registry) (session : SessionId) : Option Record :=
  (reg.idForSession session).bind fun id => reg.entries.find? (·.id = id)

/-- The record that a new session is for. -/
def expecting (reg : Registry) (session : Session) : Option Record :=
  (reg.entries.find? fun r => r.pid = session.pid && r.state.shown ≠ .running).bind fun q =>
    reg.entries.find? (·.id = q.id)

/-- The operation leaves a record that is not in line with what is requested of it: the session of
a stuck record ends, or a session is opened for a record that waits for one to be suspended. -/
def Strands (reg : Registry) : Operation → Prop
  | .sessionState session state =>
    state = .stopped ∧ ∃ r, reg.attached session = some r ∧ r.Stuck
  | .sessionClosed session => ∃ r, reg.attached session = some r ∧ r.Stuck
  | .sessionStarting session => ∃ r, reg.expecting session = some r ∧ r.AwaitsSession
  | _ => False

/-- A report of a session changes the record that it is for, or nothing. -/
lemma sessionStateChanged_eq (host : Host) (reg : Registry) (session : SessionId)
    (state : SessionState) :
    reg.attached session = none ∧ reg.sessionStateChanged host session state = reg ∨
    ∃ front r back, Located reg front r back ∧ reg.attached session = some r ∧
      reg.sessionStateChanged host session state =
        reg.settle front r back ((reg.scene r).hear host state) := by
  unfold sessionStateChanged attached idForSession
  cases hfind : reg.entries.find? fun r => r.session.map Session.id = some session with
  | none => exact .inl ⟨rfl, rfl⟩
  | some q =>
    obtain ⟨front, r, back, place, hid⟩ := exists_located_of_mem (List.mem_of_find?_eq_some hfind)
    refine .inr ⟨front, r, back, place, ?_, ?_⟩
    · rw [Option.map_some, Option.bind_some, ← hid]
      exact place.find?
    · rw [Option.map_some, ← hid]
      dsimp only
      rw [onRecord_eq place]
      rfl

lemma sessionStarting_eq (reg : Registry) (session : Session) :
    reg.expecting session = none ∧ (reg.sessionStarting session).2.entries = reg.entries ∨
    ∃ front r back, Located reg front r back ∧ reg.expecting session = some r ∧
      (reg.sessionStarting session).2 = reg.settle front r back ((reg.scene r).attach session) := by
  unfold sessionStarting expecting
  cases hfind : reg.entries.find? fun r => r.pid = session.pid && r.state.shown ≠ .running with
  | none =>
    refine .inl ⟨rfl, ?_⟩
    dsimp only
    split <;> rfl
  | some q =>
    obtain ⟨front, r, back, place, hid⟩ := exists_located_of_mem (List.mem_of_find?_eq_some hfind)
    refine .inr ⟨front, r, back, place, ?_, ?_⟩
    · rw [Option.bind_some, ← hid]
      exact place.find?
    · dsimp only
      rw [← hid, onRecord_eq place]

/-- Where all records are in line, it is the record at hand that matters. -/
lemma reconciled_settle (h : reg.Reconciled) (entries : reg.entries = front ++ r :: back) :
    (reg.settle front r back s).Reconciled ↔ s.record.Reconciled :=
  forall_settle h entries fun stopped => .of_state (.inr (.inr (.inr stopped)))

lemma sessionEnded_reconciled_iff (host : Host) (session : SessionId)
    (tracked : ∀ r ∈ reg.entries, r.state ≠ .stopped) (h : reg.Reconciled) :
    (reg.sessionStateChanged host session .stopped).Reconciled ↔
      ¬∃ r, reg.attached session = some r ∧ r.Stuck := by
  obtain ⟨nobody, same⟩ | ⟨front, r, back, place, somebody, changed⟩ :=
    sessionStateChanged_eq host reg session .stopped
  · rw [same, nobody]
    exact iff_of_true h fun ⟨_, found, _⟩ => Option.some_ne_none _ found.symm
  · rw [changed, reconciled_settle h place.entries,
      Scene.hear_stopped_reconciled_iff (s := reg.scene r) (h r place.mem) (tracked r place.mem),
      somebody]
    simp only [Option.some.injEq, exists_eq_left', scene]

lemma sessionGoesOn_reconciled (host : Host) (session : SessionId) {state : SessionState}
    (goesOn : state ≠ .stopped) (h : reg.Reconciled) :
    (reg.sessionStateChanged host session state).Reconciled := by
  obtain ⟨-, same⟩ | ⟨front, r, back, place, -, changed⟩ :=
    sessionStateChanged_eq host reg session state
  · rw [same]
    exact h
  · rw [changed, reconciled_settle h place.entries]
    exact (Scene.inLine_hear goesOn).reconciled (h r place.mem)

lemma sessionStarting_reconciled_iff (session : Session) (h : reg.Reconciled) :
    (reg.sessionStarting session).2.Reconciled ↔
      ¬∃ r, reg.expecting session = some r ∧ r.AwaitsSession := by
  obtain ⟨nobody, same⟩ | ⟨front, r, back, place, somebody, changed⟩ :=
    sessionStarting_eq reg session
  · unfold Reconciled
    rw [same, nobody]
    exact iff_of_true h fun ⟨_, found, _⟩ => Option.some_ne_none _ found.symm
  · rw [changed, reconciled_settle h place.entries,
      Scene.attach_reconciled_iff (s := reg.scene r) (h r place.mem), somebody]
    simp only [Option.some.injEq, exists_eq_left', scene]

/-- An operation leaves all records in line, exactly if it does not strand one. -/
theorem perform_reconciled_iff (host : Host) (op : Operation)
    (tracked : ∀ r ∈ reg.entries, r.state ≠ .stopped) (h : reg.Reconciled) :
    (reg.perform host op).2.Reconciled ↔ ¬reg.Strands op := by
  cases op with
  | sessionStarting session => exact sessionStarting_reconciled_iff session h
  | sessionState session state =>
    by_cases stopped : state = .stopped
    · subst stopped
      have strands : reg.Strands (.sessionState session .stopped) ↔
          ∃ r, reg.attached session = some r ∧ r.Stuck := and_iff_right rfl
      rw [strands]
      exact sessionEnded_reconciled_iff host session tracked h
    · refine iff_of_true ?_ fun strands => stopped strands.1
      exact sessionGoesOn_reconciled host session stopped h
  | sessionClosed session => exact sessionEnded_reconciled_iff host session tracked h
  -- what does not come from a session keeps the records in line step by step
  | _ =>
    refine iff_of_true ?_ id
    exact Steps.invariant (fun _ _ step => step.reconciled rfl) (perform_steps host _ reg) h

/-! ## What a request for an application to run does -/

lemma requestState_eq (state : RequestedState) (place : Located reg front r back)
    (hid : r.id = id.normalized) (subject : reg.lifecycle.isExempt id.normalized = false) :
    reg.requestState host state id =
      (true, reg.settle front r back ((reg.scene r).request host state)) := by
  have tracked : (reg.indexOf id.normalized).isNone = false := by
    rw [← hid, place.indexOf]
    rfl
  unfold requestState
  dsimp only
  rw [tracked, subject, ← hid, onRecord_eq place]
  rfl

/-- An exempt application is left alone by what shells want of it. -/
lemma requestState_exempt (host : Host) (state : RequestedState)
    (exempt : reg.lifecycle.isExempt id.normalized = true) :
    (reg.requestState host state id).2 = reg := by
  unfold requestState
  dsimp only
  rw [exempt]
  split <;> rfl

lemma requestState_snd (state : RequestedState)
    (subject : reg.lifecycle.isExempt id.normalized = false) :
    (reg.requestState host state id).2 =
      (reg.onRecord id.normalized (Scene.request host state)).2 := by
  unfold requestState
  dsimp only
  rw [subject]
  cases hindex : reg.indexOf id.normalized with
  | none =>
    unfold onRecord
    rw [withRecord_eq_none hindex]
    rfl
  | some index => rfl

/-- The process of an application that is suspended may ask for it to be resumed. -/
lemma onResumeRequested_eq (host : Host) (id : AppId) (reg : Registry) :
    (∃ r, reg.find id = some r ∧ r.state = .suspended ∧ reg.onResumeRequested host id =
      (reg.onRecord id.normalized (Scene.request host .running)).2) ∨
    (∀ r, reg.find id = some r → r.state ≠ .suspended) ∧ reg.onResumeRequested host id = reg := by
  unfold onResumeRequested
  cases found : reg.find id with
  | none => exact .inr ⟨fun _ no => absurd no.symm (Option.some_ne_none _), rfl⟩
  | some r =>
    dsimp only
    split
    · rename_i shown
      refine .inl ⟨r, rfl, ?_, rfl⟩
      revert shown
      cases r.state <;> decide
    · rename_i other
      refine .inr ⟨fun c same suspended => other ?_, rfl⟩
      rw [Option.some.inj same, suspended]
      rfl

/-- After a request to run, the record is not suspended; and it is left stopped only if it was
stopped before although it should have run. -/
lemma request_running (host : Host) (awake : s.record.Awake) :
    (s.request host .running).record.state ≠ .suspended ∧
      ((s.request host .running).record.state = .stoppedResumable ↔
        s.record.requested = .running ∧ s.record.state = .stoppedResumable) := by
  unfold Scene.request
  split
  · rename_i already
    exact ⟨(awake already).2.2, (and_iff_right already).symm⟩
  · rename_i other
    have asked := (s.update fun r => { r with requested := .running }).reconcile_reconciled host
    have resumed := asked.resumed (Scene.reconcile_running host rfl)
    exact ⟨resumed.2.2.1, iff_of_false resumed.2.2.2 fun both => other both.1⟩

/-- A request for an application to run that is answered with yes reaches its record, whose owner
tells it from the others. -/
lemma resumeApplication_yes (h : Reachable P reg) (host : Host)
    (subject : reg.lifecycle.isExempt id.normalized = false)
    (yes : (reg.resumeApplication host id).1 = true) :
    ∃ r, reg.find id = some r ∧ ∀ q ∈ (reg.resumeApplication host id).2.entries,
      q.owner = r.owner → q.state ≠ .suspended ∧
        (q.state = .stoppedResumable ↔ r.requested = .running ∧ r.state = .stoppedResumable) := by
  cases hfind : reg.find id with
  | none =>
    have untracked : reg.indexOf id.normalized = none := by
      refine indexOf_eq_none.mpr fun q hq same => ?_
      have missed := List.find?_eq_none.mp hfind q hq
      exact missed (decide_eq_true same)
    have no : (reg.resumeApplication host id).1 = false := by
      unfold resumeApplication requestState
      dsimp only
      rw [untracked]
      rfl
    rw [no] at yes
    cases yes
  | some r =>
    obtain ⟨front, back, place, hid⟩ := exists_located_of_find hfind
    refine ⟨r, rfl, fun q hq owner => ?_⟩
    have distinct := h.shares.distinct
    rw [place.entries] at distinct
    have own := (nodup_map_split distinct).2
    have settled : (reg.resumeApplication host id).2 =
        reg.settle front r back ((reg.scene r).request host .running) :=
      congrArg Prod.snd (requestState_eq .running place hid subject)
    rw [settled] at hq
    obtain hq | ⟨rfl, -⟩ := mem_settle hq
    · exact absurd owner (own q hq)
    · exact request_running (s := reg.scene r) host (h.awake r place.mem)

/-! ## What it comes to -/

/-- Where ids are distinct, a session is for the record that was looked for, which does not run. -/
lemma expecting_not_awaitsSession {session : Session} (h : Orderly reg)
    (hr : reg.expecting session = some r) : ¬r.AwaitsSession := by
  obtain ⟨q, hq, hfind⟩ := Option.bind_eq_some_iff.mp hr
  have idle := List.find?_some hq
  have found := List.find?_some hfind
  have same : q.id = r.id := (of_decide_eq_true found).symm
  have hqr : q = r := List.inj_on_of_nodup_map h.distinct (List.mem_of_find?_eq_some hq)
    (List.mem_of_find?_eq_some hfind) same
  rw [Bool.and_eq_true, hqr] at idle
  rintro ⟨-, running, -⟩
  have shown : r.state.shown ≠ .running := of_decide_eq_true idle.2
  rw [running] at shown
  exact shown rfl

/-- Along a run, every record is in line with what is requested of it at all times, exactly if no
operation strands one. With faithful descriptors only the end of a session can. A request to run
that is answered with yes leaves the application stopped exactly if it was stranded before, and
never suspended. -/
theorem requests_kept_iff (lifecycle : LifecyclePolicy) (authorization : AuthorizationPolicy)
    (ops : List (Host × Operation)) :
    ((∀ run, run <+: ops → (after lifecycle authorization run).Reconciled) ↔
      ∀ run host op, run ++ [(host, op)] <+: ops →
        ¬(after lifecycle authorization run).Strands op) ∧
    ((∀ x ∈ ops, x.1.Faithful) → ∀ session,
      ¬(after lifecycle authorization ops).Strands (.sessionStarting session)) ∧
    ∀ (reg : Registry) host id, reg = after lifecycle authorization ops →
      reg.lifecycle.isExempt id.normalized = false →
      (reg.resumeApplication host id).1 = true →
      ∃ r, reg.find id = some r ∧ ∀ q ∈ (reg.resumeApplication host id).2.entries,
        q.owner = r.owner → q.state ≠ .suspended ∧
          (q.state = .stoppedResumable ↔ r.requested = .running ∧ r.state = .stoppedResumable) := by
  have reachable : ∀ run, Reachable (fun _ => True) (after lifecycle authorization run) :=
    fun run => (Reachable.empty _ _).performAll fun _ _ => trivial
  have step : ∀ run host op, after lifecycle authorization (run ++ [(host, op)]) =
      ((after lifecycle authorization run).perform host op).2 :=
    fun run host op => performAll_concat _ run host op
  refine ⟨⟨fun reconciled run host op hrun => ?_, fun kept run => ?_⟩, fun faithful session => ?_,
    fun reg host id hreg subject yes => ?_⟩
  · have before := reconciled run ((List.prefix_append _ _).trans hrun)
    have next := reconciled _ hrun
    rw [step] at next
    exact (perform_reconciled_iff host op (reachable run).running before).mp next
  -- operation by operation, from the empty registry on
  · induction run using List.reverseRecOn with
    | nil => exact fun _ _ hr => absurd hr List.not_mem_nil
    | append_singleton run x ih =>
      intro hrun
      have before := ih ((List.prefix_append _ _).trans hrun)
      rw [step]
      exact (perform_reconciled_iff x.1 x.2 (reachable run).running before).mpr
        (kept run x.1 x.2 hrun)
  · rintro ⟨r, hr, awaits⟩
    have orderly := ((Reachable.empty lifecycle authorization).performAll faithful).orderly
    exact expecting_not_awaitsSession orderly hr awaits
  · rw [hreg] at subject yes ⊢
    exact resumeApplication_yes (reachable ops) host subject yes

/-- Nothing is lost on the errand. -/
theorem requests_kept_on_errand :
    (∀ run, run <+: errand → (after .standard .standard run).Reconciled) ∧
    ∀ run host op, run ++ [(host, op)] <+: errand →
      ¬(after .standard .standard run).Strands op := by
  have reconciled : ∀ run ∈ errand.inits, (after .standard .standard run).Reconciled := by decide
  have kept : ∀ run, run <+: errand → (after .standard .standard run).Reconciled :=
    fun run hrun => reconciled run ((List.mem_inits run errand).mpr hrun)
  exact ⟨kept, (requests_kept_iff .standard .standard errand).1.mp kept⟩

/-- The clock is resumed while its process is being suspended; then the process fails, and its
session ends with it. -/
def mishap : List (Host × Operation) :=
  [.start ⟨"clock"⟩ [], .process (.starting ⟨"clock"⟩), .authorize 7,
    .sessionStarting windowOfClock, .sessionState windowOfClock.id .running, .suspend ⟨"clock"⟩,
    .sessionState windowOfClock.id .suspended, .resume ⟨"clock"⟩,
    .process (.failed ⟨"clock"⟩ false), .sessionClosed windowOfClock.id].map (Prod.mk .willing)

/-- After the mishap the clock is to run, is stopped, and cannot be resumed any more. -/
theorem request_lost_by_mishap :
    Reachable Host.Faithful (after .standard .standard mishap) ∧
    ¬(after .standard .standard mishap).Reconciled ∧
    (after .standard .standard mishap).lifecycle.isExempt ⟨"clock"⟩ = false ∧
    ((after .standard .standard mishap).resumeApplication .willing ⟨"clock"⟩).1 = true ∧
    ((after .standard .standard mishap).resumeApplication .willing ⟨"clock"⟩).2.entries.map
      Record.state = [.stoppedResumable] := by
  refine ⟨(Reachable.empty .standard .standard).performAll fun x hx => ?_, by decide, by decide,
    by decide, by decide⟩
  obtain ⟨op, -, rfl⟩ := List.mem_map.mp hx
  exact Host.willing_faithful

end Registry

end AppLifecycle
