import AppLifecycle.Proofs.Registry.Orders
import AppLifecycle.Proofs.Scene.Strokes

/-!
# Applications that run without a process

An application that begins to run should have a process. One that is resumed need not have: whether
the process has ended in the meantime is not looked at. `Revives` names the operations that resume
an application that way, if only to close it. No other operation makes one run whose process is
gone, neither when it is over nor in the middle of it (`Revived`).
-/

namespace AppLifecycle

namespace Registry

variable {P : Host → Prop} {host : Host} {op : Operation} {reg reg' : Registry}
variable {front back : List Record} {r q : Record} {s : Scene} {f : Scene → Scene} {id : AppId}

/-- The records that an operation does something to, as it finds them. -/
inductive Finds (host : Host) (reg : Registry) : Operation → Record → Prop where
  | tracked {op : Operation} {front back : List Record} {r : Record} {f : Scene → Scene}
      (place : Located reg front r back) (treatment : Treatment host reg op r f) :
      Finds host reg op r
  /-- A process starts that was not asked for. -/
  | appeared {id : AppId} {descriptor : Descriptor}
      (untracked : reg.indexOf id.normalized = none)
      (known : host.findMetadata id.normalized = some descriptor) :
      Finds host reg (.process (.starting id))
        (.launched descriptor [] (reg.lifecycle.isExempt id.normalized) reg.lifecycle.closeTimeout
          ⟨reg.nextOwner⟩)

/-- With an operation, a record begins to run whose process is gone, if only on the way to another
state. The wakelock and the journal have no bearing on that. -/
def Revived (host : Host) (op : Operation) (reg : Registry) : Prop :=
  ∃ s : Scene, Finds host reg op s.record ∧ Scene.RevivedIn (op.strokes host s) s

/-- Between two registries, a record has begun to run whose process is gone. -/
def LeftRunning (reg reg' : Registry) : Prop :=
  ∃ q ∈ reg'.entries, q.state = .running ∧ q.process.isGone = true ∧
    ∀ r ∈ reg.entries, r.owner = q.owner → r.state ≠ .running

instance (reg reg' : Registry) : Decidable (LeftRunning reg reg') :=
  inferInstanceAs (Decidable (∃ q ∈ reg'.entries, _ ∧ _ ∧ _))

/-- The operation resumes an application whose process is gone: because a shell or its own process
asks for it, or in order to close it. -/
def Revives (reg : Registry) : Operation → Prop
  | .resume id => reg.lifecycle.isExempt id.normalized = false ∧
      ∃ r, reg.find id = some r ∧ r.process.isGone = true ∧ r.state.isAsleep = true
  | .process (.resumeRequested id) =>
      ∃ r, reg.find id = some r ∧ r.process.isGone = true ∧ r.state = .suspended
  | .stop id =>
      ∃ r, reg.find id = some r ∧ r.process.isGone = true ∧ r.state.isAsleep = true
  | _ => False

/-- An application that is resumed goes on to run, unless that is done in order to close it and it
has a session. -/
def GoesOn (reg : Registry) : Operation → Prop
  | .stop id => ∀ r, reg.find id = some r → r.session = none
  | _ => True

/-! ## The strokes of an operation -/

/-- The strokes of an operation are what it does to a record. -/
theorem Treatment.play_strokes (h : Treatment host reg op r f) (s : Scene) :
    Scene.play (op.strokes host s) s = f s := by
  cases h with
  | close _ => exact Scene.play_closing host s
  | started _ _ | ended _ _ | suspended _ => exact Scene.play_reportProcess host _ s
  | failed _ _ =>
    show Scene.play (s.reportProcess host .failed ++ [Scene.setPid 0]) s = _
    unfold Scene.play
    rw [List.foldl_append]
    exact congrArg (Scene.setPid 0) (Scene.play_reportProcess host .failed s)
  | reported _ state hop _ _ _ =>
    obtain rfl | ⟨rfl, rfl⟩ := hop
    · exact Scene.play_reportSession host state s
    · exact Scene.play_reportSession host .stopped s
  | _ => rfl

/-- What an operation makes of a record that it finds. -/
def Played (host : Host) (op : Operation) (reg : Registry) (q : Record) : Prop :=
  ∃ s : Scene, Finds host reg op s.record ∧ (Scene.play (op.strokes host s) s).record = q

/-- A record that is there after an operation is in the state in which it was before, is what the
strokes of the operation have made of one that it found, or is new. -/
theorem perform_played (host : Host) (op : Operation) (hq : q ∈ (reg.perform host op).2.entries) :
    (∃ r ∈ reg.entries, r.owner = q.owner ∧ r.state = q.state) ∨ Played host op reg q ∨
      Newborn reg q := by
  obtain ⟨r, hr, fate⟩ | born := perform_origin host op hq
  · have owner := fate.owner.symm
    -- the focus, an admission and a tick leave the state of a record alone
    cases fate with
    | kept _ => exact .inl ⟨r, hr, owner, rfl⟩
    | bound _ _ _ => exact .inl ⟨r, hr, owner, rfl⟩
    | ticked _ _ _ _ => exact .inl ⟨r, hr, owner, rfl⟩
    | @treated _ _ _ s _ place treatment hs _ =>
      subst hs
      exact .inr (.inl ⟨s, .tracked place treatment,
        congrArg Scene.record (treatment.play_strokes s)⟩)
  · exact .inr (.inr born)

/-! ## The process of a record that starts -/

lemma Treatment.fresh (h : Treatment host reg op r f) (untimed : ∀ now, op ≠ .tick now)
    (hs : s.record = r) (fresh : r.Fresh) : (f s).record.Fresh := by
  subst hs
  cases h with
  | close _ => exact Scene.close_fresh host fresh
  | suspend _ _ => exact Scene.request_fresh host _ fresh
  | resume _ _ => exact Scene.request_fresh host _ fresh
  | resumeRequested _ _ => exact Scene.request_fresh host _ fresh
  | setExempt exempt _ => exact fresh.of_standing (s.setExempt_standing host exempt)
  | setStage stage _ => exact fresh.of_standing (s.setStage_standing stage)
  | updateScreenshot _ => exact fresh
  | tick now => exact absurd rfl (untimed now)
  | started _ _ => exact Scene.onProcess_fresh host _ fresh
  | failed _ _ =>
    have failed := Scene.onProcess_fresh host .failed fresh
    exact failed
  | ended _ _ => exact Scene.onProcess_fresh host _ fresh
  | suspended _ => exact Scene.onProcess_fresh host _ fresh
  | attach session _ _ _ _ =>
    obtain ⟨-, state, -, process⟩ := s.attach_standing session
    unfold Record.Fresh
    rw [state, process]
    exact fresh
  | reported _ state _ _ _ _ => exact Scene.hear_fresh host state fresh

/-- In every reachable registry, the process of a record that is starting is not gone. -/
theorem Reachable.fresh (h : Reachable P reg) : ∀ r ∈ reg.entries, r.Fresh := by
  refine h.forall_entries ?_ ?_
  · intro _ q born _
    obtain unknown | running := born.process
    · rw [unknown]
      rfl
    · rw [running]
      rfl
  · intro reg host op r q _ _ _ fate fresh
    cases fate with
    | kept _ => exact fresh
    | bound _ _ _ => exact fresh
    | ticked _ _ _ _ => exact fresh
    | treated untimed _ treatment hs _ => exact treatment.fresh untimed hs fresh

/-! ## What an operation revives -/

lemma Finds.awake (h : Reachable P reg) (finds : Finds host reg op r) : r.Awake := by
  cases finds with
  | tracked place _ => exact h.awake r place.mem
  | appeared _ _ => exact fun _ => ⟨nofun, nofun, nofun⟩

lemma Finds.fresh (h : Reachable P reg) (finds : Finds host reg op r) : r.Fresh := by
  cases finds with
  | tracked place _ => exact h.fresh r place.mem
  | appeared _ _ => exact fun _ => rfl

lemma Revived.revives (h : Reachable P reg) (revived : Revived host op reg) : reg.Revives op := by
  obtain ⟨s, finds, revived⟩ := revived
  have awake := finds.awake h
  have resumes : op.mayResume ≠ false :=
    fun reports => Scene.not_revivedIn_strokes host reports awake (finds.fresh h) revived
  generalize hs : s.record = r at finds
  cases finds with
  | appeared _ _ => exact absurd rfl resumes
  | tracked place treatment =>
    subst hs
    have timed := h.timed s.record place.mem
    have resumed : Scene.RevivedIn [Scene.request host .running] s →
        s.record.process.isGone = true ∧ s.record.state.isAsleep = true :=
      fun once => (Scene.request_revives_iff host awake).mp (Scene.revivedIn_singleton.mp once)
    cases treatment with
    | close hid =>
      have asleep := (Scene.revivedIn_closing_iff host awake timed).mp revived
      exact ⟨s.record, place.find hid, asleep⟩
    | resume hid subject =>
      exact ⟨hid ▸ subject, s.record, place.find hid, resumed revived⟩
    | resumeRequested hid suspended =>
      obtain ⟨gone, asleep⟩ := resumed revived
      refine ⟨s.record, place.find hid, gone, ?_⟩
      -- of the states in which it can be resumed, one only is shown as suspended
      obtain state | state | state := Record.asleep_cases asleep
      · rw [state] at suspended
        cases suspended
      · rw [state] at suspended
        cases suspended
      · exact state
    | reported _ _ hop _ _ _ => obtain rfl | ⟨rfl, -⟩ := hop <;> exact absurd rfl resumes
    | _ => exact absurd rfl resumes

lemma Revives.revived (h : Reachable P reg) (host : Host) (revives : reg.Revives op) :
    Revived host op reg := by
  have resumed : ∀ r ∈ reg.entries, r.process.isGone = true → r.state.isAsleep = true →
      Scene.RevivedIn [Scene.request host .running] (reg.scene r) := fun r hr gone asleep =>
    .inl ((Scene.request_revives_iff (s := reg.scene r) host (h.awake r hr)).mpr ⟨gone, asleep⟩)
  cases op with
  | stop id =>
    obtain ⟨r, found, gone, asleep⟩ := revives
    obtain ⟨front, back, place, hid⟩ := exists_located_of_find found
    exact ⟨reg.scene r, .tracked place (.close hid),
      (Scene.revivedIn_closing_iff host (h.awake r place.mem) (h.timed r place.mem)).mpr
        ⟨gone, asleep⟩⟩
  | resume id =>
    obtain ⟨subject, r, found, gone, asleep⟩ := revives
    obtain ⟨front, back, place, hid⟩ := exists_located_of_find found
    exact ⟨reg.scene r, .tracked place (.resume hid (hid ▸ subject)),
      resumed r place.mem gone asleep⟩
  | process event =>
    cases event with
    | resumeRequested id =>
      obtain ⟨r, found, gone, suspended⟩ := revives
      obtain ⟨front, back, place, hid⟩ := exists_located_of_find found
      refine ⟨reg.scene r, .tracked place (.resumeRequested hid ?_), resumed r place.mem gone ?_⟩
      · exact congrArg InternalState.shown suspended
      · exact congrArg InternalState.isAsleep suspended
    | _ => cases revives
  | _ => cases revives

/-! ## What an operation leaves running -/

lemma Treatment.not_revives (h : Treatment host reg op r f) (reports : op.mayResume = false)
    (hs : s.record = r) (awake : r.Awake) (fresh : r.Fresh) : ¬s.Revives (f s) := by
  subst hs
  have quiet := Scene.not_revivedIn_strokes host reports awake fresh
  cases h with
  | close _ | resume _ _ | resumeRequested _ _ => cases reports
  | started _ _ | ended _ _ | suspended _ => exact Scene.onProcess_not_revives host _ awake
  | failed _ _ =>
    have failed : ¬s.Revives (s.onProcess host .failed) :=
      Scene.onProcess_not_revives host _ awake
    exact failed
  | reported _ state _ _ _ _ => exact Scene.hear_not_revives host state fresh
  -- all others are done at one stroke
  | _ => exact fun revives => quiet (Or.inl revives)

lemma perform_not_leftRunning (h : Reachable P reg) (host : Host) (reports : op.mayResume = false) :
    ¬LeftRunning reg (reg.perform host op).2 := by
  rintro ⟨q, hq, running, gone, before⟩
  -- the record ran before the operation, did not and was treated by it, or is new
  obtain ⟨r, hr, fate⟩ | born := perform_origin host op hq
  · have other := before r hr fate.owner.symm
    cases fate with
    | kept _ => exact other running
    | bound _ _ _ => exact other running
    | ticked _ _ _ _ => exact other running
    | treated _ _ treatment hs _ =>
      have quiet := treatment.not_revives reports hs (h.awake r hr) (h.fresh r hr)
      exact quiet ⟨hs.symm ▸ other, running, gone⟩
  · rw [born.state] at running
    cases running

lemma not_leftRunning_self (reg : Registry) : ¬LeftRunning reg reg := by
  rintro ⟨q, hq, running, -, before⟩
  exact before q hq rfl running

lemma leftRunning_settle (shares : Shares reg) (place : Located reg front r back)
    (owner : s.record.owner = r.owner) :
    LeftRunning reg (reg'.settle front r back s) ↔ (reg.scene r).Revives s := by
  constructor
  · rintro ⟨q, hq, running, gone, before⟩
    obtain hq | ⟨rfl, -⟩ := mem_settle hq
    · exact absurd running (before q (place.mem_of_mem_append hq) rfl)
    · exact ⟨before r place.mem owner.symm, running, gone⟩
  · rintro ⟨other, running, gone⟩
    refine ⟨s.record, mem_settle_self ?_, running, gone, fun c hc same => ?_⟩
    · rw [running]
      decide
    · rw [List.inj_on_of_nodup_map shares.distinct hc place.mem (same.trans owner)]
      exact other

/-- What `f` does to the record of an application leaves one running whose process is gone exactly
if it revives this one. -/
lemma leftRunning_onRecord (host : Host) (shares : Shares reg) {wakes : Record → Prop}
    (moves : ∀ s, Scene.Moves host s (f s))
    (hf : ∀ r ∈ reg.entries, (reg.scene r).Revives (f (reg.scene r)) ↔ wakes r) :
    LeftRunning reg (reg.onRecord id.normalized f).2 ↔ ∃ r, reg.find id = some r ∧ wakes r := by
  obtain ⟨untracked, same⟩ | ⟨front, r, back, place, found, changed⟩ := onRecord_find id f reg
  · rw [same, untracked]
    refine iff_of_false (not_leftRunning_self reg) ?_
    rintro ⟨_, no, -⟩
    cases no
  · have owner := (moves (reg.scene r)).sameIdentity.owner
    rw [changed, leftRunning_settle shares place owner, hf r place.mem, found]
    simp

/-- An operation leaves an application running whose process is gone exactly if it resumes one that
goes on. -/
lemma perform_leftRunning_iff (h : Reachable P reg) (host : Host) (op : Operation) :
    LeftRunning reg (reg.perform host op).2 ↔ reg.Revives op ∧ reg.GoesOn op := by
  have resumed : ∀ id : AppId,
      LeftRunning reg (reg.onRecord id.normalized (Scene.request host .running)).2 ↔
        ∃ r, reg.find id = some r ∧ r.process.isGone = true ∧ r.state.isAsleep = true :=
    fun id => leftRunning_onRecord host h.shares (fun s => (Scene.Moves.refl s).request _)
      fun r hr => Scene.request_revives_iff (s := reg.scene r) host (h.awake r hr)
  have other : op.mayResume = false → ¬reg.Revives op →
      (LeftRunning reg (reg.perform host op).2 ↔ reg.Revives op ∧ reg.GoesOn op) :=
    fun reports no => iff_of_false (perform_not_leftRunning h host reports) fun both => no both.1
  cases op with
  | stop id =>
    show LeftRunning reg (orNotFound _ _).2 ↔ _
    rw [orNotFound_snd, leftRunning_onRecord host h.shares (fun s => (Scene.Moves.refl s).close)
      fun r hr => Scene.close_revives_iff (s := reg.scene r) host (h.awake r hr) (h.timed r hr)]
    constructor
    · rintro ⟨r, found, gone, asleep, alone⟩
      refine ⟨⟨r, found, gone, asleep⟩, fun c hc => ?_⟩
      rw [Option.some.inj (found.symm.trans hc)] at alone
      exact alone
    · rintro ⟨⟨r, found, gone, asleep⟩, alone⟩
      exact ⟨r, found, gone, asleep, alone r found⟩
  | resume id =>
    show LeftRunning reg (reg.requestState host .running id).2 ↔ _
    cases exempt : reg.lifecycle.isExempt id.normalized with
    | true =>
      -- nothing is done to an application that is exempt
      rw [requestState_exempt host _ exempt]
      refine iff_of_false (not_leftRunning_self reg) fun both => ?_
      exact Bool.false_ne_true (both.1.1.symm.trans exempt)
    | false =>
      rw [requestState_snd _ exempt, resumed]
      exact (and_iff_right exempt).symm.trans (and_iff_left trivial).symm
  | process event =>
    cases event with
    | resumeRequested id =>
      refine Iff.trans ?_ (and_iff_left trivial).symm
      show LeftRunning reg (reg.onResumeRequested host id) ↔ _
      obtain ⟨r, found, suspended, asked⟩ | ⟨nobody, same⟩ := onResumeRequested_eq host id reg
      · rw [asked, resumed]
        show _ ↔ ∃ r, reg.find id = some r ∧ r.process.isGone = true ∧ r.state = .suspended
        rw [found]
        simp [suspended, InternalState.isAsleep]
      · rw [same]
        refine iff_of_false (not_leftRunning_self reg) ?_
        rintro ⟨r, found, -, suspended⟩
        exact nobody r found suspended
    | _ => exact other rfl id
  | _ => exact other rfl id

/-! ## What it comes to -/

/-- At every step of a run, a record begins to run whose process is gone, if only on the way to
another state, exactly if the operation resumes one. It runs on when the operation is over exactly
if it was not resumed in order to close it, or had no session that could be closed. With any other
operation, a record that begins to run, be it in the middle of the operation, has a process that has
neither failed nor stopped. The middle of an operation is between its strokes: they have made all
records what they are that are in another state than before. -/
theorem revived_iff (lifecycle : LifecyclePolicy) (authorization : AuthorizationPolicy)
    (ops : List (Host × Operation)) (host : Host) (op : Operation) :
    (Revived host op (after lifecycle authorization ops) ↔
      (after lifecycle authorization ops).Revives op) ∧
    (LeftRunning (after lifecycle authorization ops)
        ((after lifecycle authorization ops).perform host op).2 ↔
      (after lifecycle authorization ops).Revives op ∧
        (after lifecycle authorization ops).GoesOn op) ∧
    (∀ q ∈ ((after lifecycle authorization ops).perform host op).2.entries,
      (∃ r ∈ (after lifecycle authorization ops).entries, r.owner = q.owner ∧ r.state = q.state) ∨
        Played host op (after lifecycle authorization ops) q ∨
        Newborn (after lifecycle authorization ops) q) := by
  have reachable := after_reachable lifecycle authorization ops
  exact ⟨⟨fun revived => revived.revives reachable, fun revives => revives.revived reachable host⟩,
    perform_leftRunning_iff reachable host op, fun q hq => perform_played host op hq⟩

/-- The process of the clock fails while the clock is suspended. -/
def outage : List (Host × Operation) :=
  [.start ⟨"clock"⟩ [], .process (.starting ⟨"clock"⟩), .authorize 7,
    .sessionStarting windowOfClock, .sessionState windowOfClock.id .running, .suspend ⟨"clock"⟩,
    .sessionState windowOfClock.id .suspended, .process (.suspended ⟨"clock"⟩),
    .process (.failed ⟨"clock"⟩ false)].map (Prod.mk .willing)

/-- After the outage the clock is resumed: it runs, keeps the device awake, and has no process. It
is resumed just as well where it is closed, before its session is asked to close. -/
theorem clock_runs_without_process :
    Reachable Host.Faithful (after .standard .standard outage) ∧
    ((after .standard .standard outage).entries.map fun r => (r.state, r.process)) =
      [(.suspended, .failed)] ∧
    Revived .willing (.resume ⟨"clock"⟩) (after .standard .standard outage) ∧
    LeftRunning (after .standard .standard outage)
      ((after .standard .standard outage).perform .willing (.resume ⟨"clock"⟩)).2 ∧
    (((after .standard .standard outage).perform .willing (.resume ⟨"clock"⟩)).2.entries.map
      fun r => (r.state, r.process, r.wantsWakelock)) = [(.running, .failed, true)] ∧
    Revived .willing (.stop ⟨"clock"⟩) (after .standard .standard outage) ∧
    (after .standard .standard outage).effectsOf .willing (.stop ⟨"clock"⟩) =
      [.call (.resume ⟨"clock"⟩), .ask windowOfClock .resume, .ask windowOfClock .close] ∧
    (((after .standard .standard outage).perform .willing (.stop ⟨"clock"⟩)).2.entries.map
      fun r => (r.state, r.process)) = [(.closing, .failed)] := by
  have reachable : Reachable Host.Faithful (after .standard .standard outage) :=
    willing_reachable _
  have suspended : ∃ r, (after .standard .standard outage).find ⟨"clock"⟩ = some r ∧
      r.process.isGone = true ∧ r.state.isAsleep = true := ⟨_, rfl, by decide, by decide⟩
  have resumed : (after .standard .standard outage).Revives (.resume ⟨"clock"⟩) :=
    ⟨by decide, suspended⟩
  have stopped : (after .standard .standard outage).Revives (.stop ⟨"clock"⟩) := suspended
  exact ⟨reachable, by decide, resumed.revived reachable .willing, by decide, by decide,
    stopped.revived reachable .willing, by decide, by decide⟩

end Registry

end AppLifecycle
