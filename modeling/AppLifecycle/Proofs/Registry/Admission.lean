import AppLifecycle.Proofs.Registry.Reachable
import AppLifecycle.Proofs.Scene.Pid

/-!
# Who may open a session

A session that is let in can be traced back: to an authorization that bound its process to the
record, which has had the process ever since, or to one that approved the process as a helper,
which no session has made use of since. Zero is not told apart from a process, so that a session
which claims to come from the process zero is let in for a record without a process.
-/

namespace AppLifecycle

namespace Registry

variable {host : Host} {op : Operation} {reg reg' : Registry} {front back : List Record}
variable {r q : Record} {s : Scene} {f : Scene → Scene} {id : AppId} {owner : WakelockOwner}
variable {pid : Nat} {session : Session} {lifecycle : LifecyclePolicy}
variable {authorization : AuthorizationPolicy}

/-! ## Which record has a process -/

/-- The record of an owner, which is that of an application, has a process. -/
def Carries (reg : Registry) (pid : Nat) (owner : WakelockOwner) (id : AppId) : Prop :=
  ∃ r ∈ reg.entries, r.owner = owner ∧ r.id = id ∧ r.pid = pid

/-- Whose record it is, of which application, and with which process. -/
def tag (r : Record) : WakelockOwner × AppId × Nat := (r.owner, r.id, r.pid)

lemma carries_iff : reg.Carries pid owner id ↔ (owner, id, pid) ∈ reg.entries.map tag := by
  simp [Carries, tag]

lemma Carries.of_subset (h : reg'.Carries pid owner id)
    (subset : ∀ t, t ∈ reg'.entries.map tag → t ∈ reg.entries.map tag) :
    reg.Carries pid owner id := by
  rw [carries_iff] at h ⊢
  exact subset _ h

lemma Treatment.keepsPid (h : Treatment host reg op r f) (s : Scene) : s.KeepsPid (f s) := by
  cases h with
  | close _ => exact Scene.close_keepsPid host s
  | suspend _ _ => exact Scene.request_keepsPid host _ s
  | resume _ _ => exact Scene.request_keepsPid host _ s
  | resumeRequested _ _ => exact Scene.request_keepsPid host _ s
  | setExempt exempt _ => exact Scene.setExempt_keepsPid host exempt s
  | setStage stage _ => exact Scene.setStage_keepsPid stage s
  | updateScreenshot _ => exact .of_eq rfl
  | tick now => exact Scene.tick_keepsPid host now s
  | started _ _ => exact Scene.onProcess_keepsPid host _ s
  | failed _ _ => exact .inr rfl
  | ended _ _ => exact Scene.onProcess_keepsPid host _ s
  | suspended _ => exact Scene.onProcess_keepsPid host _ s
  | attach session _ _ _ _ => exact Scene.attach_keepsPid session s
  | reported _ state _ _ _ _ => exact Scene.hear_keepsPid host state s

lemma Carries.of_evict (entries : reg.entries = front ++ r :: back)
    (h : (reg.evict front r back).Carries pid owner id) : reg.Carries pid owner id := by
  obtain ⟨q, hq, same⟩ := h
  exact ⟨q, mem_of_mem_append entries hq, same⟩

/-- A record that is treated has had its process before. -/
lemma Carries.of_settle (hpid : pid ≠ 0) (entries : reg.entries = front ++ r :: back)
    (same : Record.SameIdentity r s.record) (keeps : (reg.scene r).KeepsPid s)
    (h : (reg.settle front r back s).Carries pid owner id) : reg.Carries pid owner id := by
  have placed : (reg.place front r back s).Carries pid owner id := by
    unfold settle at h
    split at h
    · exact h.of_evict rfl
    · exact h
  obtain ⟨q, hq, howner, hid, hq'⟩ := placed
  obtain hq | rfl := mem_place hq
  · exact ⟨q, mem_of_mem_append entries hq, howner, hid, hq'⟩
  · have kept : r.pid = pid := by
      obtain kept | lost := keeps
      · exact kept.symm.trans hq'
      · omega
    refine ⟨r, ?_, same.owner.symm.trans howner, same.id.symm.trans hid, kept⟩
    rw [entries]
    exact List.mem_append_right _ List.mem_cons_self

lemma Carries.of_treat (hpid : pid ≠ 0) (place : Located reg front r back)
    (treatment : Treatment host reg op r f)
    (h : (reg.settle front r back (f (reg.scene r))).Carries pid owner id) :
    reg.Carries pid owner id :=
  h.of_settle hpid place.entries (treatment.moves (reg.scene r)).sameIdentity
    (treatment.keepsPid (reg.scene r))

lemma Carries.of_tick (hpid : pid ≠ 0) (now : Instant)
    (h : (reg.tick host now).Carries pid owner id) : reg.Carries pid owner id := by
  revert h
  refine tick_invariant (I := fun seen => seen.Carries pid owner id → reg.Carries pid owner id)
    now (fun h => h) ?_
  intro seen front r back place before h
  exact before (h.of_treat hpid place (.tick now))

/-- A new record that was not identified has no process. -/
lemma Carries.of_welcome (hpid : pid ≠ 0) (new : s.record.pid = 0)
    (h : (reg.welcome s).Carries pid owner id) : reg.Carries pid owner id := by
  obtain ⟨q, hq, howner, hid, hq'⟩ := h
  obtain rfl | hq := List.mem_cons.mp hq
  · omega
  · exact ⟨q, hq, howner, hid, hq'⟩

/-- What a record carries after an operation, it has carried before, unless the operation is an
authorization. -/
lemma Course.carries (course : Course host op reg reg') (hop : ∀ pid, op ≠ .authorize pid)
    (hpid : pid ≠ 0) (h : reg'.Carries pid owner id) : reg.Carries pid owner id := by
  have launched : ∀ (reg : Registry) descriptor arguments exempt,
      (reg.newcomer host descriptor arguments exempt fun s => s).record.pid = 0 := by
    intro reg descriptor arguments exempt
    rw [newcomer_launched]
    rfl
  cases course with
  | idle => exact h
  | note _ => exact h
  | announce _ => exact h
  | treat place treatment => exact h.of_treat hpid place treatment
  | @relaunch _ front back r _ place hid gone =>
    have still : Located (reg.emit [.focusRequested r.id]) front r back :=
      ⟨place.entries, place.first⟩
    have before : (reg.emit [.focusRequested r.id]).Carries pid owner id :=
      h.of_treat hpid still (.started hid (.inl gone))
    exact before
  | finish place hid news left _ =>
    exact (h.of_evict left.entries).of_treat hpid place (.ended hid news)
  | launch _ _ => exact h.of_welcome hpid (launched _ _ _ _)
  | bind binding => exact absurd rfl (hop _)
  | @appear _ given descriptor s untracked known hid new =>
    have before : ((reg.welcome s).emit [.focusRequested given.normalized]).Carries pid owner id :=
      h.of_settle hpid rfl (Scene.onProcess_sameIdentity host .running _)
        (Scene.onProcess_keepsPid host .running _)
    refine Carries.of_welcome hpid ?_ before
    rw [new]
    exact launched _ _ _ _
  | stray _ _ _ => exact Carries.of_welcome hpid (launched _ _ _ _) h
  | raise place _ => exact h.of_subset fun t => ((raise_perm place.entries).map tag).mem_iff.mp
  | focus place _ _ =>
    refine h.of_subset fun t ht => ?_
    rw [map_passFocus fun _ _ => rfl] at ht
    exact ((raise_perm place.entries).map tag).mem_iff.mp ht
  | tick now => exact h.of_tick hpid now

/-- A process other than the one that is bound was with its record before. -/
lemma Binding.carries {bound : Nat} (binding : Binding host reg bound q reg')
    (h : reg'.Carries pid owner id) :
    reg.Carries pid owner id ∨ bound = pid ∧ q.owner = owner ∧ q.id = id := by
  -- a record that was there is still the one that it was, unless it is the one at hand
  have among : ∀ {front back : List Record} {r : Record}, reg.entries = front ++ r :: back →
      (∃ c ∈ front ++ { r with pid := bound } :: back, c.owner = owner ∧ c.id = id ∧ c.pid = pid) →
      reg.Carries pid owner id ∨ bound = pid ∧ r.owner = owner ∧ r.id = id := by
    rintro front back r entries ⟨c, hc, howner, hid, hpid⟩
    obtain rfl | hc := mem_middle_iff.mp hc
    · exact .inr ⟨hpid, howner, hid⟩
    · exact .inl ⟨c, mem_of_mem_append entries hc, howner, hid, hpid⟩
  cases binding with
  | @confirmed _ _ r entries _ _ => exact among (r := r) entries h
  | @hinted _ _ r place _ _ => exact among (r := r) place.entries h
  | created arguments side _ _ _ =>
    obtain ⟨c, hc, howner, hid, hpid⟩ := h
    obtain rfl | hc := List.mem_cons.mp hc
    · exact .inr ⟨(Scene.identify_pid bound side _).symm.trans hpid, howner, hid⟩
    · exact .inl ⟨c, hc, howner, hid, hpid⟩

/-- An authorization is answered with yes and binds the process to the record of an owner. -/
def Bound (host : Host) (reg : Registry) (pid : Nat) (owner : WakelockOwner) (id : AppId) : Prop :=
  ∃ q reg', reg.authorizeSession host pid = (true, reg') ∧ Binding host reg pid q reg' ∧
    q.owner = owner ∧ q.id = id

/-- A process that a record has after an operation, it has had before, or it was bound to it. -/
lemma perform_carries (hpid : pid ≠ 0) (h : (reg.perform host op).2.Carries pid owner id) :
    reg.Carries pid owner id ∨ op = .authorize pid ∧ Bound host reg pid owner id := by
  by_cases hop : ∃ asking, op = .authorize asking
  · obtain ⟨asking, rfl⟩ := hop
    have verdict := authorizeSession_verdict host asking reg
    have after : (reg.authorizeSession host asking).2.Carries pid owner id := h
    generalize hanswer : reg.authorizeSession host asking = answer at verdict after
    cases verdict with
    | refused => exact .inl after
    | trusted _ _ => exact .inl after
    | bound binding =>
      obtain before | ⟨rfl, howner, hid⟩ := binding.carries after
      · exact .inl before
      · exact .inr ⟨rfl, _, _, hanswer, binding, howner, hid⟩
  · exact .inl ((perform_course host op reg).carries (fun asking same => hop ⟨asking, same⟩) hpid h)

/-! ## Which helpers are approved -/

lemma settle_helpers (front : List Record) (r : Record) (back : List Record) (s : Scene) :
    (reg.settle front r back s).helpers = reg.helpers := by
  unfold settle
  split <;> rfl

lemma tick_helpers (now : Instant) : (reg.tick host now).helpers = reg.helpers := by
  refine tick_invariant (I := fun seen => seen.helpers = reg.helpers) now rfl ?_
  intro seen front r back _ same
  rw [settle_helpers, same]

/-- What the courses that touch a record leave alone. -/
lemma Course.helpers (course : Course host op reg reg') :
    reg'.helpers = reg.helpers ∨ ∃ effects, Note host reg op reg'.helpers effects := by
  cases course with
  | note note => exact .inr ⟨_, note⟩
  | idle => exact .inl rfl
  | announce _ => exact .inl rfl
  | treat _ _ => exact .inl (settle_helpers _ _ _ _)
  | relaunch _ _ _ => exact .inl (settle_helpers _ _ _ _)
  | finish _ _ _ _ _ => exact .inl (settle_helpers _ _ _ _)
  | launch _ _ => exact .inl rfl
  | bind binding => cases binding <;> exact .inl rfl
  | appear _ _ _ _ => exact .inl (settle_helpers _ _ _ _)
  | stray _ _ _ => exact .inl rfl
  | @raise _ front back r _ _ _ =>
    obtain ⟨entries, events, frame⟩ := raise_frame reg front r back
    rw [frame]
    exact .inl rfl
  | @focus _ front back r _ _ _ _ =>
    obtain ⟨entries, events, raised⟩ := raise_frame reg front r back
    obtain ⟨entries', events', passed⟩ := (reg.raise front r back).passFocus_frame r.id
    rw [passed, raised]
    exact .inl rfl
  | tick now => exact .inl (tick_helpers now)

/-- An authorization is answered with yes and approves the process as a trusted helper. -/
def Approved (host : Host) (reg : Registry) (pid : Nat) : Prop :=
  reg.authorizeSession host pid = (true, { reg with helpers := reg.helpers.insert pid }) ∧
    ∃ line, host.commandLine pid = .ok line ∧ reg.isTrusted line = true

/-- A helper that is approved after an operation was so before, or was approved by it. -/
lemma perform_helpers (h : pid ∈ (reg.perform host op).2.helpers) :
    pid ∈ reg.helpers ∨ op = .authorize pid ∧ Approved host reg pid := by
  by_cases hop : ∃ asking, op = .authorize asking
  · obtain ⟨asking, rfl⟩ := hop
    have verdict := authorizeSession_verdict host asking reg
    have after : pid ∈ (reg.authorizeSession host asking).2.helpers := h
    generalize hanswer : reg.authorizeSession host asking = answer at verdict after
    cases verdict with
    | refused => exact .inl after
    | trusted hline trusted =>
      obtain rfl | before := List.mem_insert_iff.mp after
      · exact .inr ⟨rfl, hanswer, _, hline, trusted⟩
      · exact .inl before
    | bound binding => cases binding <;> exact .inl after
  · obtain same | ⟨effects, note⟩ := (perform_course host op reg).helpers
    · rw [same] at h
      exact .inl h
    · left
      generalize (reg.perform host op).2.helpers = helpers at note h
      cases note with
      | unlaunched _ => exact h
      | trusted _ _ => exact absurd ⟨_, rfl⟩ hop
      | helper _ => exact List.mem_of_mem_erase h
      | intruder _ => exact h

/-- A helper is not approved twice at a time, so that one session uses its approval up. -/
theorem Reachable.helpers_nodup {P : Host → Prop} (h : Reachable P reg) : reg.helpers.Nodup := by
  induction h with
  | empty _ _ => exact List.nodup_nil
  | @perform reg host op _ _ ih =>
    obtain same | ⟨effects, note⟩ := (perform_course host op reg).helpers
    · rw [same]
      exact ih
    · generalize (reg.perform host op).2.helpers = helpers at note
      cases note with
      | unlaunched _ => exact ih
      | trusted _ _ => exact ih.insert
      | helper _ => exact ih.erase _
      | intruder _ => exact ih
  | takeEvents _ ih => exact ih
  | takeJournal _ ih => exact ih

/-! ## What a session that is let in goes back to -/

/-- A session that is attached is so for a record that does not run and has the process. -/
lemma sessionStarting_attached (h : (reg.sessionStarting session).1 = .ok (some id)) :
    ∃ r ∈ reg.entries, r.id = id ∧ r.pid = session.pid ∧ r.state.shown ≠ .running := by
  unfold sessionStarting at h
  split at h
  · rename_i r found
    have expects := List.find?_some found
    rw [Bool.and_eq_true] at expects
    exact ⟨r, List.mem_of_find?_eq_some found, Option.some.inj (Except.ok.inj h),
      of_decide_eq_true expects.1, of_decide_eq_true expects.2⟩
  · split at h <;> cases h

/-- A session that is left alone uses the approval of its process up. -/
lemma sessionStarting_helper (h : (reg.sessionStarting session).1 = .ok none) :
    session.pid ∈ reg.helpers ∧
      (reg.sessionStarting session).2.helpers = reg.helpers.erase session.pid := by
  unfold sessionStarting at h ⊢
  split at h
  · cases h
  · rename_i unexpected
    split at h
    · rename_i approved
      rw [if_pos approved]
      exact ⟨List.contains_iff_mem.mp approved, rfl⟩
    · cases h

/-- An operation of the run has bound the process to a record of the application, and the record has
had the process at all times since. -/
def BoundSince (lifecycle : LifecyclePolicy) (authorization : AuthorizationPolicy)
    (run : List (Host × Operation)) (pid : Nat) (id : AppId) : Prop :=
  ∃ owner before host later, run = before ++ (host, .authorize pid) :: later ∧
    Bound host (after lifecycle authorization before) pid owner id ∧
    ∀ mid, mid <+: later →
      (after lifecycle authorization (before ++ (host, .authorize pid) :: mid)).Carries pid owner id

/-- An operation of the run has approved the process as a helper, and no session of it was left
alone since. -/
def ApprovedSince (lifecycle : LifecyclePolicy) (authorization : AuthorizationPolicy)
    (run : List (Host × Operation)) (pid : Nat) : Prop :=
  ∃ before host later, run = before ++ (host, .authorize pid) :: later ∧
    Approved host (after lifecycle authorization before) pid ∧
    ∀ mid host' session rest, later = mid ++ (host', .sessionStarting session) :: rest →
      session.pid = pid →
      ((after lifecycle authorization (before ++ (host, .authorize pid) :: mid)).sessionStarting
        session).1 ≠ .ok none

/-- A process that a record has was bound to it, and has stayed with it. -/
lemma boundSince {run : List (Host × Operation)} (hpid : pid ≠ 0)
    (h : (after lifecycle authorization run).Carries pid owner id) :
    BoundSince lifecycle authorization run pid id := by
  obtain ⟨before, host, op, later, hrun, ⟨rfl, bound⟩, since⟩ :=
    exists_cause (fun reg => reg.Carries pid owner id)
      (fun ⟨_, hr, _⟩ => absurd hr List.not_mem_nil) (fun _ _ _ _ h => perform_carries hpid h) h
  exact ⟨owner, before, host, later, hrun, bound, since⟩

/-- A helper that may open a session was approved, and has not opened one since. -/
lemma approvedSince {run : List (Host × Operation)}
    (h : pid ∈ (after lifecycle authorization run).helpers) :
    ApprovedSince lifecycle authorization run pid := by
  obtain ⟨before, host, op, later, hrun, ⟨rfl, approved⟩, since⟩ :=
    exists_cause (fun reg => pid ∈ reg.helpers) List.not_mem_nil
      (fun _ _ _ _ h => perform_helpers h) h
  refine ⟨before, host, later, hrun, approved, ?_⟩
  rintro mid host' session rest rfl rfl used
  have still := since (mid ++ [(host', .sessionStarting session)]) ⟨rest, by simp⟩
  -- the session has taken the only approval
  have nodup := (after_reachable lifecycle authorization
    (before ++ (host, .authorize session.pid) :: mid)).helpers_nodup
  rw [← List.cons_append, ← List.append_assoc, after_concat] at still
  have gone : session.pid ∈ ((after lifecycle authorization
      (before ++ (host, .authorize session.pid) :: mid)).sessionStarting session).2.helpers := still
  rw [(sessionStarting_helper used).2] at gone
  exact nodup.not_mem_erase gone

/-- A session that is attached to a record comes from a process that was bound to it and has
belonged to it since, unless the session claims to come from the process zero and the record has no
process. A session that is left alone comes from an approved helper that had no other session since
it was approved, and may have none from then on. -/
theorem sessions_admitted (lifecycle : LifecyclePolicy) (authorization : AuthorizationPolicy)
    (run : List (Host × Operation)) (session : Session) :
    (∀ id, ((after lifecycle authorization run).sessionStarting session).1 = .ok (some id) →
      BoundSince lifecycle authorization run session.pid id ∨
      session.pid = 0 ∧ ∃ r ∈ (after lifecycle authorization run).entries,
        r.id = id ∧ r.pid = 0 ∧ r.state.shown ≠ .running) ∧
    (((after lifecycle authorization run).sessionStarting session).1 = .ok none →
      ApprovedSince lifecycle authorization run session.pid ∧
      session.pid ∈ (after lifecycle authorization run).helpers ∧
      session.pid ∉ ((after lifecycle authorization run).sessionStarting session).2.helpers) := by
  refine ⟨fun id attached => ?_, fun alone => ?_⟩
  · obtain ⟨r, hr, hid, hpid, idle⟩ := sessionStarting_attached attached
    by_cases nobody : session.pid = 0
    · exact .inr ⟨nobody, r, hr, hid, hpid.trans nobody, idle⟩
    · exact .inl (boundSince nobody ⟨r, hr, rfl, hid, hpid⟩)
  · obtain ⟨approved, used⟩ := sessionStarting_helper alone
    rw [used]
    have nodup := (after_reachable lifecycle authorization run).helpers_nodup
    exact ⟨approvedSince approved, approved, nodup.not_mem_erase⟩

/-- A machine whose controller knows of no process, and on which every process is the keyboard. -/
def hostOfKeyboard : Host :=
  { Host.willing with
    hasProcess := fun _ _ => false
    commandLine := fun _ => .ok ⟨["maliit-server"]⟩ }

/-- The clock is launched; then its process 7 asks to open a session, and the keyboard does. -/
def admissions : List (Host × Operation) :=
  [(.willing, .start ⟨"clock"⟩ []), (.willing, .authorize 7), (hostOfKeyboard, .authorize 8)]

/-- Both sessions are let in, and for good reasons. -/
theorem admissions_granted :
    ((after .standard .standard admissions).sessionStarting windowOfClock).1 =
      .ok (some ⟨"clock"⟩) ∧
    BoundSince .standard .standard admissions 7 ⟨"clock"⟩ ∧
    ((after .standard .standard admissions).sessionStarting { windowOfClock with pid := 8 }).1 =
      .ok none ∧
    ApprovedSince .standard .standard admissions 8 := by
  have attached : ((after .standard .standard admissions).sessionStarting windowOfClock).1 =
      .ok (some ⟨"clock"⟩) := rfl
  have alone : ((after .standard .standard admissions).sessionStarting
      { windowOfClock with pid := 8 }).1 = .ok none := rfl
  have clock := (sessions_admitted .standard .standard admissions windowOfClock).1 _ attached
  have keyboard := (sessions_admitted .standard .standard admissions
    { windowOfClock with pid := 8 }).2 alone
  exact ⟨attached, clock.resolve_right fun nobody => by simp [windowOfClock] at nobody, alone,
    keyboard.1⟩

/-- A session that claims to come from the process zero is attached to the clock, whose process is
not known yet, although nothing was ever authorized. -/
theorem session_of_no_process_attached :
    ((after .standard .standard [(.willing, .start ⟨"clock"⟩ [])]).sessionStarting
      { windowOfClock with pid := 0 }).1 = .ok (some ⟨"clock"⟩) ∧
    ¬BoundSince .standard .standard [(.willing, .start ⟨"clock"⟩ [])] 0 ⟨"clock"⟩ := by
  refine ⟨rfl, ?_⟩
  rintro ⟨owner, before, host, later, hrun, -, -⟩
  have among : (host, Operation.authorize 0) ∈
      [(Host.willing, Operation.start ⟨"clock"⟩ [])] := by
    rw [hrun]
    simp
  have same := congrArg Prod.snd (List.mem_singleton.mp among)
  cases same

end Registry

end AppLifecycle
