import AppLifecycle.Proofs.Registry.Orders
import AppLifecycle.Proofs.Scene.Relaunch

/-!
# Applications that can be launched again and have a session

When an application stops that can be launched again, its session ends with it, and until it is
launched there is nothing for a session to be opened for. Yet a session is attached to whatever
record has its process and is not shown to run, and such a record may have kept its process
(`Occupies`). There is no other way for it to have a session, and it keeps one that it has.
-/

namespace AppLifecycle

namespace Record

/-- The application can be launched again, but has a session already. -/
def Occupied (session : Session) (r : Record) : Prop :=
  r.state = .stoppedResumable ∧ r.session = some session

/-- The application has no session if it can be launched again. -/
def Vacant (r : Record) : Prop := r.state = .stoppedResumable → r.session = none

instance (r : Record) : Decidable r.Vacant :=
  inferInstanceAs (Decidable (r.state = .stoppedResumable → r.session = none))

variable {r q : Record} {session : Session}

lemma Occupied.of_rests (h : q.Occupied session) (rests : r.Rests q) : r.Occupied session :=
  ⟨rests.state.symm.trans h.1, rests.session.symm.trans h.2⟩

lemma vacant_iff_forall : r.Vacant ↔ ∀ session, ¬r.Occupied session := by
  constructor
  · rintro vacant session ⟨gone, attached⟩
    exact absurd ((vacant gone).symm.trans attached) (Option.some_ne_none session).symm
  · intro free gone
    exact Option.eq_none_iff_forall_ne_some.mpr fun session attached =>
      free session ⟨gone, attached⟩

end Record

namespace Scene

variable {host : Host} {s : Scene} {session : Session}

lemma onProcess_occupied (host : Host) {process : ProcessState} (known : process ≠ .unknown)
    (h : (s.onProcess host process).record.Occupied session) : s.record.Occupied session := by
  obtain rests | ⟨gone, -⟩ := onProcess_rests host known h.1
  · exact h.of_rests rests
  · exact ⟨gone, (onProcess_session host process s).symm.trans h.2⟩

/-- The end of its session leaves a record without one, if the record can be launched again. -/
lemma hear_stopped_vacant (host : Host) (s : Scene) : (s.hear host .stopped).record.Vacant := by
  intro gone
  by_cases suspending : s.record.state = .suspendingWaitProcess ∧ s.record.process ≠ .failed
  · obtain state | state := hear_stopped_closes host suspending.1 suspending.2
    · rw [state] at gone
      cases gone
    · rw [state] at gone
      cases gone
  · exact (hear_stopped_over host suspending).2.2

end Scene

namespace Registry

variable {P : Host → Prop} {host : Host} {op : Operation} {reg : Registry}
variable {front back : List Record} {r q : Record} {s : Scene} {f : Scene → Scene}
variable {owner : WakelockOwner} {session : Session} {lifecycle : LifecyclePolicy}
variable {authorization : AuthorizationPolicy}

/-- No application that can be launched again has a session. -/
def Vacant (reg : Registry) : Prop := ∀ r ∈ reg.entries, r.Vacant

instance (reg : Registry) : Decidable reg.Vacant :=
  inferInstanceAs (Decidable (∀ r ∈ reg.entries, r.Vacant))

/-- The operation opens a session for an application that can be launched again. -/
def Occupies (reg : Registry) (owner : WakelockOwner) : Operation → Prop
  | .sessionStarting session =>
    ∃ r, reg.expecting session = some r ∧ r.owner = owner ∧ r.state = .stoppedResumable
  | _ => False

/-! ## The beginning of a session -/

lemma Treatment.occupied (h : Treatment host reg op r f) (untimed : ∀ now, op ≠ .tick now)
    (opens : ∀ session, op ≠ .sessionStarting session) (hs : s.record = r)
    (occupied : (f s).record.Occupied session) : r.Occupied session := by
  subst hs
  cases h with
  | close _ => exact occupied.of_rests (Scene.close_rests host occupied.1)
  | suspend _ _ => exact occupied.of_rests (Scene.request_rests host occupied.1)
  | resume _ _ => exact occupied.of_rests (Scene.request_rests host occupied.1)
  | resumeRequested _ _ => exact occupied.of_rests (Scene.request_rests host occupied.1)
  | setExempt exempt _ =>
    exact occupied.of_rests (Scene.rests_of_standing (s.setExempt_standing host exempt))
  | setStage stage _ =>
    exact occupied.of_rests (Scene.rests_of_standing (s.setStage_standing stage))
  | updateScreenshot _ => exact occupied
  | tick now => exact absurd rfl (untimed now)
  | started _ _ => exact Scene.onProcess_occupied host (by decide) occupied
  | failed _ _ =>
    have failed : (s.onProcess host .failed).record.Occupied session := occupied
    exact Scene.onProcess_occupied host (by decide) failed
  | ended _ _ => exact Scene.onProcess_occupied host (by decide) occupied
  | suspended _ => exact Scene.onProcess_occupied host (by decide) occupied
  | attach session _ _ _ _ => exact absurd rfl (opens session)
  | reported _ state _ _ _ _ =>
    by_cases stopped : state = .stopped
    · subst stopped
      exact absurd occupied (Record.vacant_iff_forall.mp (s.hear_stopped_vacant host) session)
    · exact occupied.of_rests (Scene.hear_rests host stopped occupied.1)

/-- An application that can be launched again had its session before, and could be launched again
then, or the session has just been opened for it. -/
lemma perform_occupied (host : Host) (hq : q ∈ (reg.perform host op).2.entries)
    (occupied : q.Occupied session) :
    (∃ r ∈ reg.entries, r.owner = q.owner ∧ r.Occupied session) ∨
    op = .sessionStarting session ∧ reg.Occupies q.owner op := by
  by_cases opens : ∃ session, op = .sessionStarting session
  · obtain ⟨opened, rfl⟩ := opens
    have hq : q ∈ (reg.sessionStarting opened).2.entries := hq
    obtain ⟨-, same⟩ | ⟨front, r, back, place, expected, changed⟩ := sessionStarting_eq reg opened
    · rw [same] at hq
      exact .inl ⟨q, hq, rfl, occupied⟩
    · rw [changed] at hq
      obtain hq | ⟨rfl, -⟩ := mem_settle hq
      · exact .inl ⟨q, place.mem_of_mem_append hq, rfl, occupied⟩
      · obtain ⟨-, state, attached, -⟩ := (reg.scene r).attach_standing opened
        have moves : Scene.Moves host (reg.scene r) ((reg.scene r).attach opened) :=
          (Scene.Moves.refl _).attach opened
        obtain rfl : opened = session := Option.some.inj (attached.symm.trans occupied.2)
        exact .inr ⟨rfl, r, expected, moves.sameIdentity.owner.symm,
          state.symm.trans occupied.1⟩
  · obtain ⟨r, hr, fate⟩ | born := perform_origin host op hq
    · refine .inl ⟨r, hr, fate.owner.symm, ?_⟩
      cases fate with
      | kept _ => exact occupied
      | bound _ _ _ => exact occupied
      | ticked _ _ _ _ => exact occupied
      | treated untimed _ treatment hs _ =>
        exact treatment.occupied untimed (fun session hop => opens ⟨session, hop⟩) hs occupied
    · have starting := born.state
      rw [occupied.1] at starting
      cases starting

/-- Such a session is attached. -/
lemma not_vacant_of_occupies (host : Host) (h : reg.Occupies owner op) :
    ¬(reg.perform host op).2.Vacant := by
  cases op with
  | sessionStarting session =>
    obtain ⟨c, expects, -, gone⟩ := h
    obtain ⟨nobody, -⟩ | ⟨front, r, back, place, expected, changed⟩ :=
      sessionStarting_eq reg session
    · rw [nobody] at expects
      cases expects
    · obtain rfl : r = c := Option.some.inj (expected.symm.trans expects)
      obtain ⟨-, state, attached, -⟩ := (reg.scene r).attach_standing session
      have goesOn : ((reg.scene r).attach session).record.state = .stoppedResumable :=
        state.trans gone
      intro vacant
      have hq : ((reg.scene r).attach session).record ∈
          (reg.perform host (.sessionStarting session)).2.entries := by
        show _ ∈ (reg.sessionStarting session).2.entries
        rw [changed]
        refine mem_settle_self ?_
        rw [goesOn]
        decide
      exact Record.vacant_iff_forall.mp (vacant _ hq) session ⟨goesOn, attached⟩
  | _ => exact h.elim

/-- An operation leaves the applications that can be launched again without sessions exactly if it
does not open one for them. -/
theorem perform_vacant_iff (host : Host) (op : Operation) (h : reg.Vacant) :
    (reg.perform host op).2.Vacant ↔ ∀ owner, ¬reg.Occupies owner op := by
  constructor
  · exact fun vacant owner occupies => not_vacant_of_occupies host occupies vacant
  · intro free q hq
    refine Record.vacant_iff_forall.mpr fun session occupied => ?_
    obtain ⟨r, hr, -, before⟩ | ⟨-, occupies⟩ := perform_occupied host hq occupied
    · exact Record.vacant_iff_forall.mp (h r hr) session before
    · exact free q.owner occupies

/-! ## What it comes to -/

/-- Along a run, no application that can be launched again has a session at any time, exactly if
none is opened for one. An application has no session when it comes to be one that can be launched
again; and if it has one later, that session was opened for it when it could be launched again, and
it has both been so and had the session ever since. -/
theorem vacant_iff (lifecycle : LifecyclePolicy) (authorization : AuthorizationPolicy)
    (ops : List (Host × Operation)) :
    ((∀ run, run <+: ops → (after lifecycle authorization run).Vacant) ↔
      ∀ run host op, run ++ [(host, op)] <+: ops →
        ∀ owner, ¬(after lifecycle authorization run).Occupies owner op) ∧
    (∀ host op, ∀ q ∈ ((after lifecycle authorization ops).perform host op).2.entries,
      q.state = .stoppedResumable →
      (∀ r ∈ (after lifecycle authorization ops).entries, r.owner = q.owner →
        r.state ≠ .stoppedResumable) → q.session = none) ∧
    ∀ r ∈ (after lifecycle authorization ops).entries, ∀ session, r.Occupied session →
      ∃ before host later, ops = before ++ (host, .sessionStarting session) :: later ∧
        (after lifecycle authorization before).Occupies r.owner (.sessionStarting session) ∧
        ∀ mid, mid <+: later → ∃ q ∈ (after lifecycle authorization
            (before ++ (host, .sessionStarting session) :: mid)).entries,
          q.owner = r.owner ∧ q.Occupied session := by
  refine ⟨⟨fun vacant run host op hrun => ?_, fun kept run => ?_⟩,
    fun host op q hq gone other => ?_, fun r hr session occupied => ?_⟩
  · have before := vacant run ((List.prefix_append _ _).trans hrun)
    have next := vacant _ hrun
    rw [after_concat] at next
    exact (perform_vacant_iff host op before).mp next
  · intro hrun
    have empty : (Registry.empty lifecycle authorization).Vacant :=
      fun _ hr => absurd hr List.not_mem_nil
    refine forall_prefix_foldl empty (fun run x hx before => ?_) hrun
    exact (perform_vacant_iff x.1 x.2 before).mpr (kept run x.1 x.2 hx)
  · -- a session that the application has then it had before, or has just got, as one of those
    refine Option.eq_none_iff_forall_ne_some.mpr fun session attached => ?_
    obtain ⟨r, hr, owner, before⟩ | ⟨rfl, r, expects, owner, before⟩ :=
      perform_occupied host hq ⟨gone, attached⟩
    · exact other r hr owner before.1
    · obtain ⟨c, -, found⟩ := Option.bind_eq_some_iff.mp expects
      exact other r (List.mem_of_find?_eq_some found) owner before
  · have opened : ∀ reg host op, Reachable (fun _ => True) reg →
        (∃ q ∈ (reg.perform host op).2.entries, q.owner = r.owner ∧ q.Occupied session) →
        (∃ q ∈ reg.entries, q.owner = r.owner ∧ q.Occupied session) ∨
          op = .sessionStarting session ∧ reg.Occupies r.owner op := by
      rintro reg host op - ⟨q, hq, same, occupied⟩
      rw [← same]
      exact perform_occupied host hq occupied
    obtain ⟨before, host, op, later, rfl, ⟨rfl, occupies⟩, since⟩ := exists_cause
      (fun reg => ∃ q ∈ reg.entries, q.owner = r.owner ∧ q.Occupied session)
      (fun ⟨_, no, _⟩ => absurd no List.not_mem_nil) opened ⟨r, hr, rfl, occupied⟩
    exact ⟨before, host, later, rfl, occupies, since⟩

/-- The session of the clock ends while the clock is suspended, and the process of the clock, which
is there still, opens it again. -/
def reopening : List (Host × Operation) :=
  [.start ⟨"clock"⟩ [], .process (.starting ⟨"clock"⟩), .authorize 7,
    .sessionStarting windowOfClock, .sessionState windowOfClock.id .running, .suspend ⟨"clock"⟩,
    .sessionState windowOfClock.id .suspended, .process (.suspended ⟨"clock"⟩),
    .sessionClosed windowOfClock.id, .sessionStarting windowOfClock].map (Prod.mk .willing)

/-- The clock has no session as it comes to be launched again, and none until it is opened again;
since then it has one. -/
theorem vacant_until_reopening :
    (∀ run, run <+: reopening.dropLast → (after .standard .standard run).Vacant) ∧
    (∀ run host op, run ++ [(host, op)] <+: reopening.dropLast →
      ∀ owner, ¬(after .standard .standard run).Occupies owner op) ∧
    ((after .standard .standard reopening.dropLast).entries.map fun r => (r.state, r.session)) =
      [(.stoppedResumable, none)] ∧
    ∃ r ∈ (after .standard .standard reopening).entries, r.Occupied windowOfClock ∧
      ∃ before host later, reopening = before ++ (host, .sessionStarting windowOfClock) :: later ∧
        (after .standard .standard before).Occupies r.owner (.sessionStarting windowOfClock) := by
  have vacant : ∀ run ∈ reopening.dropLast.inits, (after .standard .standard run).Vacant := by
    decide
  have kept : ∀ run, run <+: reopening.dropLast → (after .standard .standard run).Vacant :=
    fun run hrun => vacant run ((List.mem_inits run _).mpr hrun)
  have free := (vacant_iff .standard .standard reopening.dropLast).1.mp kept
  have occupied : ∃ r ∈ (after .standard .standard reopening).entries,
      r.Occupied windowOfClock := ⟨_, List.mem_singleton_self _, by decide, by decide⟩
  obtain ⟨r, hr, occupied⟩ := occupied
  obtain ⟨before, host, later, run, occupies, -⟩ :=
    (vacant_iff .standard .standard reopening).2.2 r hr windowOfClock occupied
  exact ⟨kept, free, by decide, r, hr, occupied, before, host, later, run, occupies⟩

/-- After the reopening the clock can be launched again and has a session, which is told to stop.
If the clock is launched then, the end of this session is the end of the clock. -/
theorem clock_keeps_session_of_the_past :
    Reachable Host.Faithful (after .standard .standard reopening) ∧
    ¬(after .standard .standard reopening).Vacant ∧
    ((after .standard .standard reopening).entries.map fun r => (r.state, r.session)) =
      [(.stoppedResumable, some windowOfClock)] ∧
    (after .standard .standard reopening).journal =
      (after .standard .standard reopening.dropLast).journal ++ [.ask windowOfClock .stop] ∧
    ((after .standard .standard (reopening ++ [(.willing, .resume ⟨"clock"⟩)])).entries.map
      Record.state) = [.starting] ∧
    (after .standard .standard (reopening ++ [(.willing, .resume ⟨"clock"⟩),
      (.willing, .sessionClosed windowOfClock.id)])).entries = [] := by
  exact ⟨willing_reachable _, by decide, by decide, by decide, by decide, by decide⟩

end Registry

end AppLifecycle
