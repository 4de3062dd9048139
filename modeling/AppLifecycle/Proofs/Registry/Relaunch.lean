import AppLifecycle.Proofs.Registry.Orders
import AppLifecycle.Proofs.Scene.Relaunch

/-!
# Applications that are launched again

An application that can be launched again is, as soon as it is to be resumed (`Relaunched`), and no
other operation launches an application that has a record. Its process should be gone by then. It
may be there still, if it has outlived the application since the session ended (`OutlivedSince`).
-/

namespace AppLifecycle

/-- The operation says that a session has ended. -/
def Operation.endsSession : Operation → Bool
  | .sessionState _ .stopped => true
  | .sessionClosed _ => true
  | _ => false

namespace Registry

variable {P : Host → Prop} {host : Host} {op : Operation} {reg reg' : Registry}
variable {front back : List Record} {r q : Record} {s : Scene} {f : Scene → Scene} {id : AppId}
variable {owner : WakelockOwner} {lifecycle : LifecyclePolicy}
variable {authorization : AuthorizationPolicy}

/-- The application of a record that can be launched again is launched, and the record goes on with
that. -/
def Relaunched (host : Host) (op : Operation) (reg : Registry) (r : Record) : Prop :=
  r ∈ reg.entries ∧ r.state = .stoppedResumable ∧
    .start r.id r.arguments ∈ reg.ordered host op ∧
    ∀ q ∈ (reg.perform host op).2.entries, q.owner = r.owner → q.state ≠ .stoppedResumable

instance (host : Host) (op : Operation) (reg : Registry) (r : Record) :
    Decidable (Relaunched host op reg r) :=
  inferInstanceAs (Decidable (_ ∧ _ ∧ _ ∧ _))

/-- The operation ends the session of a record that is suspended, or is being suspended, while its
process is there. -/
def Orphans (reg : Registry) (op : Operation) (owner : WakelockOwner) : Prop :=
  ∃ session, (op = .sessionState session .stopped ∨ op = .sessionClosed session) ∧
    ∃ r, reg.attached session = some r ∧ r.owner = owner ∧ r.state.isAsleep = true ∧
      (r.process = .running ∨ r.process = .suspended)

/-- At some time in the run an operation ended the session of a record whose process was there, and
the process has outlived the record ever since. -/
def OutlivedSince (lifecycle : LifecyclePolicy) (authorization : AuthorizationPolicy)
    (run : List (Host × Operation)) (owner : WakelockOwner) : Prop :=
  ∃ before host op later, run = before ++ (host, op) :: later ∧
    (after lifecycle authorization before).Orphans op owner ∧
    ∀ mid, mid <+: later →
      ∃ r ∈ (after lifecycle authorization (before ++ (host, op) :: mid)).entries,
        r.owner = owner ∧ r.Outlived

/-! ## Who is launched again -/

lemma performResume_eq (host : Host) (place : Located reg front r back)
    (hid : r.id = id.normalized) (subject : reg.lifecycle.isExempt id.normalized = false) :
    (reg.perform host (.resume id)).2 =
      reg.settle front r back ((reg.scene r).request host .running) :=
  congrArg Prod.snd (requestState_eq .running place hid subject)

/-- An application that can be launched again, and is to be resumed, is launched. -/
lemma relaunched_of_resume (h : Reachable P reg) (host : Host)
    (subject : reg.lifecycle.isExempt id.normalized = false) (found : reg.find id = some r)
    (gone : r.state = .stoppedResumable) (asleep : r.requested = .suspended) :
    Relaunched host (.resume id) reg r := by
  obtain ⟨front, back, place, hid⟩ := exists_located_of_find found
  have performed := performResume_eq host place hid subject
  have relaunches := Scene.request_relaunches (s := reg.scene r) host (h.timed r place.mem) gone
    asleep
  refine ⟨place.mem, gone, ?_, fun q hq owner => ?_⟩
  · have given : (reg.perform host (.resume id)).2.orders =
        reg.orders ++ [.start r.id r.arguments] := by
      rw [performed, settle_orders]
      exact relaunches.orders
    rw [ordered_eq given]
    exact List.mem_cons_self
  · rw [performed] at hq
    obtain hq | ⟨rfl, -⟩ := mem_settle hq
    · -- no other record has the owner
      have distinct := h.shares.distinct
      rw [place.entries] at distinct
      exact absurd owner ((nodup_map_split distinct).2 q hq)
    · obtain ⟨state, -, -⟩ := Scene.request_respawns (s := reg.scene r) host gone asleep
      obtain state | state := state <;> rw [state] <;> decide

/-- The only operation that launches an application that has a record is its resumption. -/
lemma Reachable.start_cases (h : Reachable P reg) (host : Host) {args : List String}
    (start : .start id args ∈ reg.ordered host op) :
    (∃ given : AppId, op = .start given args ∧ id = given.normalized ∧ reg.find given = none) ∨
    ∃ (given : AppId) (r : Record), op = .resume given ∧
      reg.lifecycle.isExempt given.normalized = false ∧ reg.find given = some r ∧
      r.state = .stoppedResumable ∧ r.requested = .suspended ∧ r.id = id ∧ r.arguments = args := by
  by_cases timed : ∃ now, op = .tick now
  · obtain ⟨now, rfl⟩ := timed
    obtain ⟨ids, given⟩ := tick_orders host now reg
    have told : (reg.perform host (.tick now)).2.orders = reg.orders ++ ids.map .stop := given
    rw [ordered_eq told] at start
    obtain ⟨_, -, no⟩ := List.mem_map.mp start
    cases no
  · have orders : Orders reg op (reg.ordered host op) :=
      h.orders host fun now hop => timed ⟨now, hop⟩
    have kept := start
    generalize reg.ordered host op = given at orders start
    cases orders with
    | none => cases start
    | launch untracked =>
      rw [List.mem_singleton] at start
      cases start
      exact .inl ⟨_, rfl, rfl, find_eq_none untracked⟩
    | finish _ _ _ =>
      rw [List.mem_singleton] at start
      cases start
    | @relaunch front back r given place hid gone asleep =>
      rw [List.mem_singleton] at start
      cases start
      refine .inr ⟨given, r, rfl, ?_, place.find hid, gone, asleep, rfl, rfl⟩
      cases exempt : reg.lifecycle.isExempt given.normalized with
      | false => rfl
      | true =>
        -- nothing is ordered for an exempt application
        have unchanged : (reg.perform host (.resume given)).2 = reg :=
          requestState_exempt host .running exempt
        have silent : (reg.perform host (.resume given)).2.orders = reg.orders ++ [] := by
          rw [unchanged, List.append_nil]
        rw [ordered_eq silent] at kept
        cases kept

/-- The record that is launched again is the one that the resumed id leads to. -/
lemma relaunched_iff (h : Reachable P reg) : Relaunched host op reg r ↔
    ∃ id : AppId, op = .resume id ∧ reg.lifecycle.isExempt id.normalized = false ∧
      reg.find id = some r ∧ r.state = .stoppedResumable ∧ r.requested = .suspended := by
  constructor
  · rintro ⟨hr, gone, start, goesOn⟩
    obtain ⟨given, -, hid, untracked⟩ | ⟨id, c, rfl, subject, found, launched, asleep, -⟩ :=
      h.start_cases host start
    · refine absurd (decide_eq_true hid) ?_
      exact List.find?_eq_none.mp untracked r hr
    · obtain ⟨front, back, place, hid⟩ := exists_located_of_find found
      refine ⟨id, rfl, subject, ?_, gone, ?_⟩
      all_goals
        rw [place.entries] at hr
        obtain rfl | hr := mem_middle_iff.mp hr
        · assumption
        · -- any other record stays as it is
          refine absurd gone (goesOn r ?_ rfl)
          rw [performResume_eq host place hid subject]
          exact mem_settle_of_mem hr
  · rintro ⟨id, rfl, subject, found, gone, asleep⟩
    exact relaunched_of_resume h host subject found gone asleep

/-! ## Who is outlived by its process -/

lemma Treatment.outlived (h : Treatment host reg op r f) (untimed : ∀ now, op ≠ .tick now)
    (goesOn : op.endsSession = false) (hs : s.record = r) (outlived : (f s).record.Outlived) :
    r.Outlived := by
  subst hs
  cases h with
  | close _ => exact outlived.of_rests (Scene.close_rests host outlived.1)
  | suspend _ _ => exact outlived.of_rests (Scene.request_rests host outlived.1)
  | resume _ _ => exact outlived.of_rests (Scene.request_rests host outlived.1)
  | resumeRequested _ _ => exact outlived.of_rests (Scene.request_rests host outlived.1)
  | setExempt exempt _ =>
    exact outlived.of_rests (Scene.rests_of_standing (s.setExempt_standing host exempt))
  | setStage stage _ =>
    exact outlived.of_rests (Scene.rests_of_standing (s.setStage_standing stage))
  | updateScreenshot _ => exact outlived
  | tick now => exact absurd rfl (untimed now)
  | started _ _ => exact Scene.onProcess_outlived host (by decide) outlived
  | failed _ _ =>
    have failed : (s.onProcess host .failed).record.Outlived := outlived
    exact Scene.onProcess_outlived host (by decide) failed
  | ended _ _ => exact Scene.onProcess_outlived host (by decide) outlived
  | suspended _ => exact Scene.onProcess_outlived host (by decide) outlived
  | attach session _ _ _ _ =>
    obtain ⟨-, state, -, process⟩ := s.attach_standing session
    unfold Record.Outlived at outlived ⊢
    rw [state, process] at outlived
    exact outlived
  | reported _ state hop _ _ _ =>
    have report : state ≠ .stopped := by
      rintro rfl
      obtain rfl | ⟨rfl, -⟩ := hop <;> cases goesOn
    exact outlived.of_rests (Scene.hear_rests host report outlived.1)

lemma sessionEnded_outlived (h : Reachable P reg) (host : Host) (session : SessionId)
    (hq : q ∈ (reg.sessionStateChanged host session .stopped).entries) (outlived : q.Outlived) :
    (∃ r ∈ reg.entries, r.owner = q.owner ∧ r.Outlived) ∨
    ∃ r, reg.attached session = some r ∧ r.owner = q.owner ∧ r.state.isAsleep = true ∧
      (r.process = .running ∨ r.process = .suspended) := by
  obtain ⟨-, same⟩ | ⟨front, r, back, place, somebody, changed⟩ :=
    sessionStateChanged_eq host reg session .stopped
  · rw [same] at hq
    exact .inl ⟨q, hq, rfl, outlived⟩
  · rw [changed] at hq
    obtain hq | ⟨rfl, -⟩ := mem_settle hq
    · exact .inl ⟨q, place.mem_of_mem_append hq, rfl, outlived⟩
    · have moves : Scene.Moves host (reg.scene r) ((reg.scene r).hear host .stopped) :=
        (Scene.Moves.refl _).hear .stopped
      have owner : r.owner = ((reg.scene r).hear host .stopped).record.owner :=
        moves.sameIdentity.owner.symm
      obtain before | ended := Scene.hear_stopped_outlived (s := reg.scene r) host
        (h.running r place.mem) outlived
      · exact .inl ⟨r, place.mem, owner, before⟩
      · exact .inr ⟨r, somebody, owner, ended⟩

/-- A record that is outlived by its process was so before, or its session has ended just now. -/
lemma perform_outlived (h : Reachable P reg)
    (outlived : ∃ q ∈ (reg.perform host op).2.entries, q.owner = owner ∧ q.Outlived) :
    (∃ r ∈ reg.entries, r.owner = owner ∧ r.Outlived) ∨ reg.Orphans op owner := by
  obtain ⟨q, hq, rfl, outlived⟩ := outlived
  cases ends : op.endsSession with
  | true =>
    cases op with
    | sessionState session state =>
      have stopped : state = .stopped := by
        cases state <;> first | rfl | cases ends
      subst stopped
      exact (sessionEnded_outlived h host session hq outlived).imp_right fun ended =>
        ⟨session, .inl rfl, ended⟩
    | sessionClosed session =>
      exact (sessionEnded_outlived h host session hq outlived).imp_right fun ended =>
        ⟨session, .inr rfl, ended⟩
    | _ => cases ends
  | false =>
    obtain ⟨r, hr, fate⟩ | born := perform_origin host op hq
    · refine .inl ⟨r, hr, fate.owner.symm, ?_⟩
      cases fate with
      | kept _ => exact outlived
      | bound _ _ _ => exact outlived
      | ticked _ _ _ _ => exact outlived
      | treated untimed _ treatment hs _ => exact treatment.outlived untimed ends hs outlived
    · have starting := born.state
      rw [outlived.1] at starting
      cases starting

/-- A record that is outlived by its process after a run has been since its session ended. -/
lemma outlivedSince {run : List (Host × Operation)}
    (hr : r ∈ (after lifecycle authorization run).entries) (outlived : r.Outlived) :
    OutlivedSince lifecycle authorization run r.owner := by
  obtain ⟨before, host, op, later, hrun, orphans, since⟩ := exists_cause
    (fun reg => ∃ q ∈ reg.entries, q.owner = r.owner ∧ q.Outlived)
    (fun ⟨_, hq, _⟩ => absurd hq List.not_mem_nil)
    (fun _ _ _ reachable h => perform_outlived reachable h) ⟨r, hr, rfl, outlived⟩
  exact ⟨before, host, op, later, hrun, orphans, since⟩

/-! ## What it comes to -/

/-- Every launch of an application is its first one or that of a record that can be launched again,
of whose process nothing is known then. The process that is forgotten was there still exactly if it
has outlived the record since an operation ended the session of the suspended application. -/
theorem relaunched_alive_iff (lifecycle : LifecyclePolicy) (authorization : AuthorizationPolicy)
    (ops : List (Host × Operation)) (host : Host) (op : Operation) (r : Record) (reg : Registry)
    (hreg : reg = after lifecycle authorization ops) :
    (∀ id args, .start id args ∈ reg.ordered host op →
      (∃ given : AppId, op = .start given args ∧ id = given.normalized ∧ reg.find given = none) ∨
      ∃ c, Relaunched host op reg c ∧ c.id = id ∧ c.arguments = args) ∧
    (Relaunched host op reg r → ∀ q ∈ (reg.perform host op).2.entries, q.owner = r.owner →
      q.state = .starting ∧ q.process = .unknown ∧ q.pid = 0) ∧
    (Relaunched host op reg r ∧ r.process.isGone = false ↔
      (∃ id : AppId, op = .resume id ∧ reg.lifecycle.isExempt id.normalized = false ∧
        reg.find id = some r) ∧
      OutlivedSince lifecycle authorization ops r.owner) := by
  have reachable : Reachable (fun _ => True) reg := by
    rw [hreg]
    exact after_reachable lifecycle authorization ops
  refine ⟨fun id args start => ?_, fun relaunched q hq owner => ?_, ?_, ?_⟩
  · obtain first | ⟨given, c, rfl, subject, found, gone, asleep, hid, hargs⟩ :=
      reachable.start_cases host start
    · exact .inl first
    · exact .inr ⟨c, relaunched_of_resume reachable host subject found gone asleep, hid, hargs⟩
  · obtain ⟨id, rfl, subject, found, gone, asleep⟩ := (relaunched_iff reachable).mp relaunched
    obtain ⟨front, back, place, hid⟩ := exists_located_of_find found
    obtain ⟨state, process, pid⟩ := Scene.request_respawns (s := reg.scene r) host gone asleep
    rw [performResume_eq host place hid subject] at hq
    obtain hq | ⟨rfl, goesOn⟩ := mem_settle hq
    · have distinct := reachable.shares.distinct
      rw [place.entries] at distinct
      exact absurd owner ((nodup_map_split distinct).2 q hq)
    · exact ⟨state.resolve_right goesOn, process, pid⟩
  · rintro ⟨relaunched, alive⟩
    obtain ⟨id, hop, subject, found, gone, -⟩ := (relaunched_iff reachable).mp relaunched
    refine ⟨⟨id, hop, subject, found⟩, ?_⟩
    have hr := relaunched.1
    rw [hreg] at hr
    exact outlivedSince hr ⟨gone, alive⟩
  · rintro ⟨⟨id, rfl, subject, found⟩, before, host', op', later, hrun, -, since⟩
    obtain ⟨q, hq, owner, gone, alive⟩ := since later List.prefix_rfl
    rw [← hrun, ← hreg] at hq
    have hr := List.mem_of_find?_eq_some found
    obtain rfl : q = r := List.inj_on_of_nodup_map reachable.shares.distinct hq hr owner
    -- a record that should run already has lost its process
    have asleep : q.requested = .suspended := by
      cases requested : q.requested with
      | suspended => rfl
      | running =>
        rw [reachable.grounded q hq requested gone] at alive
        cases alive
    exact ⟨relaunched_of_resume reachable host subject found gone asleep, alive⟩

/-- The process of the clock fails while the clock is suspended, and its session ends with it. -/
def demise : List (Host × Operation) :=
  [.start ⟨"clock"⟩ [], .process (.starting ⟨"clock"⟩), .authorize 7,
    .sessionStarting windowOfClock, .sessionState windowOfClock.id .running, .suspend ⟨"clock"⟩,
    .sessionState windowOfClock.id .suspended, .process (.suspended ⟨"clock"⟩),
    .process (.failed ⟨"clock"⟩ false), .sessionClosed windowOfClock.id].map (Prod.mk .willing)

/-- After its demise the clock is launched again, in place of a process that is gone. -/
theorem clock_relaunched :
    ∃ r ∈ (after .standard .standard demise).entries,
      Relaunched .willing (.resume ⟨"clock"⟩) (after .standard .standard demise) r ∧
      r.process.isGone = true ∧
      (∀ q ∈ ((after .standard .standard demise).perform .willing (.resume ⟨"clock"⟩)).2.entries,
        q.owner = r.owner → q.state = .starting ∧ q.process = .unknown ∧ q.pid = 0) ∧
      ¬OutlivedSince .standard .standard demise r.owner := by
  have clock : ∃ r ∈ (after .standard .standard demise).entries,
      Relaunched .willing (.resume ⟨"clock"⟩) (after .standard .standard demise) r ∧
      r.process.isGone = true ∧ (after .standard .standard demise).find ⟨"clock"⟩ = some r ∧
      (after .standard .standard demise).lifecycle.isExempt ⟨"clock"⟩ = false := by decide
  obtain ⟨r, hr, relaunched, gone, found, subject⟩ := clock
  obtain ⟨-, anew, iff⟩ :=
    relaunched_alive_iff .standard .standard demise .willing (.resume ⟨"clock"⟩) r _ rfl
  refine ⟨r, hr, relaunched, gone, anew relaunched, fun outlived => ?_⟩
  have alive := (iff.mpr ⟨⟨_, rfl, subject, found⟩, outlived⟩).2
  rw [gone] at alive
  cases alive

/-- The session of the clock ends while the clock is being suspended. -/
def parting : List (Host × Operation) :=
  [.start ⟨"clock"⟩ [], .process (.starting ⟨"clock"⟩), .authorize 7,
    .sessionStarting windowOfClock, .sessionState windowOfClock.id .running, .suspend ⟨"clock"⟩,
    .sessionClosed windowOfClock.id].map (Prod.mk .willing)

/-- After the parting the clock is launched again, in place of a process that is running still. -/
theorem clock_relaunched_over_process :
    Reachable Host.Faithful (after .standard .standard parting) ∧
    (∃ r ∈ (after .standard .standard parting).entries,
      Relaunched .willing (.resume ⟨"clock"⟩) (after .standard .standard parting) r ∧
      r.process = .running ∧ r.pid = 7) ∧
    (after .standard .standard parting).ordered .willing (.resume ⟨"clock"⟩) =
      [.start ⟨"clock"⟩ []] ∧
    (((after .standard .standard parting).perform .willing (.resume ⟨"clock"⟩)).2.entries.map
      fun r => (r.state, r.process, r.pid)) = [(.starting, .unknown, 0)] := by
  refine ⟨(Reachable.empty .standard .standard).performAll fun x hx => ?_, by decide, by decide,
    by decide⟩
  obtain ⟨op, -, rfl⟩ := List.mem_map.mp hx
  exact Host.willing_faithful

end Registry

end AppLifecycle
