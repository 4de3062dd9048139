import AppLifecycle.Proofs.Registry.History
import AppLifecycle.Proofs.Registry.Reconciliation

/-!
# No active application is frozen

Whatever shells, processes and sessions do, and in whatever order: an application that is to go on
has not been left with a process that the controller was asked to suspend. Each operation is checked
against what was frozen before it (`Tempers`); where an incarnation begins, nothing was.
-/

namespace AppLifecycle

namespace Registry

variable {host : Host} {op : Operation} {reg reg' reg'' : Registry} {front back : List Record}
variable {r q : Record} {s : Scene} {f : Scene → Scene} {id : AppId} {frozen : AppId → Bool}
variable {history : List Moment}

/-- What is frozen accords with the states of the records. -/
def Accords (frozen : AppId → Bool) (reg : Registry) : Prop :=
  ∀ r ∈ reg.entries, r.Accords (frozen r.id)

/-- What is frozen after the effects between two registries accords with the records. -/
def Tempers (frozen : AppId → Bool) (reg reg' : Registry) : Prop :=
  ∃ effects, reg'.journal = reg.journal ++ effects ∧
    ∀ q ∈ reg'.entries, q.Accords (freezeAll q.id (frozen q.id) effects)

lemma Tempers.trans (h : Tempers frozen reg reg')
    (h' : ∀ frozen', reg'.Accords frozen' → Tempers frozen' reg' reg'') :
    Tempers frozen reg reg'' := by
  obtain ⟨effects, journal, accords⟩ := h
  obtain ⟨effects', journal', accords'⟩ :=
    h' (fun id => freezeAll id (frozen id) effects) accords
  refine ⟨effects ++ effects', ?_, fun q hq => ?_⟩
  · rw [journal', journal, List.append_assoc]
  · rw [freezeAll_append]
    exact accords' q hq

/-- Effects that no process is touched by. -/
lemma Tempers.of_quiet (accords : reg'.Accords frozen) {effects : List Effect}
    (journal : reg'.journal = reg.journal ++ effects)
    (quiet : ∀ id b, freezeAll id b effects = b) : Tempers frozen reg reg' := by
  refine ⟨effects, journal, fun q hq => ?_⟩
  rw [quiet]
  exact accords q hq

lemma Tempers.of_journal (accords : reg'.Accords frozen) (journal : reg'.journal = reg.journal) :
    Tempers frozen reg reg' :=
  .of_quiet accords (by rw [journal, List.append_nil]) fun _ _ => rfl

/-! ## The steps -/

lemma tempers_evict (accords : reg.Accords frozen) (entries : reg.entries = front ++ r :: back) :
    Tempers frozen reg (reg.evict front r back) := by
  have others : (reg.evict front r back).Accords frozen := by
    intro q hq
    exact accords q (mem_of_mem_append entries hq)
  -- the record is let go with its session, and that is all that is noted
  have finished : ∃ effects, (reg.scene r).finish.2 = reg.journal ++ effects ∧
      ∀ id b, freezeAll id b effects = b := by
    unfold Scene.finish Scene.letGoSession
    dsimp only
    split
    · exact ⟨[], (List.append_nil _).symm, fun _ _ => rfl⟩
    · exact ⟨_, rfl, fun _ _ => rfl⟩
  obtain ⟨effects, journal, quiet⟩ := finished
  exact .of_quiet others journal quiet

lemma tempers_settle (distinct : (reg.entries.map Record.id).Nodup) (accords : reg.Accords frozen)
    (entries : reg.entries = front ++ r :: back)
    (tempered : (reg.scene r).Tempered (frozen r.id) s) :
    Tempers frozen reg (reg.settle front r back s) := by
  obtain ⟨b, ⟨id, effects, journal, own, others⟩, after⟩ := tempered
  have placed : Tempers frozen reg (reg.place front r back s) := by
    refine ⟨effects, journal, fun q hq => ?_⟩
    obtain hq | rfl := mem_place hq
    · rw [entries] at distinct
      have other : q.id ≠ r.id := (nodup_map_split distinct).2 q hq
      rw [others q.id other]
      exact accords q (mem_of_mem_append entries hq)
    · have own : freezeAll r.id (frozen r.id) effects = b := own
      have same : s.record.id = r.id := id
      rw [same, own]
      exact after
  unfold settle
  split
  · exact placed.trans fun frozen' accords' => tempers_evict accords' rfl
  · exact placed

/-- A new record is that of an application whose process is not frozen. -/
lemma newcomer_accords {descriptor : Descriptor} {arguments : List String} {exempt : Bool}
    (introduction : Introduction op f) :
    (reg.newcomer host descriptor arguments exempt f).record.Accords false := by
  obtain ⟨pid, stage, record⟩ := introduction.newcomer host reg descriptor arguments exempt
  rw [record]
  have unknown : ProcessState.unknown ≠ .suspended := by decide
  exact Record.accords_of_awake unknown

lemma tempers_tick (orderly : Orderly reg) (accords : reg.Accords frozen) (now : Instant) :
    Tempers frozen reg (reg.tick host now) := by
  have both : Orderly (reg.tick host now) ∧ Tempers frozen reg (reg.tick host now) := by
    refine tick_invariant (I := fun seen => Orderly seen ∧ Tempers frozen reg seen) now
      ⟨orderly, .of_journal accords rfl⟩ ?_
    rintro seen front r back place ⟨orderly', tempers⟩
    have same := Scene.tick_sameIdentity host now (seen.scene r)
    refine ⟨orderly'.settle place.entries same, tempers.trans fun frozen' accords' => ?_⟩
    have accords : (seen.scene r).record.Accords (frozen' r.id) := accords' r place.mem
    exact tempers_settle orderly'.distinct accords' place.entries
      (Scene.tick_tempered host now accords)
  exact both.2

/-- What an operation does to a record leaves its process in accord with its state, if where the
record starts over the process is not frozen. -/
lemma Treatment.tempered (h : Treatment host reg op r f) {b : Bool} (accords : r.Accords b)
    (awake : r.Awake)
    (restarted : reportsStart op = true → r.state = .stoppedResumable →
      (f (reg.scene r)).record.state = .starting → b = false) :
    (reg.scene r).Tempered b (f (reg.scene r)) := by
  have accords : (reg.scene r).record.Accords b := accords
  cases h with
  | close _ => exact Scene.close_tempered host accords awake
  | suspend _ _ => exact Scene.request_tempered host .suspended accords
  | resume _ _ => exact Scene.request_tempered host .running accords
  | resumeRequested _ _ => exact Scene.request_tempered host .running accords
  | setExempt exempt _ => exact Scene.setExempt_tempered host exempt accords
  | setStage stage _ => exact Scene.setStage_tempered stage accords
  | updateScreenshot _ => exact .of_standing accords ((Scene.Leads.refl _ b).update rfl) rfl
  | tick now => exact Scene.tick_tempered host now accords
  | started _ _ =>
    refine Scene.onProcess_tempered host .running accords fun _ gone news => ?_
    exact restarted rfl gone (Scene.onProcess_running_state host (.inr ⟨gone, news⟩))
  | failed _ _ =>
    refine (Scene.onProcess_tempered host .failed accords fun no => by cases no).trans ?_
    exact fun c accords' => .of_standing accords' ((Scene.Leads.refl _ c).update rfl) rfl
  | ended _ _ => exact Scene.onProcess_tempered host .stopped accords fun no => by cases no
  | suspended _ => exact Scene.onProcess_tempered host .suspended accords fun no => by cases no
  | attach session _ _ _ _ => exact Scene.attach_tempered session accords
  | reported _ state _ _ _ _ => exact Scene.hear_tempered host state accords

/-! ## Where incarnations begin -/

lemma incarnates_of_new (new : ∀ r ∈ reg.entries, r.owner ≠ q.owner) :
    incarnates op reg q = true := by
  have none : reg.entries.find? (·.owner = q.owner) = none :=
    List.find?_eq_none.mpr fun r hr same => new r hr (of_decide_eq_true same)
  unfold incarnates
  rw [none]

/-- An owner tells its record from the others. -/
lemma find?_owner (distinct : (reg.entries.map Record.owner).Nodup) (hr : r ∈ reg.entries)
    (same : q.owner = r.owner) : reg.entries.find? (·.owner = q.owner) = some r := by
  cases hfind : reg.entries.find? (·.owner = q.owner) with
  | none =>
    have missed := List.find?_eq_none.mp hfind r hr
    exact absurd (decide_eq_true same.symm) missed
  | some p =>
    have found := List.find?_some hfind
    have twin : p.owner = r.owner := (of_decide_eq_true found).trans same
    rw [List.inj_on_of_nodup_map distinct (List.mem_of_find?_eq_some hfind) hr twin]

lemma incarnates_of_restart (distinct : (reg.entries.map Record.owner).Nodup)
    (hr : r ∈ reg.entries) (same : q.owner = r.owner) (hop : reportsStart op = true)
    (gone : r.state = .stoppedResumable) (starting : q.state = .starting) :
    incarnates op reg q = true := by
  have found := find?_owner distinct hr same
  unfold incarnates
  rw [found, hop, starting]
  dsimp only
  rw [gone]
  rfl

lemma newcomer_new (shares : Shares reg) {descriptor : Descriptor} {arguments : List String}
    {exempt : Bool} (introduction : Introduction op f) :
    ∀ r ∈ reg.entries,
      r.owner ≠ (reg.newcomer host descriptor arguments exempt f).record.owner := by
  intro r hr same
  rw [(introduction.sameIdentity host reg descriptor arguments exempt).owner] at same
  have number : r.owner.number = reg.nextOwner := congrArg WakelockOwner.number same
  have older := shares.fresh r hr
  omega

lemma accords_welcome {descriptor : Descriptor} {arguments : List String} {exempt : Bool}
    (introduction : Introduction op f) (accords : reg.Accords frozen)
    (thawed : frozen (reg.newcomer host descriptor arguments exempt f).record.id = false) :
    (reg.welcome (reg.newcomer host descriptor arguments exempt f)).Accords frozen := by
  intro q hq
  obtain rfl | hq := List.mem_cons.mp hq
  · rw [thawed]
    exact newcomer_accords introduction
  · exact accords q hq

/-- A launch does no harm to any record. -/
lemma accords_start {b : Bool} (h : r.Accords b) (id : AppId) (args : List String) :
    r.Accords (freezeAll r.id b [.call (.start id args)]) := by
  by_cases hid : id = r.id
  · simpa [freezeAll, Effect.freeze, hid] using h.thaw
  · simpa [freezeAll, Effect.freeze, hid] using h

lemma thawed_start {b : Bool} (h : b = false) (other : AppId) (args : List String) :
    freezeAll id b [.call (.start other args)] = false := by
  rw [h]
  exact Bool.and_false _

lemma tempers_treat (orderly : Orderly reg) (shares : Shares reg)
    (awake : ∀ r ∈ reg.entries, r.Awake) (accords : reg.Accords frozen)
    (place : Located reg front r back) (treatment : Treatment host reg op r f)
    (begun : reportsStart op = true → ∀ q ∈ (reg.settle front r back (f (reg.scene r))).entries,
      incarnates op reg q = true → frozen q.id = false) :
    Tempers frozen reg (reg.settle front r back (f (reg.scene r))) := by
  have same := (treatment.moves (reg.scene r)).sameIdentity
  refine tempers_settle orderly.distinct accords place.entries ?_
  refine treatment.tempered (accords r place.mem) (awake r place.mem) fun hop gone starting => ?_
  -- the record is still there, and an incarnation has begun
  have running : (f (reg.scene r)).record.state ≠ .stopped := by
    rw [starting]
    decide
  have restarts := incarnates_of_restart shares.distinct place.mem same.owner hop gone starting
  have thawed := begun hop _ (mem_settle_self running) restarts
  rw [same.id] at thawed
  exact thawed

/-! ## Operations -/

/-- An authorization asks the controller for nothing, and changes no state. -/
lemma Binding.tempers {pid : Nat} (shares : Shares reg) (accords : reg.Accords frozen)
    (binding : Binding host reg pid q reg')
    (begun : ∀ q ∈ reg'.entries, incarnates (.authorize pid) reg q = true → frozen q.id = false) :
    Tempers frozen reg reg' := by
  have told : ∀ {front back : List Record} {r : Record}, reg.entries = front ++ r :: back →
      Tempers frozen reg { reg with entries := front ++ { r with pid } :: back } := by
    intro front back r entries
    refine .of_journal (fun c hc => ?_) rfl
    obtain rfl | hc := mem_middle_iff.mp hc
    · have before := accords r (entries ▸ List.mem_append_right _ List.mem_cons_self)
      exact before.of_same rfl rfl
    · exact accords c (mem_of_mem_append entries hc)
  cases binding with
  | confirmed entries _ _ => exact told entries
  | hinted place _ _ => exact told place.entries
  | created arguments side _ _ _ =>
    have introduction : Introduction (.authorize pid) (Scene.identify pid side) :=
      .identified pid side
    have thawed := begun _ List.mem_cons_self
      (incarnates_of_new (newcomer_new shares introduction))
    exact .of_journal (accords_welcome introduction accords thawed) (newcomer_journal introduction)

/-- A process that was not asked for is that of a new record, which goes on to start. -/
lemma tempers_appear (orderly : Orderly reg) (shares : Shares reg) (accords : reg.Accords frozen)
    {given : AppId} {descriptor : Descriptor} {exempt : Bool}
    (fresh : ∀ q ∈ reg.entries, q.id ≠ descriptor.id)
    (new : s = reg.newcomer host descriptor [] exempt fun s => s)
    (begun : ∀ q ∈ (((reg.welcome s).emit [.focusRequested given.normalized]).settle [] s.record
        reg.entries (Scene.onProcess host .running
          (((reg.welcome s).emit [.focusRequested given.normalized]).scene s.record))).entries,
      incarnates (.process (.starting given)) reg q = true → frozen q.id = false) :
    Tempers frozen reg (((reg.welcome s).emit [.focusRequested given.normalized]).settle []
      s.record reg.entries (Scene.onProcess host .running
        (((reg.welcome s).emit [.focusRequested given.normalized]).scene s.record))) := by
  have introduction : Introduction (.process (.starting given)) fun s => s := .launched _
  have starting : s.record.state = .starting := by
    rw [new, newcomer_launched]
    rfl
  have newest : ∀ r ∈ reg.entries, r.owner ≠ s.record.owner := by
    rw [new]
    exact newcomer_new shares introduction
  have distinct : ((reg.welcome s).entries.map Record.id).Nodup := by
    rw [new]
    exact (orderly.welcome [] exempt introduction fresh).distinct
  have journal : s.journal = reg.journal := by
    rw [new]
    exact newcomer_journal introduction
  have welcomed : frozen s.record.id = false → (reg.welcome s).Accords frozen := by
    rw [new]
    exact accords_welcome introduction accords
  generalize hseen : (reg.welcome s).emit [.focusRequested given.normalized] = seen at begun ⊢
  have goesOn : (Scene.onProcess host .running (seen.scene s.record)).record.state = .starting :=
    Scene.onProcess_running_state host (.inl starting)
  have same : Record.SameIdentity s.record
      (Scene.onProcess host .running (seen.scene s.record)).record :=
    Scene.onProcess_sameIdentity host .running (seen.scene s.record)
  -- the record is still there, and an incarnation has begun
  have thawed : frozen s.record.id = false := by
    rw [← same.owner] at newest
    have thawed := begun _ (mem_settle_self (by rw [goesOn]; decide)) (incarnates_of_new newest)
    rw [same.id] at thawed
    exact thawed
  subst hseen
  have tracked : Tempers frozen reg ((reg.welcome s).emit [.focusRequested given.normalized]) :=
    .of_journal (welcomed thawed) journal
  refine tracked.trans fun frozen' accords' => tempers_settle distinct accords' rfl ?_
  have accords : s.record.Accords (frozen' s.record.id) := accords' s.record List.mem_cons_self
  refine Scene.onProcess_tempered host .running accords fun _ gone => ?_
  exact absurd (starting.symm.trans gone) (by decide)

lemma Course.tempers (faithful : host.Faithful) (orderly : Orderly reg) (shares : Shares reg)
    (awake : ∀ r ∈ reg.entries, r.Awake) (accords : reg.Accords frozen)
    (course : Course host op reg reg')
    (begun : ∀ q ∈ reg'.entries, incarnates op reg q = true → frozen q.id = false) :
    Tempers frozen reg reg' := by
  cases course with
  | idle => exact .of_journal accords rfl
  | note note =>
    cases note with
    | unlaunched _ => exact ⟨_, rfl, fun q hq => accords_start (accords q hq) _ _⟩
    | trusted _ _ => exact .of_quiet accords rfl fun _ _ => rfl
    | helper _ => exact .of_quiet accords rfl fun _ _ => rfl
    | intruder _ => exact .of_quiet accords rfl fun _ _ => rfl
  | announce _ => exact .of_journal accords rfl
  | treat place treatment =>
    exact tempers_treat orderly shares awake accords place treatment fun _ => begun
  | @relaunch _ front back r given place hid gone =>
    have still : Located (reg.emit [.focusRequested r.id]) front r back :=
      ⟨place.entries, place.first⟩
    have treated : Tempers frozen (reg.emit [.focusRequested r.id])
        ((reg.emit [.focusRequested r.id]).settle front r back
          (Scene.onProcess host .running (reg.scene r))) :=
      tempers_treat ⟨orderly.distinct, orderly.flagged, orderly.present⟩
        ⟨shares.nodup, shares.distinct, shares.fresh, shares.mem_iff⟩ awake accords still
        (.started hid (.inl gone)) fun _ => begun
    exact treated
  | finish place hid news left _ =>
    have ended : Tempers frozen reg (reg.settle _ _ _ (Scene.onProcess host .stopped _)) :=
      tempers_treat orderly shares awake accords place (.ended hid news) fun no => by cases no
    exact ended.trans fun frozen' accords' => tempers_evict accords' left.entries
  | @launch _ given args descriptor untracked known =>
    have introduction : Introduction (.start given args) fun s => s := .launched _
    have called : Shares (reg.call (.start given.normalized args)) :=
      ⟨shares.nodup, shares.distinct, shares.fresh, shares.mem_iff⟩
    have thawed := begun _ List.mem_cons_self
      (incarnates_of_new (newcomer_new called introduction))
    have launched : (reg.call (.start given.normalized args)).Accords
        fun id => freezeAll id (frozen id) [.call (.start given.normalized args)] :=
      fun q hq => accords_start (accords q hq) _ _
    exact ⟨_, newcomer_journal introduction,
      accords_welcome introduction launched (thawed_start thawed _ _)⟩
  | bind binding => exact binding.tempers shares accords begun
  | @appear _ given descriptor s untracked known hid new =>
    have fresh : ∀ q ∈ reg.entries, q.id ≠ descriptor.id := by
      rw [hid]
      exact indexOf_eq_none.mp untracked
    exact tempers_appear orderly shares accords fresh new begun
  | stray _ known hid => exact absurd (faithful _ _ known) hid
  | raise place _ =>
    obtain ⟨entries, events, frame⟩ := raise_frame reg _ _ _
    refine .of_journal (fun q hq => ?_) (by rw [frame])
    exact accords q ((raise_perm place.entries).mem_iff.mp hq)
  | @focus _ front back r _ place _ _ =>
    obtain ⟨entries, events, raised⟩ := raise_frame reg front r back
    obtain ⟨entries', events', passed⟩ := (reg.raise front r back).passFocus_frame r.id
    have kept : (reg.raise front r back).Accords frozen :=
      fun q hq => accords q ((raise_perm place.entries).mem_iff.mp hq)
    refine .of_journal ?_ ?_
    · exact forall_passFocus (fun _ _ accords => accords.of_same rfl rfl) r.id kept
    · rw [passed, raised]
  | tick now => exact tempers_tick orderly accords now

/-- What is frozen according to its history accords with the states of a registry's records. -/
lemma Chronicled.accords (h : Chronicled reg history) :
    reg.Accords fun id => isFrozen id history := by
  induction h with
  | empty _ _ => exact fun _ hr => absurd hr List.not_mem_nil
  | takeEvents _ ih => exact ih
  | takeJournal _ ih => exact ih
  | @perform reg history host op before faithful ih =>
    have reachable := before.reachable
    -- what begins with the operation is not frozen from then on
    let begun := ((reg.perform host op).2.entries.filter (incarnates op reg)).map Record.id
    have thawed : reg.Accords fun id => isFrozen id (history ++ begun.map .begun) := by
      intro r hr
      show r.Accords (isFrozen r.id (history ++ begun.map .begun))
      rw [isFrozen_begun]
      split
      · exact (ih r hr).thaw
      · exact ih r hr
    have fresh : ∀ q ∈ (reg.perform host op).2.entries, incarnates op reg q = true →
        isFrozen q.id (history ++ begun.map .begun) = false := by
      intro q hq incarnates
      rw [isFrozen_begun, if_pos]
      exact List.mem_map_of_mem (List.mem_filter.mpr ⟨hq, incarnates⟩)
    obtain ⟨effects, journal, accords⟩ := (perform_course host op reg).tempers faithful
      reachable.orderly reachable.shares reachable.awake thawed fresh
    intro q hq
    have done : (reg.perform host op).2.journal.drop reg.journal.length = effects := by
      rw [journal, List.drop_left]
    show q.Accords (isFrozen q.id (history ++ (begun.map .begun ++ _)))
    rw [← List.append_assoc, done, isFrozen_effects]
    exact accords q hq

/-- In every reachable registry, the controller was not last asked to suspend the process of an
application that is active, as far as its current incarnation goes. For one that is being closed it
may have been, but then the report that the process has been suspended, on which it is woken, is
still to come. -/
theorem active_not_frozen (h : Chronicled reg history) :
    ∀ r ∈ reg.entries,
      (r.state.isActive = true → lastHold r.id history ≠ some (.called (.suspend r.id))) ∧
      (r.state = .closing → lastHold r.id history ≠ some (.called (.suspend r.id)) ∨
        r.process ≠ .suspended) := by
  intro r hr
  have accords : r.Accords (isFrozen r.id history) := h.accords r hr
  refine ⟨fun active => ?_, fun closing => ?_⟩
  · exact of_decide_eq_false (accords.active active).1
  · unfold Record.Accords at accords
    rw [closing] at accords
    by_cases held : lastHold r.id history = some (.called (.suspend r.id))
    · exact .inr (accords (decide_eq_true held))
    · exact .inl held

/-- After the errand the session of the clock has been suspended, so that its process is to be; but
then the clock is closed. -/
def farewell : List (Host × Operation) :=
  errand ++ [.sessionState windowOfClock.id .suspended, .stop ⟨"clock"⟩].map (Prod.mk .willing)

/-- The clock is frozen while it is being closed, and its process is still said to run. -/
theorem active_not_frozen_at_farewell :
    ((after .standard .standard farewell).entries.map fun r => (r.id, r.state, r.process)) =
      [(⟨"notes"⟩, .starting, .unknown), (⟨"clock"⟩, .closing, .running)] ∧
    lastHold ⟨"clock"⟩ ((empty .standard .standard).chronicle farewell) =
      some (.called (.suspend ⟨"clock"⟩)) ∧
    ∀ r ∈ (after .standard .standard farewell).entries,
      (r.state.isActive = true → lastHold r.id ((empty .standard .standard).chronicle farewell) ≠
        some (.called (.suspend r.id))) ∧
      (r.state = .closing → lastHold r.id ((empty .standard .standard).chronicle farewell) ≠
        some (.called (.suspend r.id)) ∨ r.process ≠ .suspended) := by
  have chronicled : Chronicled (after .standard .standard farewell)
      ((empty .standard .standard).chronicle farewell) := by
    refine (Chronicled.empty .standard .standard).performAll fun x hx => ?_
    obtain hx | hx := List.mem_append.mp hx <;> obtain ⟨op, -, rfl⟩ := List.mem_map.mp hx <;>
      exact Host.willing_faithful
  exact ⟨by decide, by decide, active_not_frozen chronicled⟩

end Registry

end AppLifecycle
