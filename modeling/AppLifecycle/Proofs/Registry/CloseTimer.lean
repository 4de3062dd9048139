import AppLifecycle.Proofs.Registry.Orderly
import AppLifecycle.Proofs.Registry.Orders

/-!
# The close timer of an application

While an application is closing, the first tick that reaches its deadline orders it to be ended, and
no other tick does. What one tick does to all records is said first (`tick_entries`): ticks look at
the records one by one, but where ids are distinct, they look at each record that is closing once.
From it follows how the timer stands at any time since the application began to close
(`ClosingSince.timer`).
-/

namespace AppLifecycle

/-- A tick that reaches a deadline. -/
def Operation.reaches (deadline : Instant) : Operation → Bool
  | .tick now => decide (deadline ≤ now)
  | _ => false

namespace Record

/-- The close timer of the record has expired. -/
def due (now : Instant) (r : Record) : Bool := (r.timer.poll now).1

/-- The record once its close timer has been looked at. -/
def polled (now : Instant) (r : Record) : Record := { r with timer := (r.timer.poll now).2 }

variable {now : Instant} {r : Record}

lemma due_iff :
    r.due now = true ↔ ∃ deadline, r.timer.deadline = some deadline ∧ deadline ≤ now := by
  unfold due CloseTimer.poll
  cases r.timer.deadline with
  | none => simp
  | some deadline =>
    by_cases reached : deadline ≤ now
    · simp [reached]
    · simp [reached]

/-- A timer that expires is stopped. -/
lemma polled_deadline : (r.polled now).timer.deadline =
    r.timer.deadline.filter fun deadline => !(Operation.tick now).reaches deadline := by
  unfold polled CloseTimer.poll
  cases harmed : r.timer.deadline with
  | none => exact harmed
  | some deadline =>
    by_cases reached : deadline ≤ now
    · simp [Operation.reaches, reached, CloseTimer.cancel, Option.filter_some]
    · simp [Operation.reaches, reached, harmed, Option.filter_some]

lemma isArmed_of_due (h : r.due now = true) : r.timer.isArmed = true := by
  obtain ⟨deadline, armed, -⟩ := due_iff.mp h
  unfold CloseTimer.isArmed
  rw [armed]
  rfl

lemma due_of_unarmed (h : r.timer.isArmed = false) : r.due now = false :=
  Bool.eq_false_iff.mpr fun due => Bool.eq_false_iff.mp h (isArmed_of_due due)

lemma polled_of_fresh (h : r.due now = false) : r.polled now = r := by
  unfold due CloseTimer.poll at h
  unfold polled CloseTimer.poll
  cases armed : r.timer.deadline with
  | none => rfl
  | some deadline =>
    rw [armed] at h
    dsimp only at h ⊢
    split
    · rename_i reached
      rw [if_pos reached] at h
      cases h
    · rfl

lemma polled_of_unarmed (h : r.timer.isArmed = false) : r.polled now = r :=
  polled_of_fresh (due_of_unarmed h)

end Record

namespace Registry

variable {P : Host → Prop} {host : Host} {op : Operation} {reg : Registry} {now : Instant}
variable {front back : List Record} {r q : Record} {id : AppId} {lifecycle : LifecyclePolicy}
variable {authorization : AuthorizationPolicy}

/-! ## One tick -/

/-- The record that a tick looks at goes on, whether its timer has expired or not. -/
lemma look_record (host : Host) (now : Instant) (reg : Registry) (timed : r.Timed) :
    ((reg.scene r).tick host now).2.record = r.polled now := by
  obtain same | ⟨starting, stopped⟩ := Scene.tick_record host now (reg.scene r)
  · exact same
  · -- nothing is due for a record that is not closing
    have starting : r.state = .starting := starting
    have unarmed : r.timer.isArmed = false := by
      refine timed.unarmed ?_
      rw [starting]
      decide
    have fresh : (r.timer.poll now).1 = false := Record.due_of_unarmed unarmed
    unfold Scene.tick
    dsimp only
    rw [show (reg.scene r).record = r from rfl, fresh]
    rfl

lemma look_eq (host : Host) (now : Instant) (place : Located reg front r back) (timed : r.Timed)
    (tracked : r.state ≠ .stopped) :
    (reg.withRecord r.id (Scene.tick host now)).2.entries = front ++ r.polled now :: back ∧
    (reg.withRecord r.id (Scene.tick host now)).2.orders =
      reg.orders ++ if r.due now then [.stop r.id] else [] := by
  have record := look_record host now reg timed
  have goesOn : ((reg.scene r).tick host now).2.record.state ≠ .stopped := by
    rw [record]
    exact tracked
  rw [withRecord_eq place]
  refine ⟨?_, ?_⟩
  · unfold settle
    rw [if_neg goesOn]
    show front ++ _ :: back = _
    rw [record]
  · rw [settle_orders]
    exact Scene.tick_orders host now (reg.scene r)

/-- The records that are still to be looked at are as they were when the tick began. -/
lemma foldl_look (host : Host) (now : Instant) (waiting : List Record)
    (nodup : (waiting.map Record.id).Nodup) (distinct : (reg.entries.map Record.id).Nodup)
    (tracked : ∀ r ∈ waiting, r ∈ reg.entries ∧ r.Timed ∧ r.state ≠ .stopped) :
    (waiting.foldl (fun reg r => (reg.withRecord r.id (Scene.tick host now)).2) reg).entries =
      reg.entries.map (fun r => if r ∈ waiting then r.polled now else r) ∧
    (waiting.foldl (fun reg r => (reg.withRecord r.id (Scene.tick host now)).2) reg).orders =
      reg.orders ++ (waiting.filter (Record.due now)).map fun r => .stop r.id := by
  -- on the records to be looked at, in any registry that has them as they were at first
  induction waiting generalizing reg with
  | nil => simp
  | cons r waiting ih =>
    rw [List.map_cons, List.nodup_cons] at nodup
    obtain ⟨hr, timed, running⟩ := tracked r List.mem_cons_self
    obtain ⟨front, c, back, place, hid⟩ := exists_located_of_mem hr
    obtain rfl : c = r := List.inj_on_of_nodup_map distinct place.mem hr hid
    obtain ⟨entries, orders⟩ := look_eq host now place timed running
    have apart : ∀ q ∈ front ++ back, q.id ≠ c.id := by
      have split := distinct
      rw [place.entries] at split
      exact (nodup_map_split split).2
    have others : ∀ q ∈ waiting, q ≠ c ∧ q ≠ c.polled now := by
      intro q hq
      have unequal : q.id ≠ c.id :=
        fun same => nodup.1 (by rw [← same]; exact List.mem_map_of_mem hq)
      exact ⟨fun same => unequal (by rw [same]), fun same => unequal (by rw [same]; rfl)⟩
    rw [List.foldl_cons]
    generalize (reg.withRecord c.id (Scene.tick host now)).2 = looked at entries orders ⊢
    have ids : looked.entries.map Record.id = reg.entries.map Record.id := by
      rw [entries, place.entries, List.map_append, List.map_append]
      rfl
    obtain ⟨entries', orders'⟩ := ih nodup.2 (by rw [ids]; exact distinct) (by
      intro q hq
      obtain ⟨hmem, rest⟩ := tracked q (List.mem_cons_of_mem _ hq)
      refine ⟨?_, rest⟩
      rw [place.entries, mem_middle_iff] at hmem
      rw [entries, mem_middle_iff]
      exact .inr (hmem.resolve_left (others q hq).1))
    refine ⟨?_, ?_⟩
    · -- the record that was looked at is not looked at again
      have later : c.polled now ∉ waiting := fun hq => (others _ hq).2 rfl
      have rest : ∀ q ∈ front ++ back, (q ∈ c :: waiting ↔ q ∈ waiting) := by
        intro q hq
        rw [List.mem_cons]
        exact or_iff_right fun same => apart q hq (by rw [same])
      rw [entries', entries, place.entries]
      simp only [List.map_append, List.map_cons, List.mem_cons_self, if_pos, if_neg later]
      congr 1
      · refine List.map_congr_left fun q hq => ?_
        simp only [rest q (List.mem_append_left _ hq)]
      · congr 1
        refine List.map_congr_left fun q hq => ?_
        simp only [rest q (List.mem_append_right _ hq)]
    · rw [orders', orders, List.filter_cons, List.append_assoc]
      split <;> rfl

/-- A tick looks at every close timer once, and changes nothing else of the records. -/
theorem tick_entries (host : Host) (now : Instant) (orderly : Orderly reg)
    (timed : ∀ r ∈ reg.entries, r.Timed) (tracked : ∀ r ∈ reg.entries, r.state ≠ .stopped) :
    (reg.tick host now).entries = reg.entries.map (Record.polled now) ∧
    reg.ordered host (.tick now) =
      (reg.entries.filter (Record.due now)).map fun r => .stop r.id := by
  have sublist : ((reg.entries.filter (·.timer.isArmed)).map Record.id).Nodup :=
    orderly.distinct.sublist (List.filter_sublist.map _)
  obtain ⟨entries, orders⟩ := foldl_look host now (reg.entries.filter (·.timer.isArmed)) sublist
    orderly.distinct fun r hr =>
      have hr := List.mem_of_mem_filter hr
      ⟨hr, timed r hr, tracked r hr⟩
  have ticked : reg.tick host now = (reg.entries.filter (·.timer.isArmed)).foldl
      (fun reg r => (reg.withRecord r.id (Scene.tick host now)).2) reg := by
    unfold tick
    exact List.foldl_map
  -- a record whose timer does not run is not looked at, which would make no difference to it
  refine ⟨?_, ordered_eq ?_⟩
  · rw [ticked, entries]
    refine List.map_congr_left fun r hr => ?_
    split
    · rfl
    · rename_i unarmed
      refine (Record.polled_of_unarmed ?_).symm
      simpa [hr] using unarmed
  · show (reg.tick host now).orders = _
    rw [ticked, orders, List.filter_filter]
    congr 2
    refine List.filter_congr fun r _ => ?_
    cases due : r.due now with
    | true => rw [Record.isArmed_of_due due]; rfl
    | false => rfl

/-! ## The time to close -/

lemma settle_lifecycle (reg : Registry) (front : List Record) (r : Record) (back : List Record)
    (s : Scene) : (reg.settle front r back s).lifecycle = reg.lifecycle := by
  unfold settle
  split <;> rfl

lemma Step.lifecycle_eq (step : Step host op reg reg') : reg'.lifecycle = reg.lifecycle := by
  cases step with
  | treat _ _ => exact settle_lifecycle _ _ _ _ _
  | raise _ _ =>
    obtain ⟨entries, events, frame⟩ := raise_frame reg _ _ _
    rw [frame]
  | focus _ _ _ =>
    obtain ⟨entries, events, frame⟩ := passFocus_frame reg _
    rw [frame]
  | _ => rfl

lemma perform_lifecycle (host : Host) (op : Operation) (reg : Registry) :
    (reg.perform host op).2.lifecycle = reg.lifecycle :=
  Steps.invariant (I := fun seen => seen.lifecycle = reg.lifecycle)
    (fun _ _ step same => step.lifecycle_eq.trans same) (perform_steps host op reg) rfl

lemma after_lifecycle (run : List (Host × Operation)) :
    (after lifecycle authorization run).lifecycle = lifecycle := by
  induction run using List.reverseRecOn with
  | nil => rfl
  | append_singleton run x ih =>
    rw [after_concat, perform_lifecycle]
    exact ih

/-- Whatever becomes of a record, its application has the same time to close. -/
lemma Fate.timeout (h : Fate host op reg r q) (timed : r.Timed) (grounded : r.Grounded) :
    q.timer.timeout = r.timer.timeout := by
  by_cases hop : ∃ now, op = .tick now
  · cases h with
    | kept _ => rfl
    | bound _ _ _ => rfl
    | ticked _ _ _ htimer => rcases htimer with rfl | rfl <;> rfl
    | treated untimed _ _ _ _ => exact absurd hop fun ⟨now, same⟩ => untimed now same
  · rw [h.timer (fun now same => hop ⟨now, same⟩) timed grounded]
    split
    · split <;> rfl
    · rfl

theorem Reachable.timeout (h : Reachable P reg) :
    ∀ r ∈ reg.entries, r.timer.timeout = reg.lifecycle.closeTimeout := by
  induction h with
  | empty _ _ => exact fun _ hr => absurd hr List.not_mem_nil
  | @perform reg host op before _ ih =>
    intro q hq
    rw [perform_lifecycle]
    obtain ⟨r, hr, fate⟩ | born := perform_origin _ op hq
    · rw [fate.timeout (before.timed r hr) (before.grounded r hr), ih r hr]
    · rw [born.timer]
      rfl
  | takeEvents _ ih => exact ih
  | takeJournal _ ih => exact ih

/-! ## As long as an application is closing -/

/-- A record of the application is closing. -/
def Closing (reg : Registry) (id : AppId) : Prop :=
  ∃ r ∈ reg.entries, r.id = id ∧ r.state = .closing

instance (reg : Registry) (id : AppId) : Decidable (reg.Closing id) :=
  inferInstanceAs (Decidable (∃ r ∈ reg.entries, r.id = id ∧ r.state = .closing))

/-- With the operation `op`, which comes after the run `before`, an application begins to close, and
it has been closing ever since, while `later` was done. -/
structure ClosingSince (lifecycle : LifecyclePolicy) (authorization : AuthorizationPolicy)
    (id : AppId) (before : List (Host × Operation)) (host : Host) (op : Operation)
    (later : List (Host × Operation)) : Prop where
  begins : ¬(after lifecycle authorization before).Closing id
  lasts : ∀ mid, mid <+: later →
    (after lifecycle authorization (before ++ (host, op) :: mid)).Closing id

/-- An application that is closing after a run began to at some time. -/
lemma exists_closingSince {run : List (Host × Operation)}
    (h : (after lifecycle authorization run).Closing id) :
    ∃ before host op later, run = before ++ (host, op) :: later ∧
      ClosingSince lifecycle authorization id before host op later := by
  have step : ∀ (reg : Registry) host op, Reachable (fun _ => True) reg →
      (reg.perform host op).2.Closing id → reg.Closing id ∨ ¬reg.Closing id :=
    fun reg _ _ _ _ => Decidable.em _
  obtain ⟨before, host, op, later, hrun, begins, lasts⟩ := @exists_cause
    (fun reg => reg.Closing id) (fun reg _ _ => ¬reg.Closing id) lifecycle authorization
    (fun ⟨_, hr, _⟩ => absurd hr List.not_mem_nil) step run h
  exact ⟨before, host, op, later, hrun, begins, lasts⟩

/-- The time by which an application has to be closed that begins to close with an operation. -/
def deadline (lifecycle : LifecyclePolicy) (host : Host) : Instant :=
  host.now.add lifecycle.closeTimeout

/-- What a run with faithful descriptors leads to. -/
lemma after_faithful {run : List (Host × Operation)} (faithful : ∀ x ∈ run, x.1.Faithful) :
    Reachable Host.Faithful (after lifecycle authorization run) :=
  (Reachable.empty lifecycle authorization).performAll faithful

/-- The record that begins to close has its timer started. -/
lemma timer_of_begin (reachable : Reachable P reg) (begins : ¬reg.Closing id)
    (hr : r ∈ (reg.perform host op).2.entries) (hid : r.id = id) (closing : r.state = .closing) :
    r.timer.deadline = some (deadline reg.lifecycle host) := by
  obtain ⟨q, hq, fate⟩ | born := perform_origin host op hr
  · have idle : q.state ≠ .closing := fun same => begins ⟨q, hq, fate.id.symm.trans hid, same⟩
    by_cases hop : ∃ now, op = .tick now
    · -- a tick changes no state
      obtain ⟨now, rfl⟩ := hop
      cases fate with
      | kept _ => exact absurd closing idle
      | bound _ _ _ => exact absurd closing idle
      | ticked _ _ _ _ => exact absurd closing idle
      | treated untimed _ _ _ _ => exact absurd rfl (untimed now)
    · have timer := fate.timer (fun now same => hop ⟨now, same⟩) (reachable.timed q hq)
        (reachable.grounded q hq)
      rw [timer, if_pos closing, if_neg idle]
      show some (host.now.add q.timer.timeout) = _
      rw [reachable.timeout q hq]
      rfl
  · rw [born.state] at closing
    cases closing

/-- Where ids are distinct, a record of an application that is closing before and after an
operation has its timer looked at if the operation is a tick, and otherwise left alone. -/
lemma timer_of_step (reachable : Reachable Host.Faithful reg) (hr : r ∈ reg.entries)
    (before : r.state = .closing) (hq : q ∈ (reg.perform host op).2.entries) (hid : q.id = r.id)
    (closing : q.state = .closing) :
    q.timer.deadline = r.timer.deadline.filter fun deadline => !op.reaches deadline := by
  have same : ∀ c ∈ reg.entries, q.id = c.id → c = r := fun c hc hcid =>
    List.inj_on_of_nodup_map reachable.orderly.distinct hc hr (hcid.symm.trans hid)
  by_cases hop : ∃ now, op = .tick now
  · obtain ⟨now, rfl⟩ := hop
    obtain ⟨entries, -⟩ := tick_entries host now reachable.orderly reachable.timed
      reachable.running
    have hq : q ∈ (reg.tick host now).entries := hq
    rw [entries] at hq
    obtain ⟨c, hc, rfl⟩ := List.mem_map.mp hq
    rw [same c hc rfl]
    exact Record.polled_deadline
  · have untimed : ∀ now, op ≠ .tick now := fun now same => hop ⟨now, same⟩
    obtain ⟨c, hc, fate⟩ | born := perform_origin host op hq
    · obtain rfl := same c hc fate.id
      have timer := fate.timer untimed (reachable.timed c hc) (reachable.grounded c hc)
      have misses : ∀ deadline, op.reaches deadline = false := by
        intro deadline
        cases op with
        | tick now => exact absurd rfl (untimed now)
        | _ => rfl
      rw [timer, if_pos closing, if_pos before]
      cases c.timer.deadline <;> simp [misses, Option.filter_some]
    · rw [born.state] at closing
      cases closing

/-- The timer runs until a tick reaches the deadline, and is stopped from then on. -/
theorem ClosingSince.timer {before later : List (Host × Operation)}
    (since : ClosingSince lifecycle authorization id before host op later)
    (faithful : ∀ x ∈ before ++ (host, op) :: later, x.1.Faithful)
    (hr : r ∈ (after lifecycle authorization (before ++ (host, op) :: later)).entries)
    (hid : r.id = id) (closing : r.state = .closing) :
    r.timer.deadline =
      if later.any (·.2.reaches (deadline lifecycle host)) then none
      else some (deadline lifecycle host) := by
  induction later using List.reverseRecOn generalizing r with
  | nil =>
    have reachable : Reachable Host.Faithful (after lifecycle authorization before) :=
      after_faithful fun x hx => faithful x (List.mem_append_left _ hx)
    rw [after_concat] at hr
    have begun := timer_of_begin reachable since.begins hr hid closing
    rw [after_lifecycle] at begun
    exact begun
  | append_singleton later x ih =>
    obtain ⟨host', op'⟩ := x
    have split : before ++ (host, op) :: (later ++ [(host', op')]) =
        (before ++ (host, op) :: later) ++ [(host', op')] := by simp
    rw [split] at hr faithful
    rw [after_concat] at hr
    have shorter : ClosingSince lifecycle authorization id before host op later :=
      ⟨since.begins, fun mid hmid => since.lasts mid (hmid.trans (List.prefix_append _ _))⟩
    have faithful' : ∀ x ∈ before ++ (host, op) :: later, x.1.Faithful :=
      fun x hx => faithful x (List.mem_append_left _ hx)
    obtain ⟨c, hc, hcid, before'⟩ := shorter.lasts later (List.prefix_refl _)
    have known := ih shorter faithful' hc hcid before'
    have timer := timer_of_step (after_faithful faithful') hc before' hr (hid.trans hcid.symm)
      closing
    rw [timer, known, List.any_append]
    by_cases reached : later.any (·.2.reaches (deadline lifecycle host)) = true
    · simp [reached]
    · cases hreaches : op'.reaches (deadline lifecycle host) with
      | true => simp [reached, hreaches, Option.filter_some]
      | false => simp [reached, hreaches, Option.filter_some]

/-! ## The order to end an application -/

/-- Where ids are distinct, an application gets the order once if its record is due. -/
lemma count_stop (distinct : (reg.entries.map Record.id).Nodup) (hr : r ∈ reg.entries) :
    ((reg.entries.filter (Record.due now)).map fun q => ControllerCall.stop q.id).count
      (.stop r.id) = if r.due now then 1 else 0 := by
  have others : ∀ l : List Record, (∀ q ∈ l, q.id ≠ r.id) →
      ((l.filter (Record.due now)).map fun q => ControllerCall.stop q.id).count (.stop r.id) =
        0 := by
    intro l hl
    refine List.count_eq_zero_of_not_mem fun hmem => ?_
    obtain ⟨q, hq, same⟩ := List.mem_map.mp hmem
    exact hl q (List.mem_of_mem_filter hq) (ControllerCall.stop.inj same)
  obtain ⟨front, back, entries⟩ := List.append_of_mem hr
  rw [entries] at distinct
  have apart := (nodup_map_split distinct).2
  rw [entries, List.filter_append, List.map_append, List.count_append,
    others front fun q hq => apart q (List.mem_append_left _ hq), List.filter_cons]
  split
  · rw [List.map_cons, List.count_cons_self,
      others back fun q hq => apart q (List.mem_append_right _ hq)]
  · rw [others back fun q hq => apart q (List.mem_append_right _ hq)]

/-- How often a tick orders an application to be ended that has been closing: once if it is the
first one to reach the deadline, and never otherwise. -/
theorem ClosingSince.count_stop {before mid later : List (Host × Operation)}
    (since : ClosingSince lifecycle authorization id before host op later) (hmid : mid <+: later)
    (faithful : ∀ x ∈ before ++ (host, op) :: later, x.1.Faithful) (ticking : Host)
    (now : Instant) :
    ((after lifecycle authorization (before ++ (host, op) :: mid)).ordered ticking
      (.tick now)).count (.stop id) =
      if deadline lifecycle host ≤ now ∧ mid.any (·.2.reaches (deadline lifecycle host)) = false
      then 1 else 0 := by
  have soFar : ClosingSince lifecycle authorization id before host op mid :=
    ⟨since.begins, fun first hfirst => since.lasts first (hfirst.trans hmid)⟩
  have faithful' : ∀ x ∈ before ++ (host, op) :: mid, x.1.Faithful := by
    intro x hx
    refine faithful x ?_
    obtain hx | hx := List.mem_append.mp hx
    · exact List.mem_append_left _ hx
    · exact List.mem_append_right _ ((List.cons_prefix_cons.mpr ⟨rfl, hmid⟩).subset hx)
  have reachable : Reachable Host.Faithful
      (after lifecycle authorization (before ++ (host, op) :: mid)) := after_faithful faithful'
  obtain ⟨r, hr, hid, closing⟩ := since.lasts mid hmid
  have timer := soFar.timer faithful' hr hid closing
  obtain ⟨-, ordered⟩ := tick_entries ticking now reachable.orderly reachable.timed
    reachable.running
  rw [ordered, ← hid, Registry.count_stop reachable.orderly.distinct hr]
  congr 1
  rw [Record.due_iff, timer]
  by_cases reached : mid.any (·.2.reaches (deadline lifecycle host)) = true
  · simp [reached]
  · simp [reached]

/-- Of the operations that reach a deadline, one is the first, and it is a tick. -/
lemma exists_first_tick {deadline : Instant} {later : List (Host × Operation)}
    (h : later.any (·.2.reaches deadline) = true) :
    ∃ mid ticking now rest, later = mid ++ (ticking, .tick now) :: rest ∧ deadline ≤ now ∧
      mid.any (·.2.reaches deadline) = false := by
  obtain ⟨x, hx⟩ := Option.isSome_iff_exists.mp (List.find?_isSome.mpr (List.any_eq_true.mp h))
  obtain ⟨reached, mid, rest, split, missed⟩ := List.find?_eq_some_iff_append.mp hx
  obtain ⟨ticking, op⟩ := x
  cases op with
  | tick now =>
    refine ⟨mid, ticking, now, rest, split, of_decide_eq_true reached, ?_⟩
    exact List.any_eq_false.mpr fun y hy => by simpa using missed y hy
  | _ => cases reached

/-- After every run, only an application that is closing has its close timer running. One that is
closing began to with some operation, and has been since; its timer runs until the first tick that
reaches the deadline, which orders the application to be ended, as no other tick does. A tick gives
that order for applications only that are closing and due, and none begins or ceases to close with
a tick. -/
theorem close_timer_fires_once (lifecycle : LifecyclePolicy) (authorization : AuthorizationPolicy)
    (run : List (Host × Operation)) (faithful : ∀ x ∈ run, x.1.Faithful) :
    (∀ r ∈ (after lifecycle authorization run).entries,
      r.timer.isArmed = true → r.state = .closing) ∧
    (∀ r ∈ (after lifecycle authorization run).entries, r.state = .closing →
      ∃ before host op later, run = before ++ (host, op) :: later ∧
        ClosingSince lifecycle authorization r.id before host op later ∧
        r.timer.deadline = (if later.any (·.2.reaches (deadline lifecycle host)) then none
          else some (deadline lifecycle host)) ∧
        (∀ mid ticking now rest, later = mid ++ (ticking, .tick now) :: rest →
          ((after lifecycle authorization (before ++ (host, op) :: mid)).ordered ticking
            (.tick now)).count (.stop r.id) =
            if deadline lifecycle host ≤ now ∧
              mid.any (·.2.reaches (deadline lifecycle host)) = false then 1 else 0) ∧
        (r.timer.isArmed = false →
          ∃ mid ticking now rest, later = mid ++ (ticking, .tick now) :: rest ∧
            .stop r.id ∈ (after lifecycle authorization (before ++ (host, op) :: mid)).ordered
              ticking (.tick now))) ∧
    ∀ ticking now id,
      (.stop id ∈ (after lifecycle authorization run).ordered ticking (.tick now) →
        ∃ r ∈ (after lifecycle authorization run).entries,
          r.id = id ∧ r.state = .closing ∧ r.due now = true) ∧
      (((after lifecycle authorization run).perform ticking (.tick now)).2.Closing id ↔
        (after lifecycle authorization run).Closing id) := by
  have reachable : Reachable Host.Faithful (after lifecycle authorization run) :=
    after_faithful faithful
  refine ⟨reachable.timed, fun r hr closing => ?_, fun ticking now id => ?_⟩
  · obtain ⟨before, host, op, later, rfl, since⟩ := exists_closingSince ⟨r, hr, rfl, closing⟩
    have timer := since.timer faithful hr rfl closing
    refine ⟨before, host, op, later, rfl, since, timer, ?_, fun unarmed => ?_⟩
    · rintro mid ticking now rest rfl
      exact since.count_stop (List.prefix_append _ _) faithful ticking now
    · have reached : later.any (·.2.reaches (deadline lifecycle host)) = true := by
        unfold CloseTimer.isArmed at unarmed
        rw [timer] at unarmed
        by_contra missed
        rw [if_neg missed] at unarmed
        cases unarmed
      obtain ⟨mid, ticking, now, rest, rfl, hnow, first⟩ := exists_first_tick reached
      have count := since.count_stop (List.prefix_append mid _) faithful ticking now
      rw [if_pos ⟨hnow, first⟩] at count
      refine ⟨mid, ticking, now, rest, rfl, List.count_pos_iff.mp ?_⟩
      omega
  · obtain ⟨entries, ordered⟩ := tick_entries ticking now reachable.orderly reachable.timed
      reachable.running
    refine ⟨fun stop => ?_, ?_⟩
    · rw [ordered] at stop
      obtain ⟨r, hr, same⟩ := List.mem_map.mp stop
      obtain ⟨hr, due⟩ := List.mem_filter.mp hr
      exact ⟨r, hr, ControllerCall.stop.inj same,
        reachable.timed r hr (Record.isArmed_of_due due), due⟩
    · show (∃ r ∈ ((after lifecycle authorization run).tick ticking now).entries, _) ↔ _
      rw [entries]
      simp [Closing, Record.polled]

/-- The clock is running when it is closed, and does not mind. The third second is over when the
second tick comes. -/
def overdue : List (Host × Operation) :=
  [.start ⟨"clock"⟩ [], .process (.starting ⟨"clock"⟩), .authorize 7,
    .sessionStarting windowOfClock, .sessionState windowOfClock.id .running, .stop ⟨"clock"⟩,
    .tick ⟨2999999999⟩, .tick ⟨3000000000⟩, .tick ⟨3000000001⟩].map (Prod.mk .willing)

lemma overdue_faithful : ∀ x ∈ overdue, x.1.Faithful := by
  intro x hx
  obtain ⟨op, -, rfl⟩ := List.mem_map.mp hx
  exact Host.willing_faithful

/-- The second tick orders the clock to be ended, and the others do not. -/
theorem close_timer_fires_once_for_clock :
    (∀ x ∈ overdue, x.1.Faithful) ∧
    ((after .standard .standard overdue).entries.map fun r =>
      (r.id, r.state, r.timer.isArmed)) = [(⟨"clock"⟩, .closing, false)] ∧
    (∃ before host op later, overdue = before ++ (host, op) :: later ∧
      ClosingSince .standard .standard ⟨"clock"⟩ before host op later ∧
      ∃ mid ticking now rest, later = mid ++ (ticking, .tick now) :: rest ∧
        .stop ⟨"clock"⟩ ∈ (after .standard .standard (before ++ (host, op) :: mid)).ordered
          ticking (.tick now)) ∧
    (after .standard .standard (overdue.take 6)).ordered .willing (.tick ⟨2999999999⟩) = [] ∧
    (after .standard .standard (overdue.take 7)).ordered .willing (.tick ⟨3000000000⟩) =
      [.stop ⟨"clock"⟩] ∧
    (after .standard .standard (overdue.take 8)).ordered .willing (.tick ⟨3000000001⟩) = [] := by
  have one : ∃ r, (after .standard .standard overdue).entries = [r] ∧ r.id = ⟨"clock"⟩ ∧
      r.state = .closing ∧ r.timer.isArmed = false := ⟨_, rfl, by decide, by decide, by decide⟩
  obtain ⟨r, entries, hid, closing, unarmed⟩ := one
  have hr : r ∈ (after .standard .standard overdue).entries := by simp [entries]
  obtain ⟨-, stay, -⟩ := close_timer_fires_once .standard .standard overdue overdue_faithful
  obtain ⟨before, host, op, later, hrun, since, -, -, fired⟩ := stay r hr closing
  rw [hid] at since fired
  exact ⟨overdue_faithful, by decide, ⟨before, host, op, later, hrun, since, fired unarmed⟩,
    by decide, by decide, by decide⟩

end Registry

end AppLifecycle
