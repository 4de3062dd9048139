import AppLifecycle.Proofs.Registry.Origin
import AppLifecycle.Proofs.Registry.Reconciliation

/-!
# Orders of a registry

Which operations order the controller to launch an application or to end it, for which records, and
what operations do to the close timers. Two invariants are behind it: a close timer runs while its
record is closing only, and an application that is to run, but can only be launched again, has lost
its process to a failure, so that no report on its process launches it.
-/

namespace AppLifecycle

namespace Scene

variable {host : Host} {s t : Scene}

lemma InLine.grounded (h : s.InLine t) (grounded : s.record.Grounded) : t.record.Grounded := by
  obtain same | done := h
  · obtain ⟨requested, state, -, process⟩ := Record.standing_inj.mp same
    unfold Record.Grounded
    rw [requested, state, process]
    exact grounded
  · intro running gone
    exact absurd gone (done.resumed running).2.2.2

/-- If its session ends, an application that is to run can only be launched again if the session had
been suspended and the process failed before it was. -/
lemma hear_stopped_grounded (host : Host) (tracked : s.record.state ≠ .stopped)
    (awake : s.record.Awake) (grounded : s.record.Grounded) :
    (s.hear host .stopped).record.Grounded := by
  intro running gone
  obtain ⟨goesOn, failed, requested, process⟩ := hear_stopped_gone host gone
  rw [requested] at running
  rw [process]
  obtain ⟨background, waiting, suspended⟩ := awake running
  unfold Record.isOver at goesOn
  -- a suspension that could be taken back was, and any other state but these two is its end
  cases state : s.record.state with
  | stoppedResumable => exact grounded running state
  | suspendingWaitProcess => exact failed state
  | _ => simp_all

end Scene

namespace Registry

variable {P : Host → Prop} {host : Host} {op : Operation} {reg reg' : Registry}
variable {front back : List Record} {r q : Record} {s t : Scene} {f : Scene → Scene}

/-! ## Two invariants of records -/

lemma Treatment.grounded (h : Treatment host reg op r f) (s : Scene)
    (tracked : s.record.state ≠ .stopped) (awake : s.record.Awake)
    (grounded : s.record.Grounded) : (f s).record.Grounded := by
  cases hop : op.ofSession with
  | false => exact (h.inLine hop s).grounded grounded
  | true =>
    cases h with
    | attach session _ _ _ _ =>
      obtain ⟨requested, state, -, process⟩ := s.attach_standing session
      unfold Record.Grounded
      rw [requested, state, process]
      exact grounded
    | reported _ state _ _ _ _ =>
      by_cases stopped : state = .stopped
      · rw [stopped]
        exact Scene.hear_stopped_grounded host tracked awake grounded
      · exact (Scene.inLine_hear stopped).grounded grounded
    | _ => cases hop

/-- In every reachable registry, a record that should run but can only be launched again has lost
its process to a failure. -/
theorem Reachable.grounded (h : Reachable P reg) : ∀ r ∈ reg.entries, r.Grounded := by
  refine h.forall_entries ?_ ?_
  · intro _ q born _ gone
    rw [born.state] at gone
    cases gone
  · intro reg host op r q reachable _ hr fate grounded
    cases fate with
    | kept _ => exact grounded
    | bound _ _ _ => exact grounded
    | ticked _ _ _ _ => exact grounded
    | treated _ _ treatment hs _ =>
      subst hs
      exact treatment.grounded _ (reachable.running _ hr) (reachable.awake _ hr) grounded

/-- What is done to a record by an operation other than a tick, as far as orders and the close timer
are concerned. -/
inductive Conduct (host : Host) (op : Operation) (s t : Scene) : Prop where
  | calm (calm : s.Calm t)
  | closes (closes : s.Closes host t)
  | ends (id : AppId) (hop : op = .stop id) (hid : s.record.id = id.normalized) (ends : s.Ends t)
  | relaunches (id : AppId) (hop : op = .resume id) (hid : s.record.id = id.normalized)
      (relaunches : s.Relaunches t)

lemma Treatment.conduct (h : Treatment host reg op r f) (untimed : ∀ now, op ≠ .tick now)
    (hs : s.record = r) (timed : r.Timed) (grounded : r.Grounded) : Conduct host op s (f s) := by
  subst hs
  have start : s.Calm s := .refl timed
  cases h with
  | @close _ id hid =>
    obtain calm | closes | ends := Scene.close_cases host timed
    · exact .calm calm
    · exact .closes closes
    · exact .ends id rfl hid ends
  | suspend _ _ =>
    obtain calm | ⟨no, -⟩ := Scene.request_cases host .suspended timed
    · exact .calm calm
    · cases no
  | @resume _ id hid _ =>
    obtain calm | ⟨-, relaunches⟩ := Scene.request_cases host .running timed
    · exact .calm calm
    · exact .relaunches id rfl hid relaunches
  | resumeRequested _ suspended =>
    -- what is shown as suspended is not gone
    refine .calm (start.request fun _ gone => ?_)
    rw [gone] at suspended
    cases suspended
  | setExempt exempt _ => exact .calm (start.setExempt exempt)
  | setStage stage _ => exact .calm (start.setStage stage)
  | updateScreenshot _ => exact .calm (start.update rfl rfl)
  | tick now => exact absurd rfl (untimed now)
  | started _ _ => exact .calm (start.onProcess (by decide) grounded)
  | failed _ _ =>
    have failed : s.Calm (s.onProcess host .failed) := start.onProcess (by decide) grounded
    exact .calm (failed.update rfl rfl)
  | ended _ _ => exact .calm (start.onProcess (by decide) grounded)
  | suspended _ => exact .calm (start.onProcess (by decide) grounded)
  | attach session _ _ _ _ => exact .calm (start.attach session)
  | reported _ state _ _ _ _ =>
    obtain calm | closes := Scene.hear_cases host state timed
    · exact .calm calm
    · exact .closes closes

/-- The timer of a record that begins to close starts, that of one that closes runs on, and any
other is stopped. -/
lemma Conduct.timer (h : Conduct host op s t) : t.record.timer =
    if t.record.state = .closing then
      if s.record.state = .closing then s.record.timer else s.record.timer.arm host.now
    else s.record.timer.cancel := by
  cases h with
  | calm calm =>
    split
    · rename_i closing
      obtain ⟨before, same⟩ := calm.closing closing
      rw [if_pos before, same]
    · rename_i idle
      exact calm.idle idle
  | closes closes => rw [if_pos closes.closing, if_neg closes.before, closes.timer]
  | ends _ _ _ ends => rw [if_neg ends.state, ends.timer]
  | relaunches _ _ _ relaunches => rw [if_neg relaunches.state, relaunches.timer]

/-- The same of a record after any operation but a tick. -/
lemma Fate.timer (h : Fate host op reg r q) (untimed : ∀ now, op ≠ .tick now) (timed : r.Timed)
    (grounded : r.Grounded) : q.timer =
    if q.state = .closing then
      if r.state = .closing then r.timer else r.timer.arm host.now
    else r.timer.cancel := by
  have unchanged : r.timer = if r.state = .closing then
      if r.state = .closing then r.timer else r.timer.arm host.now else r.timer.cancel := by
    split
    · rfl
    · rename_i idle
      exact (timed.cancel_eq idle).symm
  cases h with
  | kept _ => exact unchanged
  | bound _ _ _ => exact unchanged
  | ticked now _ hop _ => exact absurd hop (untimed now)
  | treated _ _ treatment hs _ =>
    have conduct := (treatment.conduct untimed hs timed grounded).timer
    rw [hs] at conduct
    exact conduct

lemma Fate.timed (h : Fate host op reg r q) (timed : r.Timed) (grounded : r.Grounded) :
    q.Timed := by
  intro armed
  by_cases hop : ∃ now, op = .tick now
  · cases h with
    | kept _ => exact timed armed
    | bound _ _ _ => exact timed armed
    | ticked _ _ _ htimer =>
      obtain rfl | rfl := htimer
      · exact timed armed
      · cases armed
    | treated untimed _ _ _ _ =>
      obtain ⟨now, hop⟩ := hop
      exact absurd hop (untimed now)
  · have timer := h.timer (fun now same => hop ⟨now, same⟩) timed grounded
    by_cases closing : q.state = .closing
    · exact closing
    · rw [timer, if_neg closing] at armed
      cases armed

/-- In every reachable registry, the close timer of a record runs while it is closing only. -/
theorem Reachable.timed (h : Reachable P reg) : ∀ r ∈ reg.entries, r.Timed := by
  refine h.forall_entries ?_ ?_
  · intro reg q born armed
    rw [born.timer] at armed
    cases armed
  · exact fun reg host op r q reachable _ hr fate timed =>
      fate.timed timed (reachable.grounded r hr)

/-! ## Who is launched, and who is ended -/

/-- The orders that have been given. -/
def orders (reg : Registry) : List ControllerCall := AppLifecycle.orders reg.journal

/-- The orders that an operation gives. -/
def ordered (host : Host) (op : Operation) (reg : Registry) : List ControllerCall :=
  (reg.perform host op).2.orders.drop reg.orders.length

lemma ordered_eq {new : List ControllerCall}
    (h : (reg.perform host op).2.orders = reg.orders ++ new) : reg.ordered host op = new := by
  unfold ordered
  rw [h, List.drop_left]

/-- What an operation does outside the registry. -/
def effectsOf (host : Host) (op : Operation) (reg : Registry) : List Effect :=
  (reg.perform host op).2.journal.drop reg.journal.length

lemma effectsOf_eq {effects : List Effect}
    (h : (reg.perform host op).2.journal = reg.journal ++ effects) :
    reg.effectsOf host op = effects := by
  unfold effectsOf
  rw [h, List.drop_left]

lemma evict_orders (reg : Registry) (front : List Record) (r : Record) (back : List Record) :
    (reg.evict front r back).orders = reg.orders :=
  Scene.letGoSession_orders { reg.scene r with wakelock := _ }

lemma settle_orders (reg : Registry) (front : List Record) (r : Record) (back : List Record)
    (s : Scene) : (reg.settle front r back s).orders = s.orders := by
  unfold settle
  split
  · exact evict_orders _ _ _ _
  · rfl

/-- The orders of an operation that is not a tick, and what is known of the records that they are
about. -/
inductive Orders (reg : Registry) : Operation → List ControllerCall → Prop where
  | none (op : Operation) : Orders reg op []
  | launch {id : AppId} {args : List String} (untracked : reg.indexOf id.normalized = none) :
      Orders reg (.start id args) [.start id.normalized args]
  | finish {front back : List Record} {r : Record} {id : AppId}
      (place : Located reg front r back) (hid : r.id = id.normalized)
      (starting : r.state = .starting) : Orders reg (.stop id) [.stop r.id]
  | relaunch {front back : List Record} {r : Record} {id : AppId}
      (place : Located reg front r back) (hid : r.id = id.normalized)
      (gone : r.state = .stoppedResumable) (asleep : r.requested = .suspended) :
      Orders reg (.resume id) [.start r.id r.arguments]

lemma orders_of_same (h : reg'.orders = reg.orders) :
    ∃ new, Orders reg op new ∧ reg'.orders = reg.orders ++ new :=
  ⟨[], .none op, by rw [h, List.append_nil]⟩

lemma orders_treat (untimed : ∀ now, op ≠ .tick now) (place : Located reg front r back)
    (treatment : Treatment host reg op r f) (timed : r.Timed) (grounded : r.Grounded) :
    ∃ new, Orders reg op new ∧
      (reg.settle front r back (f (reg.scene r))).orders = reg.orders ++ new := by
  have given := settle_orders reg front r back (f (reg.scene r))
  cases treatment.conduct (s := reg.scene r) untimed rfl timed grounded with
  | calm calm => exact orders_of_same (given.trans calm.orders)
  | closes closes => exact orders_of_same (given.trans closes.orders)
  | ends id hop hid ends =>
    subst hop
    exact ⟨_, .finish place hid ends.starting, given.trans ends.orders⟩
  | relaunches id hop hid relaunches =>
    subst hop
    exact ⟨_, .relaunch place hid relaunches.gone relaunches.asleep,
      given.trans relaunches.orders⟩

lemma newcomer_orders (host : Host) (reg : Registry) (descriptor : Descriptor)
    (arguments : List String) (exempt : Bool) {f : Scene → Scene}
    (introduction : Introduction op f) :
    (reg.newcomer host descriptor arguments exempt f).orders = reg.orders :=
  congrArg AppLifecycle.orders (newcomer_journal introduction)

lemma raise_orders (reg : Registry) (front : List Record) (r : Record) (back : List Record) :
    (reg.raise front r back).orders = reg.orders := by
  obtain ⟨entries, events, frame⟩ := raise_frame reg front r back
  rw [frame]
  rfl

lemma passFocus_orders (reg : Registry) (id : AppId) :
    (reg.passFocus id).orders = reg.orders := by
  obtain ⟨entries, events, frame⟩ := reg.passFocus_frame id
  rw [frame]
  rfl

/-- A report that a process starts gives no order, whatever else was noted before. -/
lemma started_orders (before : s.orders = reg.orders) (timed : s.record.Timed)
    (grounded : s.record.Grounded) : (s.onProcess host .running).orders = reg.orders := by
  have calm : s.Calm (s.onProcess host .running) :=
    (Scene.Calm.refl timed).onProcess (by decide) grounded
  exact calm.orders.trans before

lemma Course.orders (course : Course host op reg reg') (untimed : ∀ now, op ≠ .tick now)
    (timed : ∀ r ∈ reg.entries, r.Timed) (grounded : ∀ r ∈ reg.entries, r.Grounded) :
    ∃ new, Orders reg op new ∧ reg'.orders = reg.orders ++ new := by
  cases course with
  | idle => exact orders_of_same rfl
  | note note =>
    cases note with
    | unlaunched untracked =>
      exact ⟨_, .launch untracked, orders_append reg.journal _⟩
    | trusted _ _ => exact orders_of_same (congrArg AppLifecycle.orders (List.append_nil _))
    | helper _ => exact orders_of_same (orders_quiet reg.journal rfl)
    | intruder _ =>
      refine orders_of_same ((orders_append reg.journal _).trans ?_)
      exact List.append_nil _
  | announce _ => exact orders_of_same rfl
  | treat place treatment =>
    exact orders_treat untimed place treatment (timed _ place.mem) (grounded _ place.mem)
  | relaunch place _ _ =>
    refine orders_of_same ((settle_orders _ _ _ _ _).trans ?_)
    exact started_orders rfl (timed _ place.mem) (grounded _ place.mem)
  | finish place hid news _ _ =>
    obtain ⟨new, orders, given⟩ := orders_treat untimed place (.ended hid news)
      (timed _ place.mem) (grounded _ place.mem)
    exact ⟨new, orders, (evict_orders _ _ _ _).trans given⟩
  | @launch _ id args descriptor untracked _ =>
    refine ⟨_, .launch untracked, ?_⟩
    have launched := newcomer_orders host (reg.call (.start id.normalized args)) descriptor args
      (reg.lifecycle.isExempt id.normalized) (.launched (.start id args))
    exact launched.trans (orders_append reg.journal _)
  | bind binding =>
    cases binding with
    | confirmed _ _ _ => exact orders_of_same rfl
    | hinted _ _ _ => exact orders_of_same rfl
    | created arguments side _ _ _ =>
      exact orders_of_same (newcomer_orders host _ _ _ _ (.identified _ side))
  | @appear _ id descriptor s untracked _ _ new =>
    refine orders_of_same ((settle_orders _ _ _ _ _).trans ?_)
    have created := newcomer_orders host reg descriptor []
      (reg.lifecycle.isExempt id.normalized) (.launched (.process (.starting id)))
    rw [← new] at created
    have record : s.record = _ := (congrArg Scene.record new).trans (newcomer_launched _ _ _)
    -- a new record neither closes nor can be launched again
    have unarmed : s.record.timer.isArmed = false := by
      rw [record]
      rfl
    have starting : s.record.state = .starting := by
      rw [record]
      rfl
    refine started_orders created (fun armed => ?_) (fun _ gone => ?_)
    · exact absurd (unarmed.symm.trans armed) Bool.false_ne_true
    · exact absurd (starting.symm.trans gone) (by decide)
  | @stray _ id _ _ _ _ =>
    exact orders_of_same (newcomer_orders host _ _ _ _ (.launched (.process (.starting id))))
  | raise place _ => exact orders_of_same (raise_orders _ _ _ _)
  | focus place _ _ => exact orders_of_same ((passFocus_orders _ _).trans (raise_orders _ _ _ _))
  | tick now => exact absurd rfl (untimed now)

/-- The orders of a tick. -/
lemma tick_orders (host : Host) (now : Instant) (reg : Registry) :
    ∃ ids : List AppId, (reg.tick host now).orders = reg.orders ++ ids.map .stop := by
  refine tick_invariant (I := fun seen => ∃ ids : List AppId,
    seen.orders = reg.orders ++ ids.map .stop) now ⟨[], (List.append_nil _).symm⟩ ?_
  rintro seen front r back - ⟨ids, given⟩
  have looked := Scene.tick_orders host now (seen.scene r)
  refine ⟨ids ++ if (r.timer.poll now).1 then [r.id] else [], ?_⟩
  rw [settle_orders, looked]
  show seen.orders ++ _ = _
  rw [given]
  split <;> simp_all [Registry.scene]

/-- The orders of an operation in a reachable registry. -/
theorem Reachable.orders (h : Reachable P reg) (host : Host) (untimed : ∀ now, op ≠ .tick now) :
    Orders reg op (reg.ordered host op) := by
  obtain ⟨new, orders, given⟩ := (perform_course host op reg).orders untimed h.timed h.grounded
  rw [ordered_eq given]
  exact orders

end Registry

end AppLifecycle
