import AppLifecycle.Proofs.Registry.CloseTimer

/-!
# Applications that do not close in time

When its close timer expires, an application is to be ended: the controller is asked to, and if it
fails, the process is (`Record.demands`). The record is kept until the process is reported to have
stopped. So nothing ends an application of which no process is known, if the controller fails: its
record goes on closing (`Abandoned`), and keeps the device awake.
-/

namespace AppLifecycle

/-- What is asked of the machine in order to end an application. -/
def Record.demands (host : Host) (r : Record) : List Effect :=
  .call (.stop r.id) ::
    match host.stop r.id with
    | .ok () => []
    | .error _ =>
      if 0 < r.pid then
        .call (.terminate r.pid) ::
          match host.terminate r.pid with
          | .ok () => []
          | .error _ => [.report .terminateFailed]
      else []

namespace Record

/-- The record once its close timer has been stopped. -/
def silenced (r : Record) : Record := { r with timer := r.timer.cancel }

variable {host : Host} {now : Instant} {r : Record}

lemma silenced_fresh (r : Record) : r.silenced.due now = false := rfl

lemma polled_of_due (h : r.due now = true) : r.polled now = r.silenced := by
  obtain ⟨deadline, armed, reached⟩ := due_iff.mp h
  unfold polled silenced CloseTimer.poll
  rw [armed]
  dsimp only
  rw [if_pos reached]

lemma stop_mem_demands (host : Host) (r : Record) : .call (.stop r.id) ∈ r.demands host :=
  List.mem_cons_self

/-- The process is asked to end if the controller fails and the process is known. -/
lemma terminate_mem_demands {pid : Nat} : .call (.terminate pid) ∈ r.demands host ↔
    host.stop r.id ≠ .ok () ∧ 0 < r.pid ∧ pid = r.pid := by
  unfold demands
  cases stopped : host.stop r.id with
  | ok _ => simp
  | error e =>
    by_cases known : 0 < r.pid
    · cases host.terminate r.pid <;> simp [known]
    · simp [known]

end Record

/-- A machine whose controller does not know any application. -/
def Host.forgetful : Host :=
  { Host.willing with stop := fun id => .error (.unknownApplication id) }

namespace Scene

variable {host : Host} {now : Instant} {s : Scene}

lemma forceStop_journal (host : Host) (s : Scene) :
    (s.forceStop host).journal = s.journal ++ s.record.demands host := by
  unfold forceStop Record.demands
  dsimp only [call, log, update]
  cases host.stop s.record.id with
  | ok _ => rfl
  | error e =>
    dsimp only
    split
    · cases host.terminate s.record.pid <;> simp
    · split
      · exact enter_journal _ _ _
      · rfl

lemma tick_journal (host : Host) (now : Instant) (s : Scene) :
    (s.tick host now).2.journal =
      s.journal ++ if s.record.due now then s.record.demands host else [] := by
  unfold tick Record.due
  dsimp only
  split
  · exact forceStop_journal host _
  · exact (List.append_nil _).symm

end Scene

namespace Registry

variable {P : Host → Prop} {host : Host} {now : Instant} {reg seen : Registry}
variable {front back : List Record} {r c : Record} {made : List Effect}

/-- The close timer of a record is running, and a tick stops it or gives the record up. -/
structure Expires (host : Host) (now : Instant) (reg : Registry) (r : Record) : Prop where
  mem : r ∈ reg.entries
  armed : r.timer.isArmed = true
  fires : ∀ q ∈ (reg.perform host (.tick now)).2.entries, q.owner = r.owner →
    q.timer.isArmed = false

/-- With a tick a record has been given up, or the controller has ended the application, or its
process has been asked to end. -/
def Ended (host : Host) (now : Instant) (reg : Registry) (r : Record) : Prop :=
  (∀ q ∈ (reg.perform host (.tick now)).2.entries, q.owner ≠ r.owner) ∨
  (.call (.stop r.id) ∈ reg.effectsOf host (.tick now) ∧ host.stop r.id = .ok ()) ∨
  0 < r.pid ∧ .call (.terminate r.pid) ∈ reg.effectsOf host (.tick now)

/-- After a tick a record goes on closing and keeps the device awake, although its timer is stopped
and nothing has been asked that could end its application. -/
def Abandoned (host : Host) (now : Instant) (reg : Registry) (r : Record) : Prop :=
  (∃ q ∈ (reg.perform host (.tick now)).2.entries, q.owner = r.owner ∧ q.state = .closing ∧
    q.timer.isArmed = false ∧ q.owner ∈ (reg.perform host (.tick now)).2.wakelock.owners) ∧
  ¬Ended host now reg r

/-! ## One tick -/

/-- What a tick has done so far: it has looked at some of the records, stopped the timers that had
expired, and made the demands of their records. -/
structure Looked (host : Host) (now : Instant) (reg seen : Registry) (made : List Effect) :
    Prop where
  journal : seen.journal = reg.journal ++ made
  due : ∀ e ∈ made, ∃ r ∈ reg.entries, r.due now = true ∧ e ∈ r.demands host
  kept : ∀ r ∈ reg.entries, r ∈ seen.entries ∨
    r.due now = true ∧ r.silenced ∈ seen.entries ∧ ∀ e ∈ r.demands host, e ∈ made
  left : ∀ q ∈ seen.entries, ∃ r ∈ reg.entries, q = r ∨ q = r.silenced

/-- A look at a record whose timer has not expired, or is stopped, makes no difference. -/
lemma Looked.pass (h : Looked host now reg seen made) (place : Located seen front c back)
    (fresh : c.due now = false) {next : Registry}
    (entries : next.entries = front ++ c.polled now :: back)
    (journal : next.journal = seen.journal) : Looked host now reg next made := by
  have same : next.entries = seen.entries := by
    rw [entries, place.entries, Record.polled_of_fresh fresh]
  refine ⟨journal.trans h.journal, h.due, ?_, ?_⟩
  · rw [same]
    exact h.kept
  · rw [same]
    exact h.left

/-- A look at a record whose timer has expired stops the timer and makes the record's demands. -/
lemma Looked.fire (h : Looked host now reg seen made) (place : Located seen front c back)
    (due : c.due now = true) {next : Registry}
    (entries : next.entries = front ++ c.polled now :: back)
    (journal : next.journal = seen.journal ++ c.demands host) :
    Looked host now reg next (made ++ c.demands host) := by
  -- a record whose timer has been stopped is not due, so that this one is as it was
  have before : c ∈ reg.entries := by
    obtain ⟨r, hr, rfl | rfl⟩ := h.left c place.mem
    · exact hr
    · exact absurd due (by rw [r.silenced_fresh]; decide)
  rw [Record.polled_of_due due] at entries
  have stays : ∀ q ∈ seen.entries, q ≠ c → q ∈ next.entries := by
    intro q hq other
    rw [place.entries] at hq
    rw [entries]
    exact mem_middle_iff.mpr (.inr ((mem_middle_iff.mp hq).resolve_left other))
  have fired : c.silenced ∈ next.entries := by
    rw [entries]
    exact mem_middle_iff.mpr (.inl rfl)
  refine ⟨?_, fun e he => ?_, fun r hr => ?_, fun q hq => ?_⟩
  · rw [journal, h.journal, List.append_assoc]
  · obtain he | he := List.mem_append.mp he
    · exact h.due e he
    · exact ⟨c, before, due, he⟩
  · by_cases same : r = c
    · subst same
      exact .inr ⟨due, fired, fun e he => List.mem_append_right _ he⟩
    · obtain hr | ⟨expired, hr, demanded⟩ := h.kept r hr
      · exact .inl (stays r hr same)
      · refine .inr ⟨expired, stays _ hr fun same => ?_, fun e he =>
          List.mem_append_left _ (demanded e he)⟩
        rw [← same, r.silenced_fresh] at due
        cases due
  · rw [entries] at hq
    obtain rfl | hq := mem_middle_iff.mp hq
    · exact ⟨c, before, .inr rfl⟩
    · exact h.left q (place.mem_of_mem_append hq)

/-- A tick keeps all records, and makes the demands of those whose timers it stops. -/
theorem tick_looked (host : Host) (now : Instant) (timed : ∀ r ∈ reg.entries, r.Timed)
    (tracked : ∀ r ∈ reg.entries, r.state ≠ .stopped) :
    ∃ made, Looked host now reg (reg.tick host now) made := by
  refine tick_invariant (I := fun seen => ∃ made, Looked host now reg seen made) now
    ⟨[], (List.append_nil _).symm, fun _ he => absurd he List.not_mem_nil,
      fun r hr => .inl hr, fun q hq => ⟨q, hq, .inl rfl⟩⟩ ?_
  rintro seen front c back place ⟨made, looked⟩
  have alike : c.Timed ∧ c.state ≠ .stopped := by
    obtain ⟨r, hr, rfl | rfl⟩ := looked.left c place.mem
    · exact ⟨timed _ hr, tracked _ hr⟩
    · exact ⟨fun armed => (Bool.false_ne_true armed).elim, tracked r hr⟩
  have record := look_record host now seen alike.1
  have entries : (seen.settle front c back ((seen.scene c).tick host now).2).entries =
      front ++ c.polled now :: back := by
    unfold settle
    rw [if_neg (by rw [record]; exact alike.2)]
    show front ++ _ :: back = _
    rw [record]
  have journal : (seen.settle front c back ((seen.scene c).tick host now).2).journal =
      seen.journal ++ if c.due now then c.demands host else [] := by
    unfold settle
    rw [if_neg (by rw [record]; exact alike.2)]
    exact Scene.tick_journal host now (seen.scene c)
  cases due : c.due now with
  | true =>
    rw [due] at journal
    exact ⟨_, looked.fire place due entries journal⟩
  | false =>
    rw [due] at journal
    exact ⟨made, looked.pass place due entries (journal.trans (List.append_nil _))⟩

/-- An expired record goes on with its timer stopped, and what it demands is asked. -/
lemma Expires.fired (expires : Expires host now reg r)
    (looked : Looked host now reg (reg.tick host now) made) :
    r.due now = true ∧ r.silenced ∈ (reg.perform host (.tick now)).2.entries ∧
      ∀ e ∈ r.demands host, e ∈ reg.effectsOf host (.tick now) := by
  -- the timer does not run any more, so that the tick has not left the record as it was
  obtain ⟨due, kept, demanded⟩ := (looked.kept r expires.mem).resolve_left fun still =>
    Bool.false_ne_true ((expires.fires r still rfl).symm.trans expires.armed)
  have effects : reg.effectsOf host (.tick now) = made := effectsOf_eq looked.journal
  rw [effects]
  exact ⟨due, kept, demanded⟩

/-- A record that a tick keeps is ended exactly if the controller does so or its process is
known. -/
lemma ended_iff (kept : r.silenced ∈ (reg.perform host (.tick now)).2.entries)
    (demanded : ∀ e ∈ r.demands host, e ∈ reg.effectsOf host (.tick now)) :
    Ended host now reg r ↔ host.stop r.id = .ok () ∨ 0 < r.pid := by
  constructor
  · rintro (evicted | ⟨-, stopped⟩ | ⟨known, -⟩)
    · exact absurd rfl (evicted r.silenced kept)
    · exact .inl stopped
    · exact .inr known
  · intro outcome
    by_cases stopped : host.stop r.id = .ok ()
    · exact .inr (.inl ⟨demanded _ (r.stop_mem_demands host), stopped⟩)
    · have known := outcome.resolve_left stopped
      exact .inr (.inr ⟨known,
        demanded _ (Record.terminate_mem_demands.mpr ⟨stopped, known, rfl⟩)⟩)

/-- A closing record that a tick keeps is abandoned exactly if it is not ended, unless it is
exempt. -/
lemma abandoned_iff (shares : Shares (reg.perform host (.tick now)).2)
    (closing : r.state = .closing)
    (kept : r.silenced ∈ (reg.perform host (.tick now)).2.entries) :
    Abandoned host now reg r ↔ ¬Ended host now reg r ∧ r.exempt = false := by
  have share : r.owner ∈ (reg.perform host (.tick now)).2.wakelock.owners ↔ r.exempt = false := by
    have wants : r.silenced.wantsWakelock = !r.exempt := by
      show (!r.exempt && r.state.holdsWakelock) = !r.exempt
      rw [closing]
      exact Bool.and_true _
    refine (shares.mem_owners_iff kept).trans ?_
    rw [wants, Bool.not_eq_true']
  constructor
  · rintro ⟨⟨q, -, owner, -, -, awake⟩, left⟩
    rw [owner] at awake
    exact ⟨left, share.mp awake⟩
  · rintro ⟨left, subject⟩
    exact ⟨⟨_, kept, rfl, closing, rfl, share.mpr subject⟩, left⟩

/-! ## What it comes to -/

/-- Where the close timer of a record expires in a reachable registry, the record is closing, and
goes on with its timer stopped: it is not given up. The controller is asked to end the application,
and nothing is asked but what records demand whose timers have expired. The application is ended
exactly if the controller does so or its process is known; the record is abandoned exactly if
neither is the case, and it is not exempt. -/
theorem expired_close_iff (h : Reachable P reg) (expires : Expires host now reg r) :
    (r.state = .closing ∧ r.due now = true) ∧
    (∀ q ∈ (reg.perform host (.tick now)).2.entries, q.owner = r.owner ↔ q = r.silenced) ∧
    r.silenced ∈ (reg.perform host (.tick now)).2.entries ∧
    .call (.stop r.id) ∈ reg.effectsOf host (.tick now) ∧
    (∀ e ∈ reg.effectsOf host (.tick now), ∃ c ∈ reg.entries,
      c.due now = true ∧ e ∈ c.demands host) ∧
    (Ended host now reg r ↔ host.stop r.id = .ok () ∨ 0 < r.pid) ∧
    (Abandoned host now reg r ↔ host.stop r.id ≠ .ok () ∧ r.pid = 0 ∧ r.exempt = false) := by
  have after : Reachable (fun _ => True) (reg.perform host (.tick now)).2 :=
    (h.mono fun _ _ => trivial).perform _ trivial
  have closing : r.state = .closing := h.timed r expires.mem expires.armed
  obtain ⟨made, looked⟩ := tick_looked host now h.timed h.running
  have effects : reg.effectsOf host (.tick now) = made := effectsOf_eq looked.journal
  obtain ⟨due, kept, demanded⟩ := expires.fired looked
  have ended := ended_iff kept demanded
  refine ⟨⟨closing, due⟩, fun q hq => ⟨fun owner => ?_, fun same => by rw [same]; rfl⟩, kept,
    demanded _ (r.stop_mem_demands host), ?_, ended, ?_⟩
  · exact List.inj_on_of_nodup_map after.shares.distinct hq kept owner
  · rw [effects]
    exact looked.due
  · rw [abandoned_iff after.shares closing kept, ended, not_or, Nat.not_lt, Nat.le_zero, and_assoc]

/-- The clock is told to close, and does not; the third second is not over yet. -/
def stubborn : List (Host × Operation) :=
  [.start ⟨"clock"⟩ [], .process (.starting ⟨"clock"⟩), .authorize 7,
    .sessionStarting windowOfClock, .sessionState windowOfClock.id .running, .stop ⟨"clock"⟩,
    .tick ⟨2999999999⟩].map (Prod.mk .willing)

lemma stubborn_reachable : Reachable Host.Faithful (after .standard .standard stubborn) :=
  willing_reachable _

/-- The next tick asks the process of the clock to end, since the controller does not know the
clock. -/
theorem expired_close_of_clock :
    Reachable Host.Faithful (after .standard .standard stubborn) ∧
    ∃ r, Expires .forgetful ⟨3000000000⟩ (after .standard .standard stubborn) r ∧
      r.pid = 7 ∧ Ended .forgetful ⟨3000000000⟩ (after .standard .standard stubborn) r ∧
      ¬Abandoned .forgetful ⟨3000000000⟩ (after .standard .standard stubborn) r := by
  have expires : ∃ r, r.pid = 7 ∧
      Expires .forgetful ⟨3000000000⟩ (after .standard .standard stubborn) r :=
    ⟨_, rfl, List.mem_singleton_self _, by decide, by decide⟩
  obtain ⟨r, pid, expires⟩ := expires
  have known : 0 < r.pid := by
    rw [pid]
    decide
  obtain ⟨-, -, -, -, -, ended, abandoned⟩ := expired_close_iff stubborn_reachable expires
  exact ⟨stubborn_reachable, r, expires, pid, ended.mpr (.inr known),
    fun left => absurd (abandoned.mp left).2.1 (by omega)⟩

/-- Before that the process of the clock fails. -/
def crashing : List (Host × Operation) :=
  stubborn ++ [(.willing, .process (.failed ⟨"clock"⟩ false))]

/-- Then the next tick asks the controller only, which does not know the clock, and the clock goes
on closing. -/
theorem clock_abandoned :
    Reachable Host.Faithful (after .standard .standard crashing) ∧
    (∃ r, Expires .forgetful ⟨3000000000⟩ (after .standard .standard crashing) r ∧
      ¬Ended .forgetful ⟨3000000000⟩ (after .standard .standard crashing) r ∧
      Abandoned .forgetful ⟨3000000000⟩ (after .standard .standard crashing) r) ∧
    (after .standard .standard crashing).effectsOf .forgetful (.tick ⟨3000000000⟩) =
      [.call (.stop ⟨"clock"⟩)] := by
  have left : ∃ r, Expires .forgetful ⟨3000000000⟩ (after .standard .standard crashing) r ∧
      ¬Ended .forgetful ⟨3000000000⟩ (after .standard .standard crashing) r ∧
      ∃ q ∈ ((after .standard .standard crashing).perform .forgetful
          (.tick ⟨3000000000⟩)).2.entries,
        q.owner = r.owner ∧ q.state = .closing ∧ q.timer.isArmed = false ∧
          q.owner ∈ ((after .standard .standard crashing).perform .forgetful
            (.tick ⟨3000000000⟩)).2.wakelock.owners := by
    refine ⟨_, ⟨List.mem_singleton_self _, by decide, by decide⟩, ?_, _,
      List.mem_singleton_self _, by decide, by decide, by decide, by decide⟩
    rintro (evicted | ⟨-, stopped⟩ | ⟨known, -⟩)
    · exact evicted _ (List.mem_singleton_self _) rfl
    · cases stopped
    · exact absurd known (by decide)
  obtain ⟨r, expires, ended, goesOn⟩ := left
  exact ⟨stubborn_reachable.perform _ Host.willing_faithful, ⟨r, expires, ended, goesOn, ended⟩,
    by decide⟩

end Registry

end AppLifecycle
