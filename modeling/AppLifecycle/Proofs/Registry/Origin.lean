import AppLifecycle.Proofs.Registry.WakelockShares
import AppLifecycle.Proofs.Scene.Conduct

/-!
# Where records come from

Every record that is there after an operation was there before, as the operation found it (`Fate`),
or is new (`Newborn`). What an operation makes of a record is a case analysis over fates, and what
holds of new records and outlasts any fate holds of all records (`Reachable.forall_entries`).
-/

namespace AppLifecycle

namespace Scene

variable {host : Host} {s : Scene}

/-- The process of a starting record is noted to run, and nothing else happens. -/
lemma onProcess_running_starting (host : Host) (starting : s.record.state = .starting)
    (news : s.record.process ≠ .running) :
    (s.onProcess host .running).record =
      { s.record with process := .running, passes := s.record.passes + 1 } := by
  have noted := reconcile_of_state (s := s.update fun r => { r with process := .running }) host
    (.inl starting)
  have tracked : (s.update fun r => { r with process := .running }).record.state ≠
      .stoppedResumable := by
    show s.record.state ≠ _
    rw [starting]
    decide
  unfold onProcess
  rw [if_neg news]
  dsimp only
  rw [if_neg tracked, noted]
  rfl

end Scene

namespace Registry

variable {P : Host → Prop} {host : Host} {op : Operation} {reg reg' : Registry}
variable {front back : List Record} {r q : Record} {s : Scene} {f : Scene → Scene}

/-! ## The records after an operation -/

/-- What becomes of a record in an operation that it outlasts. Only a tick may look at a record more
than once, and it stops the close timer at most. -/
inductive Fate (host : Host) (op : Operation) (reg : Registry) (r : Record) : Record → Prop where
  | kept (focused : Bool) : Fate host op reg r { r with focused }
  | bound (pid : Nat) (hop : op = .authorize pid) (starting : r.state = .starting) :
      Fate host op reg r { r with pid }
  | ticked (now : Instant) (timer : CloseTimer) (hop : op = .tick now)
      (htimer : timer = r.timer ∨ timer = r.timer.cancel) : Fate host op reg r { r with timer }
  | treated {front back : List Record} {f : Scene → Scene} {s : Scene}
      (untimed : ∀ now, op ≠ .tick now) (place : Located reg front r back)
      (treatment : Treatment host reg op r f) (hs : s.record = r)
      (running : (f s).record.state ≠ .stopped) : Fate host op reg r (f s).record

/-- A record that has just been created, and whose process may be known to run. -/
structure Newborn (reg : Registry) (q : Record) : Prop where
  owner : q.owner = ⟨reg.nextOwner⟩
  state : q.state = .starting
  requested : q.requested = .running
  process : q.process = .unknown ∨ q.process = .running
  session : q.session = none
  timer : q.timer = .new reg.lifecycle.closeTimeout

lemma Fate.same (r : Record) : Fate host op reg r r := .kept r.focused

lemma Fate.owner (h : Fate host op reg r q) : q.owner = r.owner := by
  cases h with
  | kept _ => rfl
  | bound _ _ _ => rfl
  | ticked _ _ _ _ => rfl
  | treated _ _ treatment hs _ =>
    subst hs
    exact (treatment.moves _).sameIdentity.owner

lemma Fate.id (h : Fate host op reg r q) : q.id = r.id := by
  cases h with
  | kept _ => rfl
  | bound _ _ _ => rfl
  | ticked _ _ _ _ => rfl
  | treated _ _ treatment hs _ =>
    subst hs
    exact (treatment.moves _).sameIdentity.id

/-- The records of before, and those of which `h` says where they come from. -/
lemma origin_settle (untimed : ∀ now, op ≠ .tick now) (place : Located reg front r back)
    (treatment : Treatment host reg op r f) (hs : s.record = r)
    (hq : q ∈ (reg'.settle front r back (f s)).entries) :
    ∃ r ∈ reg.entries, Fate host op reg r q := by
  obtain hq | ⟨rfl, running⟩ := mem_settle hq
  · exact ⟨q, place.mem_of_mem_append hq, .same q⟩
  · exact ⟨r, place.mem, .treated untimed place treatment hs running⟩

lemma origin_tick (now : Instant) (hq : q ∈ (reg.tick host now).entries) :
    ∃ r ∈ reg.entries, Fate host (.tick now) reg r q := by
  suffices h : ∀ q ∈ (reg.tick host now).entries, ∃ r ∈ reg.entries, ∃ timer,
      (timer = r.timer ∨ timer = r.timer.cancel) ∧ q = { r with timer } by
    obtain ⟨r, hr, timer, htimer, rfl⟩ := h q hq
    exact ⟨r, hr, .ticked now timer rfl htimer⟩
  refine tick_invariant (I := fun seen => ∀ q ∈ seen.entries, ∃ r ∈ reg.entries, ∃ timer,
    (timer = r.timer ∨ timer = r.timer.cancel) ∧ q = { r with timer }) now
    (fun q hq => ⟨q, hq, q.timer, .inl rfl, rfl⟩) ?_
  intro seen front r back place before q hq
  obtain hq | ⟨rfl, running⟩ := mem_settle hq
  · exact before q (place.mem_of_mem_append hq)
  · obtain same | ⟨-, stopped⟩ := Scene.tick_record host now (seen.scene r)
    · obtain ⟨c, hc, timer, htimer, hr⟩ := before r place.mem
      refine ⟨c, hc, (r.timer.poll now).2, ?_, ?_⟩
      · -- looked at again, the timer is as it was, or stopped
        have polled := r.timer.poll_snd now
        rw [hr] at polled ⊢
        rcases htimer with rfl | rfl
        · exact polled
        · exact .inr (polled.elim id id)
      · rw [same]
        show { r with timer := (r.timer.poll now).2 } = _
        rw [hr]
    · exact absurd stopped running

lemma origin_bind {pid : Nat} {c : Record} (binding : Binding host reg pid c reg')
    (hq : q ∈ reg'.entries) :
    (∃ r ∈ reg.entries, Fate host (.authorize pid) reg r q) ∨ Newborn reg q := by
  have told : ∀ {front back : List Record} {r : Record}, reg.entries = front ++ r :: back →
      r.state = .starting → q ∈ front ++ { r with pid } :: back →
      ∃ r ∈ reg.entries, Fate host (.authorize pid) reg r q := by
    intro front back r entries starting hq
    obtain rfl | hq := mem_middle_iff.mp hq
    · refine ⟨r, ?_, .bound pid rfl starting⟩
      rw [entries]
      simp
    · exact ⟨q, mem_of_mem_append entries hq, .same q⟩
  cases binding with
  | confirmed entries starting _ => exact .inl (told entries starting hq)
  | hinted place starting _ => exact .inl (told place.entries starting hq)
  | created arguments side _ _ _ =>
    obtain rfl | hq := List.mem_cons.mp hq
    · have introduction : Introduction (.authorize pid) (Scene.identify pid side) :=
        .identified pid side
      obtain ⟨pid', stage, record⟩ := introduction.newcomer host reg _ arguments _
      rw [record]
      exact .inr ⟨rfl, rfl, rfl, .inl rfl, rfl, rfl⟩
    · exact .inl ⟨q, hq, .same q⟩

/-- A new record whose process is reported to run goes on to start. -/
lemma origin_appear {descriptor : Descriptor} {exempt : Bool} {seen : Registry}
    (new : s = reg.newcomer host descriptor [] exempt fun s => s)
    (hq : q ∈ (seen.settle [] s.record reg.entries
      (Scene.onProcess host .running (seen.scene s.record))).entries) :
    (∃ r ∈ reg.entries, Fate host op reg r q) ∨ Newborn reg q := by
  have born : Newborn reg s.record := by
    rw [new, newcomer_launched]
    exact ⟨rfl, rfl, rfl, .inl rfl, rfl, rfl⟩
  have unknown : s.record.process = .unknown := by
    rw [new, newcomer_launched]
    rfl
  obtain hq | ⟨rfl, -⟩ := mem_settle hq
  · exact .inl ⟨q, hq, .same q⟩
  · have record := Scene.onProcess_running_starting (s := seen.scene s.record) host born.state
      (by show s.record.process ≠ _; rw [unknown]; decide)
    rw [record]
    exact .inr ⟨born.owner, born.state, born.requested, .inr rfl, born.session, born.timer⟩

lemma Course.origin (course : Course host op reg reg') (untimed : ∀ now, op ≠ .tick now)
    (hq : q ∈ reg'.entries) : (∃ r ∈ reg.entries, Fate host op reg r q) ∨ Newborn reg q := by
  cases course with
  | idle => exact .inl ⟨q, hq, .same q⟩
  | note _ => exact .inl ⟨q, hq, .same q⟩
  | announce _ => exact .inl ⟨q, hq, .same q⟩
  | treat place treatment => exact .inl (origin_settle untimed place treatment rfl hq)
  | relaunch place hid gone =>
    exact .inl (origin_settle untimed place (.started hid (.inl gone)) rfl hq)
  | finish place hid news left _ =>
    have before := mem_of_mem_append left.entries hq
    exact .inl (origin_settle untimed place (.ended hid news) rfl before)
  | launch _ _ =>
    obtain rfl | hq := List.mem_cons.mp hq
    · rw [newcomer_launched]
      exact .inr ⟨rfl, rfl, rfl, .inl rfl, rfl, rfl⟩
    · exact .inl ⟨q, hq, .same q⟩
  | bind binding => exact origin_bind binding hq
  | appear _ _ _ new => exact origin_appear new hq
  | stray _ _ _ =>
    obtain rfl | hq := List.mem_cons.mp hq
    · rw [newcomer_launched]
      exact .inr ⟨rfl, rfl, rfl, .inl rfl, rfl, rfl⟩
    · exact .inl ⟨q, hq, .same q⟩
  | raise place _ =>
    exact .inl ⟨q, (raise_perm place.entries).mem_iff.mp hq, .same q⟩
  | focus place _ _ =>
    have focused := forall_passFocus (Q := fun q => ∃ r ∈ reg.entries, ∃ focused,
      q = { r with focused }) ?_ _ ?_ q hq
    · obtain ⟨r, hr, focused, rfl⟩ := focused
      exact .inl ⟨r, hr, .kept focused⟩
    · rintro _ focused ⟨r, hr, _, rfl⟩
      exact ⟨r, hr, focused, rfl⟩
    · exact fun q hq => ⟨q, (raise_perm place.entries).mem_iff.mp hq, q.focused, rfl⟩
  | tick now => exact absurd rfl (untimed now)

/-- A record that is there after an operation was there before, or is new. -/
theorem perform_origin (host : Host) (op : Operation)
    (hq : q ∈ (reg.perform host op).2.entries) :
    (∃ r ∈ reg.entries, Fate host op reg r q) ∨ Newborn reg q := by
  by_cases timed : ∃ now, op = .tick now
  · obtain ⟨now, rfl⟩ := timed
    exact .inl (origin_tick now hq)
  · exact (perform_course host op reg).origin (fun now hop => timed ⟨now, hop⟩) hq

/-- What holds of new records, and is kept by whatever becomes of a record, holds of every record of
every reachable registry. -/
theorem Reachable.forall_entries {Q : Record → Prop} (h : Reachable P reg)
    (hnew : ∀ reg q, Newborn reg q → Q q)
    (hfate : ∀ reg host op r q, Reachable P reg → P host → r ∈ reg.entries → Fate host op reg r q →
      Q r → Q q) : ∀ q ∈ reg.entries, Q q := by
  induction h with
  | empty _ _ => exact fun _ hq => absurd hq List.not_mem_nil
  | perform op before hhost ih =>
    intro q hq
    obtain ⟨r, hr, fate⟩ | born := perform_origin _ op hq
    · exact hfate _ _ op r q before hhost hr fate (ih r hr)
    · exact hnew _ q born
  | takeEvents _ ih => exact ih
  | takeJournal _ ih => exact ih

end Registry

end AppLifecycle
