import AppLifecycle.Proofs.Registry.Admission
import AppLifecycle.Proofs.Registry.Authorization
import AppLifecycle.Proofs.Registry.Orderly
import AppLifecycle.Proofs.Scene.Reconciliation

/-!
# Where a session goes that was let in

A process is bound to a record by the state of the record or by what the process says of itself,
while its session goes to the first record in focus order that has the process and is not shown to
run. The two are the same unless a record in front has kept the process from an earlier time
(`attached_where_bound_iff`); a new record has nothing in front of it.
-/

namespace AppLifecycle

/-- The record takes the sessions of a process. -/
def Record.Takes (pid : Nat) (r : Record) : Prop := r.pid = pid ∧ r.state.shown ≠ .running

instance (pid : Nat) : DecidablePred (Record.Takes pid) := fun r =>
  inferInstanceAs (Decidable (r.pid = pid ∧ r.state.shown ≠ .running))

namespace Registry

variable {P : Host → Prop} {host : Host} {reg reg' : Registry} {front back : List Record}
variable {r q : Record} {pid : Nat} {session : Session}

/-- A process asks to open a session, is told that it may, and is bound to the record `q`. -/
def Binds (host : Host) (reg : Registry) (pid : Nat) (q : Record) (reg' : Registry) : Prop :=
  reg.authorizeSession host pid = (true, reg') ∧ Binding host reg pid q reg'

/-- The place of the record that a new session is attached to. -/
def takerIndex (reg : Registry) (session : Session) : Option Nat :=
  (reg.entries.find? (·.Takes session.pid)).bind fun r => reg.indexOf r.id

/-! ## The record that a process is bound to -/

lemma Binding.takes (binding : Binding host reg pid q reg') : q.Takes pid := by
  have standing : q.pid = pid ∧ q.state = .starting := by
    cases binding with
    | confirmed _ starting _ => exact ⟨rfl, starting⟩
    | hinted _ starting _ => exact ⟨rfl, starting⟩
    | @created id descriptor arguments side _ _ _ _ =>
      obtain ⟨_, _, record⟩ := (Introduction.identified pid side).newcomer host reg descriptor
        arguments (reg.lifecycle.isExempt id)
      refine ⟨Scene.identify_pid pid side _, ?_⟩
      rw [record]
      rfl
  refine ⟨standing.1, ?_⟩
  rw [standing.2]
  decide

/-- A process is bound to the first record whose application is starting and has the process. -/
lemma binds_of_confirmed (entries : reg.entries = front ++ r :: back)
    (starting : r.state = .starting) (owns : host.hasProcess r.id pid = true)
    (first : ∀ q ∈ front, q.state = .starting → host.hasProcess q.id pid = false) :
    Binds host reg pid { r with pid } { reg with entries := front ++ { r with pid } :: back } := by
  refine ⟨?_, .confirmed entries starting owns⟩
  apply authorizeSession_confirmed entries ⟨starting, owns⟩
  rintro q hq ⟨starting', owns'⟩
  rw [first q hq starting'] at owns'
  cases owns'

/-! ## The record that a session is attached to -/

lemma sessionStarting_of_takes {c : Record}
    (found : reg.entries.find? (·.Takes session.pid) = some c) :
    reg.sessionStarting session =
      (.ok (some c.id), (reg.onRecord c.id (Scene.attach session)).2) := by
  have found : (reg.entries.find? fun r => r.pid = session.pid && r.state.shown ≠ .running) =
      some c := by
    rw [← found]
    congr 1
    funext r
    exact (Bool.decide_and _ _).symm
  unfold sessionStarting
  rw [found]

/-- The session is attached at the taker's place, and nothing else changes there or elsewhere. -/
lemma sessionStarting_takerIndex (tracked : ∀ r ∈ reg.entries, r.state ≠ .stopped) {index : Nat}
    (taker : reg.takerIndex session = some index) :
    (reg.sessionStarting session).1 = .ok (reg.entries[index]?.map Record.id) ∧
      (reg.sessionStarting session).2.entries =
        reg.entries.modify index fun r => { r with session := some session } := by
  obtain ⟨c, found, hindex⟩ := Option.bind_eq_some_iff.mp taker
  obtain ⟨front, r, back, place, hid, rfl⟩ := exists_located hindex
  have record : ((reg.scene r).attach session).record = { r with session := some session } := by
    show { (reg.scene r).letGoSession.record with session := some session } = _
    rw [Scene.letGoSession_record]
    rfl
  have goesOn : ((reg.scene r).attach session).record.state ≠ .stopped := by
    rw [record]
    exact tracked r place.mem
  rw [sessionStarting_of_takes found, ← hid, onRecord_eq place, place.getElem?]
  refine ⟨rfl, ?_⟩
  show (reg.settle front r back ((reg.scene r).attach session)).entries = _
  unfold settle
  rw [if_neg goesOn]
  show front ++ ((reg.scene r).attach session).record :: back = _
  rw [record, place.entries, List.modify_eq_take_drop, List.take_left, List.drop_left]
  rfl

/-- Where a record takes the sessions of a process, one in front of it may be found before it. -/
lemma find?_takes (front back : List Record) (takes : q.Takes pid) :
    (front ++ q :: back).find? (·.Takes pid) = some q ∧ (∀ r ∈ front, ¬r.Takes pid) ∨
      ∃ c ∈ front, (front ++ q :: back).find? (·.Takes pid) = some c ∧ c.Takes pid := by
  rw [List.find?_append]
  cases found : front.find? (·.Takes pid) with
  | none =>
    rw [Option.none_or, List.find?_cons_of_pos (by exact decide_eq_true takes)]
    refine .inl ⟨rfl, fun r hr => ?_⟩
    exact decide_eq_false_iff_not.mp (Bool.eq_false_iff.mpr (List.find?_eq_none.mp found r hr))
  | some c =>
    have own := List.find?_some found
    exact .inr ⟨c, List.mem_of_find?_eq_some found, rfl, of_decide_eq_true own⟩

/-- The first record with an id that a record in front has is in front as well. -/
lemma indexOf_lt {c : Record} (entries : reg.entries = front ++ q :: back) (hc : c ∈ front) :
    ∃ index < front.length, reg.indexOf c.id = some index := by
  obtain ⟨index, hindex⟩ : ∃ index, front.findIdx? (·.id = c.id) = some index := by
    refine Option.isSome_iff_exists.mp (List.findIdx?_isSome.trans ?_)
    exact List.any_eq_true.mpr ⟨c, hc, decide_eq_true rfl⟩
  refine ⟨index, (List.findIdx?_eq_some_iff_getElem.mp hindex).1, ?_⟩
  unfold indexOf
  rw [entries, List.findIdx?_append, hindex]
  rfl

/-- A record that takes the sessions of a process gets them, unless one in front of it takes them or
has its id. -/
lemma takerIndex_le (entries : reg.entries = front ++ q :: back) (takes : q.Takes session.pid) :
    ∃ index ≤ front.length, reg.takerIndex session = some index ∧
      (index = front.length ↔ ∀ r ∈ front, r.id ≠ q.id ∧ ¬r.Takes session.pid) := by
  unfold takerIndex
  obtain ⟨found, free⟩ | ⟨c, hc, found, own⟩ := find?_takes front back takes
  · rw [entries, found, Option.bind_some]
    by_cases distinct : ∀ r ∈ front, r.id ≠ q.id
    · have place : Located reg front q back := ⟨entries, distinct⟩
      exact ⟨front.length, le_rfl, place.indexOf,
        iff_of_true rfl fun r hr => ⟨distinct r hr, free r hr⟩⟩
    · -- it is found first, but its id leads to another record
      obtain ⟨twin, htwin, same⟩ : ∃ r ∈ front, r.id = q.id := by
        simpa using distinct
      obtain ⟨index, less, hindex⟩ := indexOf_lt entries htwin
      rw [same] at hindex
      exact ⟨index, less.le, hindex, iff_of_false less.ne fun all => (all twin htwin).1 same⟩
  · rw [entries, found, Option.bind_some]
    obtain ⟨index, less, hindex⟩ := indexOf_lt entries hc
    exact ⟨index, less.le, hindex, iff_of_false less.ne fun all => (all c hc).2 own⟩

/-- When a process has been bound to a record, a session that it opens next is attached, at one
place and nowhere else, and this is the place of the record exactly if no record in front of it has
the process without being shown to run (or has its id, which takes descriptors of other
applications than those that were asked for). -/
theorem attached_where_bound_iff (h : Reachable P reg) (bound : Binds host reg session.pid q reg')
    (entries : reg'.entries = front ++ q :: back) :
    ∃ index, reg'.takerIndex session = some index ∧
      (reg'.sessionStarting session).1 = .ok (reg'.entries[index]?.map Record.id) ∧
      (reg'.sessionStarting session).2.entries =
        reg'.entries.modify index (fun r => { r with session := some session }) ∧
      (index = front.length ↔
        ∀ r ∈ front, r.id ≠ q.id ∧ (r.pid = session.pid → r.state.shown = .running)) := by
  obtain ⟨answered, binding⟩ := bound
  have tracked : ∀ r ∈ reg'.entries, r.state ≠ .stopped := by
    have reachable : Reachable (fun _ => True) (reg.perform host (.authorize session.pid)).2 :=
      (h.mono fun _ _ => trivial).perform _ trivial
    have same : (reg.perform host (.authorize session.pid)).2 = reg' := congrArg Prod.snd answered
    rw [← same]
    exact reachable.running
  -- the record that was bound takes the session, so somebody does
  obtain ⟨index, -, taker, first⟩ := takerIndex_le entries binding.takes
  obtain ⟨answer, attached⟩ := sessionStarting_takerIndex tracked taker
  refine ⟨index, taker, answer, attached, first.trans ?_⟩
  simp only [Record.Takes, not_and, not_not]

/-- A machine whose controller takes the process 7 for that of the clock. -/
def hostOfClock : Host := { Host.willing with hasProcess := fun id pid => id = ⟨"clock"⟩ ∧ pid = 7 }

/-- The clock is launched, and then the notes, which are in front of it and have no process yet. -/
def launches : List (Host × Operation) :=
  [.start ⟨"clock"⟩ [], .start ⟨"notes"⟩ []].map (Prod.mk .willing)

/-- The session of the clock goes to the clock, past the notes. -/
theorem clock_attached_behind_notes :
    Reachable Host.Faithful (after .standard .standard launches) ∧
    ∃ q reg' front, Binds hostOfClock (after .standard .standard launches) 7 q reg' ∧
      reg'.entries = front ++ q :: [] ∧ q.id = ⟨"clock"⟩ ∧ front.map Record.id = [⟨"notes"⟩] ∧
      (reg'.sessionStarting windowOfClock).2.entries =
        reg'.entries.modify 1 (fun r => { r with session := some windowOfClock }) := by
  have reachable : Reachable Host.Faithful (after .standard .standard launches) :=
    willing_reachable _
  obtain ⟨notes, clock, entries⟩ := List.length_eq_two.mp
    (show (after .standard .standard launches).entries.length = 2 by decide)
  have known : ((after .standard .standard launches).entries.map fun r =>
      (r.id, r.state, r.pid)) =
        [(⟨"notes"⟩, .starting, 0), (⟨"clock"⟩, .starting, 0)] := by decide
  rw [entries] at known
  obtain ⟨⟨hnotes, -, none⟩, hclock, starting, -⟩ :
      (notes.id = ⟨"notes"⟩ ∧ notes.state = .starting ∧ notes.pid = 0) ∧
        clock.id = ⟨"clock"⟩ ∧ clock.state = .starting ∧ clock.pid = 0 := by
    simpa using known
  have bound : Binds hostOfClock (after .standard .standard launches) windowOfClock.pid _ _ :=
    binds_of_confirmed (show _ = [notes] ++ clock :: [] from entries) starting
      (by rw [hclock]; rfl) (by
      rw [List.forall_mem_singleton, hnotes]
      exact fun _ => rfl)
  obtain ⟨index, -, -, attached, first⟩ :=
    attached_where_bound_iff reachable bound rfl
  have place : index = 1 := first.mpr (by
    rw [List.forall_mem_singleton, hnotes, hclock, none]
    exact ⟨by decide, fun no => absurd no (by decide)⟩)
  rw [place] at attached
  exact ⟨reachable, _, _, _, bound, rfl, hclock, congrArg (fun id => [id]) hnotes, attached⟩

/-- The clock has kept its process from a session that has ended, and has the focus while the notes
start, which the controller takes the process for now. -/
def succession : List (Host × Operation) :=
  [.start ⟨"clock"⟩ [], .process (.starting ⟨"clock"⟩), .authorize 7,
    .sessionStarting windowOfClock, .sessionState windowOfClock.id .running, .suspend ⟨"clock"⟩,
    .sessionState windowOfClock.id .suspended, .process (.suspended ⟨"clock"⟩),
    .sessionClosed windowOfClock.id, .start ⟨"notes"⟩ [], .focus ⟨"clock"⟩,
    .process (.starting ⟨"notes"⟩)].map (Prod.mk .willing)

/-- The process is bound to the notes, and its session goes to the clock, which does not run. -/
theorem session_of_notes_goes_to_clock :
    Reachable Host.Faithful (after .standard .standard succession) ∧
    ∃ q reg', Binds .willing (after .standard .standard succession) 7 q reg' ∧
      q.id = ⟨"notes"⟩ ∧
      (reg'.sessionStarting windowOfClock).1 = .ok (some ⟨"clock"⟩) ∧
      ((reg'.sessionStarting windowOfClock).2.entries.map fun r => (r.id, r.session)) =
        [(⟨"clock"⟩, some windowOfClock), (⟨"notes"⟩, none)] := by
  obtain ⟨clock, notes, entries⟩ := List.length_eq_two.mp
    (show (after .standard .standard succession).entries.length = 2 by decide)
  have known : ((after .standard .standard succession).entries.map fun r => (r.id, r.state)) =
      [(⟨"clock"⟩, .stoppedResumable), (⟨"notes"⟩, .starting)] := by decide
  rw [entries] at known
  obtain ⟨⟨-, rests⟩, hnotes, starting⟩ : (clock.id = ⟨"clock"⟩ ∧
      clock.state = .stoppedResumable) ∧ notes.id = ⟨"notes"⟩ ∧ notes.state = .starting := by
    simpa using known
  -- the clock is not asked, because it does not start
  have bound : Binds .willing (after .standard .standard succession) 7 { notes with pid := 7 } _ :=
    binds_of_confirmed (show _ = [clock] ++ notes :: [] from entries) starting rfl (by
      rw [List.forall_mem_singleton, rests]
      exact fun no => absurd no (by decide))
  refine ⟨willing_reachable _, { notes with pid := 7 }, ((after .standard .standard
    succession).authorizeSession .willing 7).2, ?_, hnotes, by decide, by decide⟩
  rw [bound.1]
  exact bound

end Registry

end AppLifecycle
