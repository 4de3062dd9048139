import AppLifecycle.Proofs.Process.Ledger
import AppLifecycle.Proofs.Registry.Reachable
import Mathlib.Data.List.Infix

/-!
# What is reported of a launch

Of each launch one start is reported and at most one end. They come in this order, unless the end
is collected and reported between the two steps of the launch (`Ledger.Overtaken`).
-/

namespace AppLifecycle

open ProcessEvent (isStart isEnd)

/-- The end of a process is reported without a start before it. -/
def EndsFirst (events : List ProcessEvent) : Prop :=
  ∃ front e back, events = front ++ e :: back ∧ isEnd e ∧ ∀ q ∈ front, ¬isStart q

lemma endsFirst_concat {events : List ProcessEvent} {e : ProcessEvent} :
    EndsFirst (events ++ [e]) ↔ EndsFirst events ∨ isEnd e ∧ ∀ q ∈ events, ¬isStart q := by
  constructor
  · rintro ⟨front, q, back, same, hend, free⟩
    -- the event that is appended is the first end, or it stands behind that
    obtain rfl | ⟨back, last, rfl⟩ := back.eq_nil_or_concat
    · obtain ⟨rfl, rfl⟩ := List.append_inj' same rfl |>.imp_right List.singleton_inj.mp
      exact .inr ⟨hend, free⟩
    · rw [List.concat_eq_append, ← List.cons_append, ← List.append_assoc] at same
      exact .inl ⟨front, q, back, (List.append_inj' same rfl).1, hend, free⟩
  · rintro (⟨front, q, back, rfl, hend, free⟩ | ⟨hend, free⟩)
    · exact ⟨front, q, back ++ [e], by simp, hend, free⟩
    · exact ⟨events, e, [], rfl, hend, free⟩

lemma not_endsFirst_of_start {e : ProcessEvent} {events : List ProcessEvent}
    (h : isStart e = true) : ¬EndsFirst (e :: events) := by
  rintro ⟨front, q, back, same, hend, free⟩
  cases front with
  | nil =>
    obtain ⟨rfl, -⟩ := List.cons.inj same
    rw [ProcessEvent.isStart_of_isEnd hend] at h
    exact Bool.false_ne_true h
  | cons p front =>
    obtain ⟨rfl, -⟩ := List.cons.inj same
    exact free _ List.mem_cons_self h

namespace Ledger

variable {l : Ledger} {n : Nat} {catalog : List Descriptor} {grace : Duration} {turns : List Turn}

/-- The end that is to be reported next is that of a launch whose start has not been announced. -/
def Overtakes (l : Ledger) (n : Nat) : Prop :=
  n ∈ l.waiting ∧ l.collected.head?.map Prod.fst = some n

/-- A report of the end of a launch was made before the launch announced its start. -/
def Overtaken (catalog : List Descriptor) (grace : Duration) (turns : List Turn) (n : Nat) :
    Prop :=
  ∃ before, before ++ [.report] <+: turns ∧ (after catalog grace before).Overtakes n

lemma overtaken_concat {turn : Turn} :
    Overtaken catalog grace (turns ++ [turn]) n ↔ Overtaken catalog grace turns n ∨
      turn = .report ∧ (after catalog grace turns).Overtakes n := by
  unfold Overtaken
  constructor
  · rintro ⟨before, earlier, overtakes⟩
    obtain same | earlier := List.prefix_concat_iff.mp earlier
    · obtain ⟨rfl, last⟩ := List.append_inj' same rfl
      exact .inr ⟨(List.singleton_inj.mp last).symm, overtakes⟩
    · exact .inl ⟨before, earlier, overtakes⟩
  · rintro (⟨before, earlier, overtakes⟩ | ⟨rfl, overtakes⟩)
    · exact ⟨before, earlier.trans (List.prefix_append _ _), overtakes⟩
    · exact ⟨turns, List.prefix_refl _, overtakes⟩

lemma endsFirst_eventsOf_concat {stream : List (Nat × ProcessEvent)} {x : Nat × ProcessEvent} :
    EndsFirst (eventsOf n (stream ++ [x])) ↔ EndsFirst (eventsOf n stream) ∨
      x.1 = n ∧ isEnd x.2 ∧ ∀ q ∈ eventsOf n stream, ¬isStart q := by
  rw [eventsOf_concat]
  split
  · rename_i same
    rw [endsFirst_concat, and_iff_right same]
  · rename_i other
    rw [List.append_nil, or_iff_left fun h => other h.1]

/-- The events of a launch begin with an end only if that is reported while the start waits. -/
lemma Sound.endsFirst_step (h : l.Sound) (turn : Turn) (n : Nat) :
    EndsFirst (eventsOf n (l.step turn).stream) ↔
      EndsFirst (eventsOf n l.stream) ∨ turn = .report ∧ l.Overtakes n := by
  cases turn with
  | track id pid now =>
    have same : (l.step (.track id pid now)).stream = l.stream := by
      obtain same | same := l.step_track id pid now
      · rw [same]
        rfl
      · rw [same]
    simp [same]
  | announce m id =>
    show EndsFirst (eventsOf n (l.announce m id).stream) ↔ _
    unfold Ledger.announce
    split
    · simp [endsFirst_eventsOf_concat, isEnd]
    · simp
  | stop id => simp [Ledger.step, Ledger.markStopping]
  | suspend id =>
    show EndsFirst (eventsOf n (l.suspended id).stream) ↔ _
    unfold Ledger.suspended
    split
    · simp
    · simp [endsFirst_eventsOf_concat, isEnd]
  | collect exits now => simp [Ledger.step, Ledger.collect]
  | report =>
    show EndsFirst (eventsOf n l.reportNext.stream) ↔ _
    unfold Ledger.reportNext Overtakes
    split
    · rename_i none
      simp [none]
    · rename_i x rest collected
      obtain ⟨named, hend⟩ := h.collected x (by rw [collected]; exact List.mem_cons_self)
      have free := h.no_start_iff (List.getElem?_eq_some_iff.mp named).1
      -- the start of the launch has not been reported exactly if it is still to be announced
      rw [endsFirst_eventsOf_concat, collected]
      refine or_congr_right ⟨?_, ?_⟩
      · rintro ⟨rfl, -, none⟩
        exact ⟨rfl, free.mp none, rfl⟩
      · rintro ⟨-, waits, same⟩
        obtain rfl : x.1 = n := Option.some.inj same
        exact ⟨rfl, hend, free.mpr waits⟩

theorem endsFirst_iff (catalog : List Descriptor) (grace : Duration) (turns : List Turn)
    (n : Nat) :
    EndsFirst (eventsOf n (after catalog grace turns).stream) ↔
      Overtaken catalog grace turns n := by
  induction turns using List.reverseRecOn with
  | nil =>
    constructor
    · rintro ⟨front, e, back, none, -⟩
      exact absurd none.symm (List.append_ne_nil_of_right_ne_nil _ (List.cons_ne_nil _ _))
    · rintro ⟨before, earlier, -⟩
      exact absurd (List.prefix_nil.mp earlier)
        (List.append_ne_nil_of_right_ne_nil _ (List.cons_ne_nil _ _))
  | append_singleton turns turn ih =>
    rw [after_concat, (after_sound catalog grace turns).endsFirst_step, ih, overtaken_concat]

/-- The ledger is one of what the controller does, whatever steps are taken in which order. Of every
launch one start is reported, once it has been announced, and at most one end; and an end is
reported without a start before it exactly if it was collected and reported between the two steps
of the launch. -/
theorem events_of_launch (catalog : List Descriptor) (grace : Duration) :
    (∀ steps, ∃ turns, (after catalog grace turns).Matches (.after catalog grace steps)) ∧
    (∀ turns, ∃ steps, (after catalog grace turns).Matches (.after catalog grace steps)) ∧
    ∀ turns n id, (after catalog grace turns).launched[n]? = some id →
      (∀ e ∈ eventsOf n (after catalog grace turns).stream, e.id = id) ∧
      (eventsOf n (after catalog grace turns).stream).countP isStart =
        (if n ∈ (after catalog grace turns).waiting then 0 else 1) ∧
      (eventsOf n (after catalog grace turns).stream).countP isEnd ≤ 1 ∧
      (EndsFirst (eventsOf n (after catalog grace turns).stream) ↔
        Overtaken catalog grace turns n) := by
  refine ⟨exists_turns catalog grace, exists_steps catalog grace, fun turns n id launched => ?_⟩
  have sound := after_sound catalog grace turns
  exact ⟨sound.id_of_mem launched,
    sound.countP_start (List.getElem?_eq_some_iff.mp launched).1, sound.countP_end n,
    endsFirst_iff catalog grace turns n⟩

/-- The clock and the mail. -/
def clockAndMail : List Descriptor :=
  [.basic ⟨"clock"⟩ "Clock" ["clock"], .basic ⟨"mail"⟩ "Mail" ["mail"]]

/-- Both are launched, and the clock ends cleanly before the start of the mail is announced. -/
def sideBySide : List Turn :=
  [.track ⟨"clock"⟩ 7 ⟨0⟩, .track ⟨"mail"⟩ 8 ⟨0⟩, .announce 0 ⟨"clock"⟩, .suspend ⟨"mail"⟩,
    .collect (fun pid => if pid = 7 then some (.code 0) else none) ⟨5⟩, .report,
    .announce 1 ⟨"mail"⟩]

theorem clock_starts_then_ends :
    (after clockAndMail (.ofSeconds 2) sideBySide).launched[0]? = some ⟨"clock"⟩ ∧
    eventsOf 0 (after clockAndMail (.ofSeconds 2) sideBySide).stream =
      [.starting ⟨"clock"⟩, .stopped ⟨"clock"⟩] ∧
    (eventsOf 0 (after clockAndMail (.ofSeconds 2) sideBySide).stream).countP isEnd ≤ 1 ∧
    ¬Overtaken clockAndMail (.ofSeconds 2) sideBySide 0 := by
  have launched : (after clockAndMail (.ofSeconds 2) sideBySide).launched[0]? =
      some ⟨"clock"⟩ := by decide
  have events : eventsOf 0 (after clockAndMail (.ofSeconds 2) sideBySide).stream =
      [.starting ⟨"clock"⟩, .stopped ⟨"clock"⟩] := by decide
  obtain ⟨-, -, account⟩ := events_of_launch clockAndMail (.ofSeconds 2)
  obtain ⟨-, -, once, endsFirst⟩ := account sideBySide 0 ⟨"clock"⟩ launched
  refine ⟨launched, events, once, endsFirst.not.mp ?_⟩
  rw [events]
  exact not_endsFirst_of_start rfl

end Ledger

/-- The clock is launched and ends with code 1 at once. -/
def afterHaste : Controller :=
  .after Ledger.clockAndMail (.ofSeconds 2)
    [.track ⟨"clock"⟩ 7 ⟨0⟩, .collect (fun _ => some (.code 1)) ⟨0⟩, .report, .announce ⟨"clock"⟩]

/-- A registry that has launched the clock and hears what is reported of it. -/
def afterNews : Registry :=
  .after .standard .standard
    ((.start ⟨"clock"⟩ [] :: afterHaste.stream.map .process).map (Prod.mk .willing))

/-- The end of the only launch is reported before the start. The registry removes the record of the
clock and makes another, which has no process and keeps the device awake. -/
theorem clock_ends_before_start :
    afterHaste.stream = [.failed ⟨"clock"⟩ true, .starting ⟨"clock"⟩] ∧
    EndsFirst afterHaste.stream ∧ afterHaste.tracked = [] ∧
    (afterNews.entries.map fun r => (r.id, r.state, r.process, r.pid)) =
      [(⟨"clock"⟩, .starting, .running, 0)] ∧
    afterNews.wakelock.held = true := by
  have stream : afterHaste.stream = [.failed ⟨"clock"⟩ true, .starting ⟨"clock"⟩] := by decide
  refine ⟨stream, ?_, by decide, by decide +kernel, by decide +kernel⟩
  rw [stream]
  exact ⟨[], _, _, rfl, rfl, fun _ none => absurd none List.not_mem_nil⟩

end AppLifecycle
