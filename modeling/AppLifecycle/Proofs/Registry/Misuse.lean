import AppLifecycle.Proofs.Registry.Orders
import AppLifecycle.Proofs.Registry.Sessions
import AppLifecycle.Proofs.Scene.Misuse

/-!
# No step is out of place

Whatever is done to a registry, in any order and with any answers of the machine, no record of it is
told to take a step that there is none of in the state that the record is in
(`never_out_of_place`). For most steps this is so because of the way that they are come to; closing
begins with an idle timer because the timer of a record runs while the record is closing only.
-/

namespace AppLifecycle

namespace Registry

variable {P : Host → Prop} {host : Host} {op : Operation} {reg reg' : Registry}
variable {front back : List Record} {r : Record} {s : Scene} {f : Scene → Scene}

/-- A violation has been reported. -/
def Reports (reg : Registry) (v : Violation) : Prop := .report (.violated v) ∈ reg.journal

instance (reg : Registry) (v : Violation) : Decidable (reg.Reports v) :=
  inferInstanceAs (Decidable (_ ∈ _))

/-- No step has been reported to be out of place. -/
def Proper (reg : Registry) : Prop := ∀ e ∈ reg.journal, e.Proper

/-! ## What is done to a record -/

lemma Treatment.proper (h : Treatment host reg op r f) (hs : s.record = r) (timed : r.Timed)
    (proper : s.Proper) : (f s).Proper := by
  subst hs
  cases h with
  | close _ => exact proper.close timed
  | suspend _ _ => exact proper.request _
  | resume _ _ => exact proper.request _
  | resumeRequested _ _ => exact proper.request _
  | setExempt exempt _ => exact proper.setExempt exempt
  | setStage stage _ => exact proper.setStage stage
  | updateScreenshot _ => exact proper.update _
  | tick now => exact proper.tick now
  | started _ _ => exact proper.onProcess (by decide)
  | failed _ _ =>
    have failed : (s.onProcess host .failed).Proper := proper.onProcess (by decide)
    exact failed.update _
  | ended _ _ => exact proper.onProcess (by decide)
  | suspended _ => exact proper.onProcess (by decide)
  | attach session _ _ _ _ => exact proper.attach session
  | reported _ state _ _ _ _ => exact proper.hear state timed

/-! ## What an operation does -/

lemma proper_append {journal effects : List Effect} (h : ∀ e ∈ journal, e.Proper)
    (proper : ∀ e ∈ effects, e.Proper) (same : reg.journal = journal ++ effects) : reg.Proper := by
  intro e he
  rw [same] at he
  obtain he | he := List.mem_append.mp he
  · exact h e he
  · exact proper e he

/-- The hold on a session may be given up at any time. -/
lemma proper_letGo (sessions : List Session) :
    ∀ e ∈ sessions.map fun x => Effect.letGo x.id, e.Proper := by
  intro e he
  obtain ⟨x, -, rfl⟩ := List.mem_map.mp he
  trivial

lemma settle_proper (front : List Record) (r : Record) (back : List Record) (h : s.Proper) :
    (reg.settle front r back s).Proper :=
  proper_append h (proper_letGo _) (settle_journal reg front r back s)

lemma Proper.evict (h : reg.Proper) (front : List Record) (r : Record) (back : List Record) :
    (reg.evict front r back).Proper :=
  proper_append h (proper_letGo _) (evict_journal reg front r back)

lemma Note.proper {helpers : List Nat} {effects : List Effect}
    (note : Note host reg op helpers effects) : ∀ e ∈ effects, e.Proper := by
  cases note with
  | unlaunched _ => simp [Effect.Proper]
  | trusted _ _ => simp
  | helper _ => simp [Effect.Proper]
  | intruder _ => simp [Effect.Proper]

/-- A new record has nothing to report. -/
lemma newcomer_proper (h : reg.Proper) (descriptor : Descriptor) (arguments : List String)
    (exempt : Bool) (introduction : Introduction op f) :
    (reg.newcomer host descriptor arguments exempt f).Proper := by
  unfold Scene.Proper
  rw [newcomer_journal introduction]
  exact h

lemma tick_proper (host : Host) (now : Instant) (h : reg.Proper) : (reg.tick host now).Proper :=
  tick_invariant now h fun seen front r back _ proper =>
    settle_proper front r back (Scene.Proper.tick (s := seen.scene r) proper now)

lemma Course.proper (course : Course host op reg reg') (timed : ∀ r ∈ reg.entries, r.Timed)
    (h : reg.Proper) : reg'.Proper := by
  -- what is done to a record by any other operation than a tick finds its timer as it was
  have treated : ∀ {front back r f}, Located reg front r back → Treatment host reg op r f →
      (f (reg.scene r)).Proper :=
    fun place treatment => treatment.proper rfl (timed _ place.mem) h
  cases course with
  | idle => exact h
  | note note => exact proper_append h note.proper rfl
  | announce _ => exact h
  | treat place treatment => exact settle_proper _ _ _ (treated place treatment)
  | relaunch place hid gone =>
    exact settle_proper _ _ _ (treated place (.started hid (.inl gone)))
  | finish place hid news _ _ =>
    exact (settle_proper _ _ _ (treated place (.ended hid news))).evict _ _ _
  | @launch _ id args _ _ _ =>
    have called : (reg.call (.start id.normalized args)).Proper :=
      proper_append h (by simp [Effect.Proper]) rfl
    exact newcomer_proper called _ _ _ (.launched (.start id args))
  | @bind _ _ pid _ binding =>
    cases binding with
    | confirmed _ _ _ => exact h
    | hinted _ _ _ => exact h
    | created arguments side _ _ _ => exact newcomer_proper h _ _ _ (.identified pid side)
  | @appear _ id descriptor _ _ _ _ new =>
    have created : (reg.newcomer host descriptor [] (reg.lifecycle.isExempt id.normalized)
        fun s => s).Proper := newcomer_proper h _ _ _ (.launched (.process (.starting id)))
    rw [← new] at created
    exact settle_proper _ _ _ (Scene.Proper.onProcess created (by decide))
  | @stray _ id _ _ _ _ => exact newcomer_proper h _ _ _ (.launched (.process (.starting id)))
  | @raise _ front back r _ _ _ =>
    obtain ⟨entries, events, frame⟩ := raise_frame reg front r back
    rw [frame]
    exact h
  | @focus _ front back r _ _ _ _ =>
    obtain ⟨entries, events, frame⟩ := raise_frame reg front r back
    obtain ⟨entries', events', frame'⟩ := (reg.raise front r back).passFocus_frame r.id
    rw [frame', frame]
    exact h
  | tick now => exact tick_proper host now h

/-- In every registry that can be reached, no step has been out of place since the journal was last
taken. -/
theorem Reachable.proper (h : Reachable P reg) : reg.Proper := by
  induction h with
  | empty _ _ => exact fun _ he => absurd he List.not_mem_nil
  | perform op before _ ih => exact (perform_course _ op _).proper before.timed ih
  | takeEvents _ ih => exact ih
  | takeJournal _ _ => exact fun _ he => absurd he List.not_mem_nil

/-- In no run of a registry is the process of a record said to be unknown again, is a session taken
away from an application that has not stopped, is a record suspended that does not run or resumed in
a state that it is not resumed from, or does one begin to close while its close timer is running. -/
theorem never_out_of_place (lifecycle : LifecyclePolicy) (authorization : AuthorizationPolicy)
    (ops : List (Host × Operation)) :
    ¬ (after lifecycle authorization ops).Reports .processUnknown ∧
    (∀ state, ¬ (after lifecycle authorization ops).Reports (.sessionRemoved state)) ∧
    (∀ state, ¬ (after lifecycle authorization ops).Reports (.suspendWhile state)) ∧
    (∀ state, ¬ (after lifecycle authorization ops).Reports (.resumeWhile state)) ∧
    ¬ (after lifecycle authorization ops).Reports .closeWhileArmed := by
  have proper := (after_reachable lifecycle authorization ops).proper
  have unreported (v : Violation) (misuse : v.isMisuse = true) :
      ¬ (after lifecycle authorization ops).Reports v := by
    intro reported
    have none : v.isMisuse = false := proper _ reported
    exact Bool.false_ne_true (none.symm.trans misuse)
  exact ⟨unreported _ rfl, fun state => unreported _ rfl, fun state => unreported _ rfl,
    fun state => unreported _ rfl, unreported _ rfl⟩

/-- Other violations do occur: the process of the clock fails while the clock runs. -/
example : (after .standard .standard ([.start ⟨"clock"⟩ [], .process (.starting ⟨"clock"⟩),
    .authorize 7, .sessionStarting windowOfClock, .sessionState windowOfClock.id .running,
    .process (.failed ⟨"clock"⟩ false)].map (Prod.mk .willing))).Reports
      (.processFailed .running) := by
  decide

end Registry

end AppLifecycle
