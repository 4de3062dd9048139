import AppLifecycle.Proofs.Registry.Orderly
import AppLifecycle.Proofs.Registry.Origin
import AppLifecycle.Proofs.Scene.Compatible

/-!
# States and processes of records

In every registry that can be reached, the state of each record and what is known of its process fit
together (`states_compatible`). The end of a process is no exception, although it is the one report
that leads to pairs which do not: a record that has been told of it is given up, whether the record
has stopped with it or not (`mem_onProcessStopped`).
-/

namespace AppLifecycle

namespace Registry

variable {P : Host → Prop} {host : Host} {op : Operation} {reg : Registry}
variable {front back front' back' : List Record} {r q : Record} {f : Scene → Scene} {s : Scene}

/-! ## The end of a process -/

/-- An id leads to one place only. -/
lemma Located.unique (place : Located reg front r back) (place' : Located reg front' q back')
    (same : q.id = r.id) : front' = front ∧ q = r ∧ back' = back := by
  have found := place'.indexOf
  rw [same, place.indexOf] at found
  obtain ⟨fronts, rest⟩ := List.append_inj (place'.entries.symm.trans place.entries)
    (Option.some.inj found).symm
  obtain ⟨record, backs⟩ := List.cons.inj rest
  exact ⟨fronts, record, backs⟩

/-- When a process has ended, the records that are left were there before, as they are now. -/
lemma mem_onProcessStopped (host : Host) (id : AppId)
    (hq : q ∈ (reg.onProcessStopped host id).entries) : q ∈ reg.entries := by
  obtain same | ⟨front, r, back, settled, place, -, -, hsettled, ended⟩ :=
    onProcessStopped_cases host id reg
  · rw [same] at hq
    exact hq
  · have sameId : ((reg.scene r).onProcess host .stopped).record.id = r.id :=
      ((Scene.Moves.refl (reg.scene r)).onProcess _).sameIdentity.id
    generalize (reg.scene r).onProcess host .stopped = s at hsettled sameId
    subst hsettled
    obtain ⟨none, same⟩ | ⟨front', c, back', left, hc, same⟩ := ended <;> rw [same] at hq
    · obtain hq | ⟨rfl, -⟩ := mem_settle hq
      · exact place.mem_of_mem_append hq
      · -- nothing is left that has the id
        exact absurd sameId (indexOf_eq_none.mp none _ hq)
    · have before : q ∈ front' ++ back' := hq
      obtain mem | ⟨rfl, running⟩ := mem_settle (mem_of_mem_append left.entries before)
      · exact place.mem_of_mem_append mem
      · -- the record that was told is still the first that has the id, and is given up
        have settled : Located (reg.settle front r back s) front s.record back := by
          unfold settle
          rw [if_neg running]
          exact ⟨rfl, fun c hc => sameId ▸ place.first c hc⟩
        obtain ⟨rfl, -, rfl⟩ := settled.unique left (hc.trans sameId.symm)
        exact place.mem_of_mem_append before

/-- What holds of new records, and is kept by whatever else becomes of a record than that its process
ends, holds of every record of every reachable registry. -/
theorem Reachable.forall_entries_lasting {Q : Record → Prop} (h : Reachable P reg)
    (hnew : ∀ reg q, Newborn reg q → Q q)
    (hfate : ∀ reg host op r q, (∀ id, op ≠ .process (.stopped id)) → Reachable P reg → P host →
      r ∈ reg.entries → Fate host op reg r q → Q r → Q q) : ∀ q ∈ reg.entries, Q q := by
  induction h with
  | empty _ _ => exact fun _ hq => absurd hq List.not_mem_nil
  | perform op before hhost ih =>
    intro q hq
    -- what a record is told of the end of its process is of no matter: it does not outlast it
    by_cases ends : ∃ id, op = .process (.stopped id)
    · obtain ⟨id, rfl⟩ := ends
      exact ih q (mem_onProcessStopped _ id hq)
    · obtain ⟨r, hr, fate⟩ | born := perform_origin _ op hq
      · exact hfate _ _ op r q (fun id hop => ends ⟨id, hop⟩) before hhost hr fate (ih r hr)
      · exact hnew _ q born
  | takeEvents _ ih => exact ih
  | takeJournal _ ih => exact ih

/-! ## Records keep to the table -/

lemma Treatment.fits (h : Treatment host reg op r f) (lasting : ∀ id, op ≠ .process (.stopped id))
    (hs : s.record = r) (fits : r.Fits) : (f s).record.Fits := by
  subst hs
  cases h with
  | close _ => exact Scene.close_fits host fits
  | suspend _ _ => exact Scene.request_fits host _ fits
  | resume _ _ => exact Scene.request_fits host _ fits
  | resumeRequested _ _ => exact Scene.request_fits host _ fits
  | setExempt exempt _ => exact fits.of_standing (s.setExempt_standing host exempt)
  | setStage stage _ => exact fits.of_standing (s.setStage_standing stage)
  | updateScreenshot _ => exact fits
  | tick now => exact Scene.tick_fits host now fits
  | started _ awaited => exact Scene.onProcess_fits host fits (by decide) (by decide) fun _ => awaited
  | failed _ _ =>
    have failed : (s.onProcess host .failed).record.Fits :=
      Scene.onProcess_fits host fits (by decide) (by decide) nofun
    exact failed
  | @ended _ id _ _ => exact absurd rfl (lasting id)
  | suspended _ => exact Scene.onProcess_fits host fits (by decide) (by decide) nofun
  | attach session _ _ _ _ => exact Scene.attach_fits session fits
  | reported _ state _ _ _ _ => exact Scene.hear_fits host state fits

/-- In every reachable registry, the process of each record is in a state that the state of the
record admits. -/
theorem Reachable.fits (h : Reachable P reg) : ∀ r ∈ reg.entries, r.Fits := by
  refine h.forall_entries_lasting ?_ ?_
  · intro _ q born
    unfold Record.Fits
    rw [born.state]
    obtain unknown | running := born.process
    · rw [unknown]
      rfl
    · rw [running]
      rfl
  · intro reg host op r q lasting _ _ _ fate fits
    cases fate with
    | kept _ => exact fits
    | bound _ _ _ => exact fits
    | ticked _ _ _ _ => exact fits
    | treated _ _ treatment hs _ => exact treatment.fits lasting hs fits

/-- In every registry that can be reached, only a record whose process is not known or runs is
starting; the process is not known only while its record starts, runs or closes, and is suspended
only if the record is, if it closes, or if it can be launched again, for which a process must have
been seen. No record is there whose process has ended. -/
theorem states_compatible (h : Reachable P reg) : ∀ r ∈ reg.entries,
    (r.state = .starting → r.process = .unknown ∨ r.process = .running) ∧
    (r.process = .unknown → r.state = .starting ∨ r.state = .running ∨ r.state = .closing) ∧
    (r.process = .suspended →
      r.state = .suspended ∨ r.state = .closing ∨ r.state = .stoppedResumable) ∧
    r.process ≠ .stopped ∧
    (r.state = .stoppedResumable → r.process ≠ .unknown ∧ r.canBeResumed = true) := by
  intro r hr
  have fits := h.fits r hr
  have tracked := h.running r hr
  unfold Record.Fits at fits
  unfold Record.canBeResumed
  -- what is left is to read the table
  cases state : r.state <;> cases process : r.process <;> rw [state, process] at fits <;>
    first
    | exact absurd fits (by decide)
    | exact absurd state tracked
    | simp

/-- What leads the clock into a state, with its process in another. -/
def route (state : InternalState) (process : ProcessState) : List Operation :=
  let launched : List Operation := [.start ⟨"clock"⟩ []] ++
    if process = .unknown then [] else [.process (.starting ⟨"clock"⟩)]
  let opened : List Operation := launched ++
    [.authorize 7, .sessionStarting windowOfClock, .sessionState windowOfClock.id .running]
  let reported : List Operation :=
    match process with
    | .failed => [.process (.failed ⟨"clock"⟩ false)]
    | .suspended => [.process (.suspended ⟨"clock"⟩)]
    | _ => []
  match state with
  | .starting => launched
  | .running => opened ++ reported
  | .runningInBackground =>
    opened ++ [.setExempt ⟨"clock"⟩ true, .suspend ⟨"clock"⟩] ++ reported
  | .suspendingWaitSession => opened ++ [.suspend ⟨"clock"⟩] ++ reported
  | .suspendingWaitProcess =>
    opened ++ [.suspend ⟨"clock"⟩, .sessionState windowOfClock.id .suspended] ++ reported
  | .suspended =>
    opened ++ [.suspend ⟨"clock"⟩, .process (.suspended ⟨"clock"⟩)] ++ reported
  | .closing => opened ++ [.stop ⟨"clock"⟩] ++ reported
  | .stoppedResumable =>
    opened ++ [.suspend ⟨"clock"⟩] ++ reported ++ [.sessionState windowOfClock.id .stopped]
  | .stopped => []

/-- The table says no less than what is true: a pair that it has is that of a record in some
registry, unless the record has stopped. -/
theorem reached_iff (state : InternalState) (process : ProcessState) :
    (∃ ops, ∃ r ∈ (after .standard .standard ops).entries,
      r.state = state ∧ r.process = process) ↔
    state ≠ .stopped ∧ state.admits process = true := by
  constructor
  · rintro ⟨ops, r, hr, rfl, rfl⟩
    have reachable := after_reachable .standard .standard ops
    exact ⟨reachable.running r hr, reachable.fits r hr⟩
  · rintro ⟨tracked, admitted⟩
    have arrived : (after .standard .standard ((route state process).map
        (Prod.mk .willing))).entries.map (fun r => (r.state, r.process)) = [(state, process)] := by
      cases state <;> cases process <;>
        first
        | exact absurd admitted (by decide)
        | exact absurd rfl tracked
        | decide
    have mem := List.mem_singleton.mpr (rfl : (state, process) = (state, process))
    rw [← arrived] at mem
    obtain ⟨r, hr, same⟩ := List.mem_map.mp mem
    exact ⟨_, r, hr, congrArg Prod.fst same, congrArg Prod.snd same⟩

/-- The clock is suspended and loses its session, while the notes are starting. -/
def snooze : List Operation :=
  route .stoppedResumable .suspended ++ [.start ⟨"notes"⟩ []]

/-- The clock can be launched again since its process was seen, and nothing is known of that of the
notes. -/
theorem snooze_compatible :
    Reachable Host.Faithful (after .standard .standard (snooze.map (Prod.mk .willing))) ∧
    (∃ r ∈ (after .standard .standard (snooze.map (Prod.mk .willing))).entries,
      r.state = .stoppedResumable ∧ r.process = .suspended ∧ r.canBeResumed = true) ∧
    ∃ r ∈ (after .standard .standard (snooze.map (Prod.mk .willing))).entries,
      r.state = .starting ∧ r.process = .unknown ∧ r.process ≠ .stopped := by
  have reachable := willing_reachable snooze
  have clock : ∃ r ∈ (after .standard .standard (snooze.map (Prod.mk .willing))).entries,
      r.state = .stoppedResumable ∧ r.process = .suspended := by decide
  have notes : ∃ r ∈ (after .standard .standard (snooze.map (Prod.mk .willing))).entries,
      r.state = .starting ∧ r.process = .unknown := by decide
  obtain ⟨r, hr, gone, suspended⟩ := clock
  obtain ⟨q, hq, starting, unknown⟩ := notes
  obtain ⟨-, -, -, -, resumable⟩ := states_compatible reachable r hr
  obtain ⟨-, -, -, alive, -⟩ := states_compatible reachable q hq
  exact ⟨reachable, ⟨r, hr, gone, suspended, (resumable gone).2⟩, q, hq, starting, unknown, alive⟩

end Registry

end AppLifecycle
