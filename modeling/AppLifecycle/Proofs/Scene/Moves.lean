import AppLifecycle.Registry.Operation
import Mathlib.Logic.Relation
import Mathlib.Tactic.Lemma

/-!
# The moves of a record

Whatever happens to a record is a chain of five kinds of moves: something is noted in the journal,
a detail of the record changes, it gets another stage, it enters a state, or its exemption changes.
`Moves` is the chain, and `Moves.perform` says that every operation of a record is one. What each
single move keeps is thereby kept by every operation, without another look at the state machine.
-/

namespace AppLifecycle

/-- `r'` is `r` up to details: neither what identifies a record, nor its stage, nor what decides on
its share in the wakelock has changed. -/
structure Record.SameCore (r r' : Record) : Prop where
  id : r'.id = r.id
  descriptor : r'.descriptor = r.descriptor
  arguments : r'.arguments = r.arguments
  focused : r'.focused = r.focused
  owner : r'.owner = r.owner
  stage : r'.stage = r.stage
  state : r'.state = r.state
  exempt : r'.exempt = r.exempt

/-- What a record keeps as long as it is tracked. -/
structure Record.SameIdentity (r r' : Record) : Prop where
  id : r'.id = r.id
  descriptor : r'.descriptor = r.descriptor
  arguments : r'.arguments = r.arguments
  focused : r'.focused = r.focused
  owner : r'.owner = r.owner

namespace Scene

/-- What a session's report does to the record that it is attached to. -/
def hear (host : Host) (state : SessionState) (s : Scene) : Scene :=
  let s := s.onSession host state
  if state = .stopped ∧ (s.record.state = .stopped ∨ s.record.state = .stoppedResumable) then
    s.detach
  else s

/-- What is known of a process that says which application it is. -/
def identify (pid : Nat) (side : Prop) [Decidable side] (s : Scene) : Scene :=
  let s := s.setPid pid
  if side then (s.setStage .side).2 else s

variable {host : Host} {s t u : Scene}

inductive Move (host : Host) : Scene → Scene → Prop where
  | log (s : Scene) (e : Effect) : Move host s (s.log e)
  | detail (s : Scene) (f : Record → Record) (h : ∀ r, Record.SameCore r (f r)) :
      Move host s (s.update f)
  | stage (s : Scene) (stage : Stage)
      (supported : s.record.descriptor.stages.supports stage = true) :
      Move host s (s.update fun r => { r with stage })
  | enter (s : Scene) (state : InternalState) : Move host s (s.enter host state)
  | exempt (s : Scene) (exempt : Bool) :
      Move host s ((s.update fun r => { r with exempt }).syncWakelock host)

/-- Any number of moves. -/
def Moves (host : Host) : Scene → Scene → Prop := Relation.ReflTransGen (Move host)

namespace Moves

/-! ## Single moves -/

lemma refl (s : Scene) : Moves host s s := Relation.ReflTransGen.refl

lemma log (h : Moves host s t) (e : Effect) : Moves host s (t.log e) := h.tail (.log t e)

lemma call (h : Moves host s t) (c : ControllerCall) : Moves host s (t.call c) := h.log _

lemma update (h : Moves host s t) (f : Record → Record) (hf : ∀ r, Record.SameCore r (f r)) :
    Moves host s (t.update f) := h.tail (.detail t f hf)

lemma enter (h : Moves host s t) (state : InternalState) : Moves host s (t.enter host state) :=
  h.tail (.enter t state)

lemma violate (h : Moves host s t) (v : Violation) : Moves host s (t.violate v) :=
  (h.update _ fun _ => by constructor <;> rfl).log _

lemma askSession (h : Moves host s t) (action : SessionAction) (absent : Violation) :
    Moves host s (t.askSession action absent) := by
  unfold Scene.askSession
  split
  · exact h.log _
  · exact h.violate absent

/-! ## Reconciliation -/

lemma suspend (h : Moves host s t) : Moves host s (t.suspend host) := by
  unfold Scene.suspend
  split
  · exact h.violate _
  · split
    · exact h.violate _
    · split
      · exact h.enter _
      · exact (h.log _).enter _

lemma resume (h : Moves host s t) : Moves host s (t.resume host) := by
  have wake : Moves host s (((t.enter host .running).call (.resume t.record.id)).update fun r =>
      { r with process := if r.process = .suspended then .running else r.process }) :=
    ((h.enter _).call _).update _ fun _ => by constructor <;> rfl
  unfold Scene.resume
  split
  · exact wake.askSession _ _
  · exact wake.askSession _ _
  · exact (h.enter _).askSession _ _
  · exact h.enter _
  · exact h.violate _

lemma respawn (h : Moves host s t) : Moves host s (t.respawn host) := by
  have started := (h.update (fun r => { r with pid := 0, process := .unknown })
    fun _ => by constructor <;> rfl).enter .starting
  unfold Scene.respawn
  dsimp only
  split
  · exact started.call _
  · exact ((started.call _).log _).enter _

lemma reconcile (h : Moves host s t) : Moves host s (t.reconcile host) := by
  have counted := h.update (fun r => { r with passes := r.passes + 1 })
    fun _ => by constructor <;> rfl
  unfold Scene.reconcile
  dsimp only
  split
  · exact counted.resume
  · exact counted.resume
  · exact counted.resume
  · exact counted.respawn
  · split
    · exact counted.suspend
    · exact counted
    · exact counted.violate _
  · exact counted

/-! ## Closing and stopping -/

lemma beginClose (h : Moves host s t) : Moves host s (t.beginClose host) := by
  unfold Scene.beginClose
  split
  · exact h.violate _
  · split
    · exact h.violate _
    · exact ((h.log _).update _ fun _ => by constructor <;> rfl).enter _

lemma forceStop (h : Moves host s t) : Moves host s (t.forceStop host) := by
  have asked := (h.update (fun r => { r with timer := r.timer.cancel })
    fun _ => by constructor <;> rfl).call (.stop t.record.id)
  unfold Scene.forceStop
  dsimp only
  split
  · exact asked
  · split
    · split
      · exact asked.call _
      · exact (asked.call _).log _
    · split
      · exact asked.enter _
      · exact asked

/-! ## The operations -/

lemma request (h : Moves host s t) (value : RequestedState) :
    Moves host s (t.request host value) := by
  unfold Scene.request
  split
  · exact h
  · exact (h.update _ fun _ => by constructor <;> rfl).reconcile

lemma setExempt (h : Moves host s t) (exempt : Bool) : Moves host s (t.setExempt host exempt) := by
  unfold Scene.setExempt
  split
  · exact h
  · exact h.tail (.exempt t exempt)

lemma setStage (h : Moves host s t) (stage : Stage) : Moves host s (t.setStage stage).2 := by
  unfold Scene.setStage
  split
  · rename_i supported
    exact h.tail (.stage t stage supported)
  · exact h

lemma updateScreenshot (h : Moves host s t) : Moves host s t.updateScreenshot :=
  h.update _ fun _ => by constructor <;> rfl

lemma close (h : Moves host s t) : Moves host s (t.close host) := by
  unfold Scene.close
  split
  · exact h.forceStop
  · exact h.beginClose
  · exact (h.request _).beginClose
  · exact (h.request _).beginClose
  · exact (h.request _).beginClose
  · exact (h.request _).beginClose
  · exact h
  · exact h.enter _
  · exact h

lemma tick (h : Moves host s t) (now : Instant) : Moves host s (t.tick host now).2 := by
  have polled := h.update (fun r => { r with timer := (t.record.timer.poll now).2 })
    fun _ => by constructor <;> rfl
  unfold Scene.tick
  dsimp only
  split
  · exact polled.forceStop
  · exact polled

lemma setPid (h : Moves host s t) (pid : Nat) : Moves host s (t.setPid pid) :=
  h.update _ fun _ => by constructor <;> rfl

lemma checkSessionStopped (h : Moves host s t) (violation : SessionState → Violation) :
    Moves host s (t.checkSessionStopped host violation) := by
  unfold Scene.checkSessionStopped
  split
  · exact h
  · split
    · exact h
    · exact h.violate _

lemma onProcess (h : Moves host s t) (process : ProcessState) :
    Moves host s (t.onProcess host process) := by
  have noted := h.update (fun r => { r with process })
    fun _ => by constructor <;> rfl
  unfold Scene.onProcess
  split
  · exact h
  · refine Moves.reconcile ?_
    cases process with
    | unknown => exact noted.violate _
    | running =>
      dsimp only
      split
      · exact noted.enter _
      · exact noted
    | suspended =>
      dsimp only
      split
      · exact noted.call _
      · exact noted.enter _
    | failed =>
      have checked := noted.checkSessionStopped .failedInSession
      dsimp only
      split
      · exact checked.enter _
      · exact checked
      · exact checked
      · exact checked.violate _
    | stopped =>
      have checked := noted.checkSessionStopped .stoppedInSession
      dsimp only
      split
      · exact checked.enter _
      · exact checked.enter _
      · exact checked.enter _
      · exact checked.enter _
      · exact checked
      · exact checked.violate _

lemma onSession (h : Moves host s t) (session : SessionState) :
    Moves host s (t.onSession host session) := by
  unfold Scene.onSession
  split
  · exact h
  · exact h
  · split
    · exact (h.enter _).reconcile
    · exact h
  · split
    · exact (h.enter _).call _
    · exact h.violate _
  · split
    · exact h.beginClose.call _
    · split
      · exact h.enter _
      · exact h.enter _

lemma letGoSession (h : Moves host s t) : Moves host s t.letGoSession := by
  unfold Scene.letGoSession
  split
  · exact h
  · exact (h.update _ fun _ => by constructor <;> rfl).log _

lemma attach (h : Moves host s t) (session : Session) : Moves host s (t.attach session) :=
  (h.letGoSession.update _ fun _ => by constructor <;> rfl).log _

lemma detach (h : Moves host s t) : Moves host s t.detach := by
  unfold Scene.detach
  split
  · exact h.letGoSession
  · exact h.violate _

lemma hear (h : Moves host s t) (state : SessionState) : Moves host s (t.hear host state) := by
  have heard := h.onSession state
  unfold Scene.hear
  dsimp only
  split
  · exact heard.detach
  · exact heard

lemma identify (h : Moves host s t) (pid : Nat) (side : Prop) [Decidable side] :
    Moves host s (t.identify pid side) := by
  have noted := h.setPid pid
  unfold Scene.identify
  dsimp only
  split
  · exact noted.setStage _
  · exact noted

/-- Every operation of a record is a chain of moves. -/
theorem perform (h : Moves host s t) (op : RecordOperation) :
    Moves host s (t.perform host op).2 := by
  cases op with
  | setPid pid => exact h.setPid pid
  | request state => exact h.request state
  | process state => exact h.onProcess state
  | session state => exact h.onSession state
  | attach session => exact h.attach session
  | detach => exact h.detach
  | setExempt exempt => exact h.setExempt exempt
  | setStage stage => exact h.setStage stage
  | updateScreenshot => exact h.updateScreenshot
  | close => exact h.close
  | tick now => exact h.tick now

end Moves

/-! ## What moves keep -/

@[simp] lemma syncWakelock_record (host : Host) (s : Scene) :
    (s.syncWakelock host).record = s.record := by
  unfold syncWakelock
  split <;> rfl

lemma enter_sameIdentity (host : Host) (s : Scene) (state : InternalState) :
    Record.SameIdentity s.record (s.enter host state).record := by
  unfold enter
  split
  · exact ⟨rfl, rfl, rfl, rfl, rfl⟩
  · rw [syncWakelock_record]
    exact ⟨rfl, rfl, rfl, rfl, rfl⟩

lemma Move.sameIdentity (h : Move host s t) : Record.SameIdentity s.record t.record := by
  cases h with
  | log e => exact ⟨rfl, rfl, rfl, rfl, rfl⟩
  | detail f hf =>
    have core := hf s.record
    exact ⟨core.id, core.descriptor, core.arguments, core.focused, core.owner⟩
  | stage stage supported => exact ⟨rfl, rfl, rfl, rfl, rfl⟩
  | enter state => exact enter_sameIdentity host s state
  | exempt exempt =>
    rw [syncWakelock_record]
    exact ⟨rfl, rfl, rfl, rfl, rfl⟩

/-- No operation makes a record that of another application, or another share in the wakelock. -/
theorem Moves.sameIdentity (h : Moves host s t) : Record.SameIdentity s.record t.record := by
  induction h with
  | refl => exact ⟨rfl, rfl, rfl, rfl, rfl⟩
  | tail _ move ih =>
    have step := move.sameIdentity
    exact ⟨step.id.trans ih.id, step.descriptor.trans ih.descriptor,
      step.arguments.trans ih.arguments, step.focused.trans ih.focused, step.owner.trans ih.owner⟩

lemma onProcess_sameIdentity (host : Host) (process : ProcessState) (s : Scene) :
    Record.SameIdentity s.record (s.onProcess host process).record :=
  ((Moves.refl s).onProcess process).sameIdentity

lemma tick_sameIdentity (host : Host) (now : Instant) (s : Scene) :
    Record.SameIdentity s.record (s.tick host now).2.record :=
  have moves : Moves host s (s.tick host now).2 := (Moves.refl s).tick now
  moves.sameIdentity

end Scene

end AppLifecycle
