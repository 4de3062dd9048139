import AppLifecycle.Proofs.AppId
import AppLifecycle.Registry.Operation

/-!
# Long and short ids

An operation that is given an id shortens it before it looks at anything: whether it is given the
long or the short id of an application makes no difference to what it answers, announces and does.
-/

namespace AppLifecycle

/-- The same report with the short id. -/
def ProcessEvent.shortened : ProcessEvent → ProcessEvent
  | .starting id => .starting id.normalized
  | .stopped id => .stopped id.normalized
  | .failed id early => .failed id.normalized early
  | .suspended id => .suspended id.normalized
  | .focusRequested id => .focusRequested id.normalized
  | .resumeRequested id => .resumeRequested id.normalized

/-- The same operation with the short id. -/
def Operation.shortened : Operation → Operation
  | .start id args => .start id.normalized args
  | .stop id => .stop id.normalized
  | .focus id => .focus id.normalized
  | .suspend id => .suspend id.normalized
  | .resume id => .resume id.normalized
  | .setExempt id exempt => .setExempt id.normalized exempt
  | .setStage id stage => .setStage id.normalized stage
  | .updateScreenshot id => .updateScreenshot id.normalized
  | .process event => .process event.shortened
  | op => op

namespace Registry

variable (host : Host) (reg : Registry) (id : AppId)

/-! ## Entry points -/

lemma find_normalized : reg.find id.normalized = reg.find id := by
  unfold find
  rw [AppId.normalized_normalized]

lemma startApplication_normalized (args : List String) :
    reg.startApplication host id.normalized args = reg.startApplication host id args := by
  unfold startApplication
  rw [AppId.normalized_normalized]

lemma stopApplication_normalized :
    reg.stopApplication host id.normalized = reg.stopApplication host id := by
  unfold stopApplication
  rw [AppId.normalized_normalized]

lemma moveToFocusFront_normalized :
    reg.moveToFocusFront id.normalized = reg.moveToFocusFront id := by
  unfold moveToFocusFront
  rw [AppId.normalized_normalized]

lemma requestState_normalized (state : RequestedState) :
    reg.requestState host state id.normalized = reg.requestState host state id := by
  unfold requestState
  rw [AppId.normalized_normalized]

lemma setExemptFromLifecycle_normalized (exempt : Bool) :
    reg.setExemptFromLifecycle host id.normalized exempt =
      reg.setExemptFromLifecycle host id exempt := by
  unfold setExemptFromLifecycle
  rw [AppId.normalized_normalized]

lemma setStage_normalized (stage : Stage) :
    reg.setStage id.normalized stage = reg.setStage id stage := by
  unfold setStage
  rw [AppId.normalized_normalized]

lemma updateScreenshot_normalized :
    reg.updateScreenshot id.normalized = reg.updateScreenshot id := by
  unfold updateScreenshot
  rw [AppId.normalized_normalized]

lemma onProcessStarting_normalized :
    reg.onProcessStarting host id.normalized = reg.onProcessStarting host id := by
  unfold onProcessStarting
  rw [AppId.normalized_normalized]

lemma onProcessFailed_normalized :
    reg.onProcessFailed host id.normalized = reg.onProcessFailed host id := by
  unfold onProcessFailed
  rw [AppId.normalized_normalized]

lemma onProcessStopped_normalized :
    reg.onProcessStopped host id.normalized = reg.onProcessStopped host id := by
  unfold onProcessStopped
  rw [AppId.normalized_normalized]

lemma onProcessSuspended_normalized :
    reg.onProcessSuspended host id.normalized = reg.onProcessSuspended host id := by
  unfold onProcessSuspended
  rw [AppId.normalized_normalized]

lemma onFocusRequested_normalized :
    reg.onFocusRequested id.normalized = reg.onFocusRequested id := by
  unfold onFocusRequested
  rw [AppId.normalized_normalized]

/-- The record is looked up before its id is shortened. -/
lemma onResumeRequested_normalized :
    reg.onResumeRequested host id.normalized = reg.onResumeRequested host id := by
  unfold onResumeRequested
  rw [find_normalized, AppId.normalized_normalized]

/-! ## Operations and runs -/

lemma handleProcessEvent_shortened (event : ProcessEvent) :
    reg.handleProcessEvent host event.shortened = reg.handleProcessEvent host event := by
  cases event with
  | starting id => exact reg.onProcessStarting_normalized host id
  | stopped id => exact reg.onProcessStopped_normalized host id
  | failed id early => exact reg.onProcessFailed_normalized host id
  | suspended id => exact reg.onProcessSuspended_normalized host id
  | focusRequested id => exact reg.onFocusRequested_normalized id
  | resumeRequested id => exact reg.onResumeRequested_normalized host id

lemma perform_shortened (op : Operation) :
    reg.perform host op.shortened = reg.perform host op := by
  cases op with
  | start id args => exact congrArg (told .started) (reg.startApplication_normalized host id args)
  | stop id => exact congrArg (told .outcome) (reg.stopApplication_normalized host id)
  | focus id => exact congrArg (told .outcome) (reg.moveToFocusFront_normalized id)
  | suspend id => exact congrArg (told .verdict) (reg.requestState_normalized host id _)
  | resume id => exact congrArg (told .verdict) (reg.requestState_normalized host id _)
  | setExempt id exempt =>
    exact congrArg (told .outcome) (reg.setExemptFromLifecycle_normalized host id exempt)
  | setStage id stage => exact congrArg (told .outcome) (reg.setStage_normalized id stage)
  | updateScreenshot id => exact congrArg (told .outcome) (reg.updateScreenshot_normalized id)
  | process event =>
    exact congrArg (Prod.mk OperationResult.silent) (reg.handleProcessEvent_shortened host event)
  | _ => rfl

/-- Operations may be given long and short ids in turn. -/
lemma performAll_shortened (ops : List (Host × Operation)) :
    reg.performAll (ops.map fun x => (x.1, x.2.shortened)) = reg.performAll ops := by
  induction ops generalizing reg with
  | nil => rfl
  | cons x ops ih =>
    show Registry.performAll (reg.perform x.1 x.2.shortened).2 _ = _
    rw [perform_shortened, ih]
    rfl

/-- Shortening an id a second time changes nothing, and it never changes the section that names the
package; the ids that are not long are left as they are. Any operation of any registry, and any run
of operations, has the same answer and leaves the same registry, with the same events and effects,
whether it is given ids or their short forms. -/
theorem long_and_short_alike :
    (∀ id : AppId, id.normalized.normalized = id.normalized ∧
      id.normalized.package = id.package ∧ (id.normalized = id ↔ ¬ id.IsLong)) ∧
    (∀ (reg : Registry) (id : AppId), reg.find id.normalized = reg.find id) ∧
    (∀ (reg : Registry) (host : Host) (op : Operation),
      reg.perform host op.shortened = reg.perform host op) ∧
    ∀ (reg : Registry) (ops : List (Host × Operation)),
      reg.performAll (ops.map fun x => (x.1, x.2.shortened)) = reg.performAll ops :=
  ⟨fun id => ⟨id.normalized_normalized, id.package_normalized, id.normalized_eq_self_iff⟩,
    find_normalized, fun reg host op => perform_shortened host reg op, performAll_shortened⟩

example : (Operation.focus ⟨"music_player_1.0~beta"⟩).shortened = .focus ⟨"music_player"⟩ := by
  decide

end Registry

end AppLifecycle
