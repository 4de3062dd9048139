import AppLifecycle.Proofs.Registry.Orderly

/-!
# Refused operations

An operation that is answered with an error, or with no, leaves the registry as it was. All that is
left of it happens outside: a launch that the controller has failed at, or a session that was told
to stop.
-/

namespace AppLifecycle

/-- The answer is an error, or no. -/
def OperationResult.Refused : OperationResult → Prop
  | .silent => False
  | .verdict yes => yes = false
  | .outcome result => ∃ e, result = .error e
  | .started result => ∃ e, result = .error e
  | .attached result => ∃ e, result = .error e

/-- What an operation may have done outside the registry before it is refused. -/
def Operation.attempted : Operation → List Effect
  | .start id args => [.call (.start id.normalized args)]
  | .sessionStarting session => [.ask session .stop, .letGo session.id]
  | _ => []

namespace Registry

variable {P : Host → Prop} {host : Host} {op : Operation} {reg reg' : Registry}
variable {front back : List Record} {r : Record} {id : AppId} {e : LifecycleError}

/-- Nothing but what was attempted outside tells the registries apart. -/
def Spared (op : Operation) (reg reg' : Registry) : Prop :=
  ∃ effects, reg' = { reg with journal := reg.journal ++ effects } ∧
    (effects = [] ∨ effects = op.attempted)

lemma Spared.of_eq (h : reg' = reg) : Spared op reg reg' := by
  refine ⟨[], ?_, .inl rfl⟩
  rw [h, List.append_nil]

/-! ## Operations on one record -/

lemma changedFields_self (r : Record) : changedFields r r = [] := by
  simp [changedFields]

/-- A record that stays what it is keeps its place, unless it had stopped before. -/
lemma settle_self (entries : reg.entries = front ++ r :: back) (running : r.state ≠ .stopped) :
    reg.settle front r back (reg.scene r) = reg := by
  have unstopped : (reg.scene r).record.state ≠ .stopped := running
  unfold settle
  rw [if_neg unstopped]
  show { reg with
    entries := front ++ r :: back
    events := reg.events ++ (changedFields r r).map (.fieldChanged r.id) } = reg
  rw [changedFields_self, ← entries, List.map_nil, List.append_nil]

lemma onRecord_eq_self {f : Scene → Scene} (h : (reg.onRecord id f).1 = false) :
    (reg.onRecord id f).2 = reg := by
  cases hindex : reg.indexOf id with
  | none =>
    unfold onRecord
    rw [withRecord_eq_none hindex]
  | some index =>
    obtain ⟨front, r, back, place, rfl, -⟩ := exists_located hindex
    rw [onRecord_eq place] at h
    cases h

/-- An application that was not found has no record to be changed. -/
lemma orNotFound_refused {f : Scene → Scene}
    (h : (orNotFound id (reg.onRecord id f)).1 = .error e) :
    (orNotFound id (reg.onRecord id f)).2 = reg := by
  have same := fun lost : (reg.onRecord id f).1 = false => onRecord_eq_self lost
  generalize reg.onRecord id f = answer at h same
  obtain ⟨found, reg'⟩ := answer
  cases found with
  | false => exact same rfl
  | true => cases h

lemma requestState_refused (state : RequestedState)
    (h : (reg.requestState host state id).1 = false) :
    (reg.requestState host state id).2 = reg := by
  unfold requestState at h ⊢
  dsimp only at h ⊢
  split
  · rfl
  · rename_i tracked
    rw [if_neg tracked] at h
    split
    · rfl
    · rename_i subject
      rw [if_neg subject] at h
      cases h

/-- A stage that is not supported is refused before the record is touched. -/
lemma setStage_refused (running : ∀ r ∈ reg.entries, r.state ≠ .stopped) {stage : Stage}
    (h : (reg.setStage id stage).1 = .error e) : (reg.setStage id stage).2 = reg := by
  rw [setStage_snd]
  cases hindex : reg.indexOf id.normalized with
  | none => rw [withRecord_eq_none hindex]
  | some index =>
    obtain ⟨front, r, back, place, hid, -⟩ := exists_located hindex
    unfold setStage at h
    dsimp only at h
    rw [← hid, withRecord_eq place] at h ⊢
    dsimp only at h ⊢
    unfold Scene.setStage at h ⊢
    split
    · rename_i supported
      rw [if_pos supported] at h
      cases h
    · exact settle_self place.entries (running r place.mem)

/-! ## The other operations -/

lemma startApplication_refused {args : List String}
    (h : (reg.startApplication host id args).1 = .error e) :
    Spared (.start id args) reg (reg.startApplication host id args).2 := by
  unfold startApplication at h ⊢
  dsimp only at h ⊢
  split
  · exact .of_eq rfl
  · rename_i untracked
    rw [untracked] at h
    split
    · exact .of_eq rfl
    · rename_i descriptor known
      rw [known] at h
      dsimp only at h
      split
      · exact ⟨_, rfl, .inr rfl⟩
      · rename_i launched
        rw [launched] at h
        cases h

lemma moveToFocusFront_refused (h : (reg.moveToFocusFront id).1 = .error e) :
    (reg.moveToFocusFront id).2 = reg := by
  unfold moveToFocusFront at h ⊢
  dsimp only at h ⊢
  cases hindex : reg.indexOf id.normalized with
  | none => rfl
  | some index =>
    rw [hindex] at h
    dsimp only at h
    -- wherever the record was, and whoever had the focus, the answer is yes
    split at h <;> split at h <;> cases h

lemma authorizeSession_refused {pid : Nat} (h : (reg.authorizeSession host pid).1 = false) :
    (reg.authorizeSession host pid).2 = reg := by
  have verdict := authorizeSession_verdict host pid reg
  generalize reg.authorizeSession host pid = answer at verdict h
  cases verdict with
  | refused => rfl
  | trusted _ _ => cases h
  | bound _ => cases h

lemma sessionStarting_refused {session : Session}
    (h : (reg.sessionStarting session).1 = .error e) :
    Spared (.sessionStarting session) reg (reg.sessionStarting session).2 := by
  unfold sessionStarting at h ⊢
  split
  · rename_i r expecting
    rw [expecting] at h
    cases h
  · rename_i unexpected
    rw [unexpected] at h
    dsimp only at h
    split
    · rename_i helper
      rw [if_pos helper] at h
      cases h
    · exact ⟨_, rfl, .inr rfl⟩

/-- An operation that is refused leaves the records, their order, the focus, the admissions of
helpers, the events and the wakelock as they were. It may have tried to launch the application, or
have told the session to stop. -/
theorem refused_changes_nothing (h : Reachable P reg) (host : Host) (op : Operation)
    (refused : (reg.perform host op).1.Refused) :
    ∃ effects, (reg.perform host op).2 = { reg with journal := reg.journal ++ effects } ∧
      (effects = [] ∨ effects = op.attempted) := by
  cases op with
  | start id args =>
    obtain ⟨e, he⟩ := refused
    exact startApplication_refused he
  | stop id =>
    obtain ⟨e, he⟩ := refused
    exact Spared.of_eq (orNotFound_refused he)
  | focus id =>
    obtain ⟨e, he⟩ := refused
    exact Spared.of_eq (moveToFocusFront_refused he)
  | suspend id => exact Spared.of_eq (requestState_refused .suspended refused)
  | resume id => exact Spared.of_eq (requestState_refused .running refused)
  | setExempt id exempt =>
    obtain ⟨e, he⟩ := refused
    exact Spared.of_eq (orNotFound_refused he)
  | setStage id stage =>
    obtain ⟨e, he⟩ := refused
    exact Spared.of_eq (setStage_refused h.running he)
  | updateScreenshot id =>
    obtain ⟨e, he⟩ := refused
    exact Spared.of_eq (orNotFound_refused he)
  | authorize pid => exact Spared.of_eq (authorizeSession_refused refused)
  | sessionStarting session =>
    obtain ⟨e, he⟩ := refused
    exact sessionStarting_refused he
  -- the others are not answered
  | tick now => exact refused.elim
  | process event => exact refused.elim
  | sessionState session state => exact refused.elim
  | sessionClosed session => exact refused.elim

/-- A machine that fails to launch anything. -/
def reluctant : Host := { Host.willing with start := fun _ _ => .error (.launchFailed "no memory") }

/-- After the errand the mail cannot be launched a second time, and the attempt is all that is left
of it. -/
theorem refused_afterErrand :
    (afterErrand.perform reluctant (.start ⟨"mail"⟩ [])).1.Refused ∧
    (afterErrand.perform reluctant (.start ⟨"mail"⟩ [])).2.journal =
      afterErrand.journal ++ [.call (.start ⟨"mail"⟩ [])] ∧
    ∃ effects, (afterErrand.perform reluctant (.start ⟨"mail"⟩ [])).2 =
        { afterErrand with journal := afterErrand.journal ++ effects } ∧
      (effects = [] ∨ effects = (Operation.start ⟨"mail"⟩ []).attempted) := by
  have refused : (afterErrand.perform reluctant (.start ⟨"mail"⟩ [])).1.Refused := ⟨_, rfl⟩
  exact ⟨refused, by decide,
    refused_changes_nothing afterErrand_reachable reluctant (.start ⟨"mail"⟩ []) refused⟩

end Registry

end AppLifecycle
