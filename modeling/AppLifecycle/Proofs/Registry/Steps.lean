import AppLifecycle.Proofs.Scene.Moves

/-!
# The steps of a registry

Every operation of a registry is a chain of eight kinds of steps (`Step`). A step names the record
that it acts on and what the registry knew of the record when it took the step; what it does is said
once, with the entries in one piece before and after, so that an invariant of the registry is a case
analysis over the kinds of steps and never over the operations.
-/

namespace AppLifecycle

namespace Registry

variable {host : Host} {reg : Registry} {front back : List Record} {r : Record} {id : AppId}

/-! ## Places -/

/-- `r` is the record that its id leads to, and stands between `front` and `back`. -/
structure Located (reg : Registry) (front : List Record) (r : Record) (back : List Record) :
    Prop where
  entries : reg.entries = front ++ r :: back
  first : ∀ q ∈ front, q.id ≠ r.id

lemma exists_append_of_findIdx? {p : Record → Bool} {l : List Record} {index : Nat}
    (h : l.findIdx? p = some index) :
    ∃ front r back, l = front ++ r :: back ∧ front.length = index ∧ p r = true ∧
      ∀ q ∈ front, p q = false := by
  obtain ⟨hlt, hp, hfirst⟩ := List.findIdx?_eq_some_iff_getElem.mp h
  refine ⟨l.take index, l[index], l.drop (index + 1), ?_, ?_, hp, ?_⟩
  · rw [← List.drop_eq_getElem_cons hlt, List.take_append_drop]
  · rw [List.length_take]
    omega
  · intro q hq
    obtain ⟨j, hj, rfl⟩ := List.getElem_of_mem hq
    rw [List.length_take] at hj
    rw [List.getElem_take]
    exact Bool.eq_false_iff.mpr (hfirst j (by omega))

lemma exists_located {index : Nat} (h : reg.indexOf id = some index) :
    ∃ front r back, Located reg front r back ∧ r.id = id ∧ front.length = index := by
  obtain ⟨front, r, back, hentries, hlength, hp, hfront⟩ := exists_append_of_findIdx? h
  have hid : r.id = id := of_decide_eq_true hp
  refine ⟨front, r, back, ⟨hentries, fun q hq => ?_⟩, hid, hlength⟩
  rw [hid]
  exact of_decide_eq_false (hfront q hq)

lemma indexOf_eq_none : reg.indexOf id = none ↔ ∀ q ∈ reg.entries, q.id ≠ id := by
  unfold indexOf
  rw [List.findIdx?_eq_none_iff]
  simp only [decide_eq_false_iff_not, ne_eq]

namespace Located

lemma indexOf (h : Located reg front r back) : reg.indexOf r.id = some front.length := by
  unfold Registry.indexOf
  rw [h.entries, List.findIdx?_append, List.findIdx?_eq_none_iff.mpr, List.findIdx?_cons]
  · simp
  · intro q hq
    exact decide_eq_false (h.first q hq)

lemma getElem? (h : Located reg front r back) : reg.entries[front.length]? = some r := by
  rw [h.entries, List.getElem?_append_right (Nat.le_refl _), Nat.sub_self, List.getElem?_cons_zero]

lemma find? (h : Located reg front r back) :
    reg.entries.find? (fun q => decide (q.id = r.id)) = some r := by
  rw [h.entries]
  refine List.find?_eq_some_iff_append.mpr ⟨decide_eq_true rfl, front, back, rfl, fun q hq => ?_⟩
  rw [decide_eq_false (h.first q hq)]
  rfl

lemma mem (h : Located reg front r back) : r ∈ reg.entries := by
  rw [h.entries]
  exact List.mem_append_right _ List.mem_cons_self

end Located

lemma mem_middle_iff {q : Record} : q ∈ front ++ r :: back ↔ q = r ∨ q ∈ front ++ back :=
  List.perm_middle.mem_iff.trans List.mem_cons

lemma mem_of_mem_append {q : Record} (entries : reg.entries = front ++ r :: back)
    (h : q ∈ front ++ back) : q ∈ reg.entries := by
  rw [entries]
  exact mem_middle_iff.mpr (.inr h)

/-- An id that a record has leads to a record. -/
lemma exists_located_of_mem {q : Record} (hq : q ∈ reg.entries) :
    ∃ front r back, Located reg front r back ∧ r.id = q.id := by
  cases hindex : reg.indexOf q.id with
  | none => exact absurd rfl (indexOf_eq_none.mp hindex q hq)
  | some index =>
    obtain ⟨front, r, back, place, hid, -⟩ := exists_located hindex
    exact ⟨front, r, back, place, hid⟩

lemma Located.find (place : Located reg front r back) (hid : r.id = id.normalized) :
    reg.find id = some r := by
  unfold Registry.find
  rw [← hid]
  exact place.find?

lemma find_eq_none (h : reg.indexOf id.normalized = none) : reg.find id = none :=
  List.find?_eq_none.mpr fun q hq same => indexOf_eq_none.mp h q hq (of_decide_eq_true same)

lemma exists_located_of_find (h : reg.find id = some r) :
    ∃ front back, Located reg front r back ∧ r.id = id.normalized := by
  obtain ⟨found, front, back, entries, first⟩ := List.find?_eq_some_iff_append.mp h
  have hid : r.id = id.normalized := of_decide_eq_true found
  refine ⟨front, back, ⟨entries, fun q hq same => ?_⟩, hid⟩
  have unfound := first q hq
  rw [same, hid, decide_eq_true rfl] at unfound
  cases unfound

/-! ## What happens at a place -/

/-- The record between `front` and `back` has become the one of `s`, and its changes are
announced. -/
def place (reg : Registry) (front : List Record) (r : Record) (back : List Record) (s : Scene) :
    Registry :=
  { reg with
    entries := front ++ s.record :: back
    wakelock := s.wakelock
    journal := s.journal
    events := reg.events ++ (changedFields r s.record).map (.fieldChanged r.id) }

/-- The record between `front` and `back` is given up. -/
def evict (reg : Registry) (front : List Record) (r : Record) (back : List Record) : Registry :=
  { reg with
    entries := front ++ back
    focused := if reg.focused = some r.id then none else reg.focused
    wakelock := (reg.scene r).finish.1
    journal := (reg.scene r).finish.2
    events := reg.events ++ ([.removed front.length r.id, .countChanged (front ++ back).length] ++
      if reg.focused = some r.id then [.focusChanged none] else []) }

/-- The record between `front` and `back` has become the one of `s`, and is given up if that has
stopped. -/
def settle (reg : Registry) (front : List Record) (r : Record) (back : List Record) (s : Scene) :
    Registry :=
  if s.record.state = .stopped then (reg.place front r back s).evict front s.record back
  else reg.place front r back s

/-- A new record, and what happened to it before it is added. -/
def newcomer (host : Host) (descriptor : Descriptor) (arguments : List String) (exempt : Bool)
    (f : Scene → Scene) (reg : Registry) : Scene :=
  f (Scene.begin host (Record.launched descriptor arguments exempt reg.lifecycle.closeTimeout
    ⟨reg.nextOwner⟩) reg.wakelock reg.journal)

/-- The record of `s` is added at the front. -/
def welcome (reg : Registry) (s : Scene) : Registry :=
  ({ reg with
    entries := s.record :: reg.entries
    wakelock := s.wakelock
    journal := s.journal
    nextOwner := reg.nextOwner + 1 }).emit
      [.added 0 s.record.id, .countChanged (s.record :: reg.entries).length]

/-- The record between `front` and `back` has moved to the front. -/
def raise (reg : Registry) (front : List Record) (r : Record) (back : List Record) : Registry :=
  if front = [] then reg
  else ({ reg with entries := r :: (front ++ back) }).emit [.moved front.length 0]

/-- Nobody has the focus any more. -/
def clearFocus (reg : Registry) : Registry :=
  match reg.focused with
  | none => reg
  | some old => ({ reg with focused := none }).setFocused old false

/-- The focus goes to an application, wherever it was before. -/
def passFocus (reg : Registry) (id : AppId) : Registry :=
  ({ reg.clearFocus.setFocused id true with focused := some id }).emit [.focusChanged (some id)]

lemma removeAt_eq (h : reg.entries = front ++ r :: back) :
    reg.removeAt front.length = reg.evict front r back := by
  have hget : reg.entries[front.length]? = some r := by
    rw [h, List.getElem?_append_right (Nat.le_refl _), Nat.sub_self, List.getElem?_cons_zero]
  have herase : reg.entries.eraseIdx front.length = front ++ back := by
    rw [h, List.eraseIdx_append_of_length_le (Nat.le_refl _), Nat.sub_self, List.eraseIdx_cons_zero]
  unfold removeAt
  rw [hget]
  dsimp only
  rw [herase]
  unfold evict emit
  by_cases hfocused : reg.focused = some r.id
  · simp only [hfocused, if_true, List.append_assoc]
  · simp only [hfocused, if_false, List.append_nil]

theorem withRecord_eq {α : Type} (h : Located reg front r back) (f : Scene → α × Scene) :
    reg.withRecord r.id f =
      (some (f (reg.scene r)).1, reg.settle front r back (f (reg.scene r)).2) := by
  have hset : reg.entries.set front.length (f (reg.scene r)).2.record =
      front ++ (f (reg.scene r)).2.record :: back := by
    rw [h.entries, List.set_append_right _ _ (Nat.le_refl _), Nat.sub_self, List.set_cons_zero]
  unfold withRecord
  rw [h.indexOf]
  dsimp only
  rw [h.getElem?]
  dsimp only
  rw [hset]
  unfold settle
  split
  · exact congrArg (Prod.mk _) (removeAt_eq rfl)
  · rfl

lemma withRecord_eq_none {α : Type} (h : reg.indexOf id = none) (f : Scene → α × Scene) :
    reg.withRecord id f = (none, reg) := by
  unfold withRecord
  rw [h]

lemma onRecord_eq (h : Located reg front r back) (f : Scene → Scene) :
    reg.onRecord r.id f = (true, reg.settle front r back (f (reg.scene r))) := by
  unfold onRecord
  rw [withRecord_eq h]
  rfl

/-- What is done to the record of an application is done to the one that is found. -/
lemma onRecord_find (id : AppId) (f : Scene → Scene) (reg : Registry) :
    reg.find id = none ∧ (reg.onRecord id.normalized f).2 = reg ∨
    ∃ front r back, Located reg front r back ∧ reg.find id = some r ∧
      (reg.onRecord id.normalized f).2 = reg.settle front r back (f (reg.scene r)) := by
  cases hindex : reg.indexOf id.normalized with
  | none =>
    refine .inl ⟨find_eq_none hindex, ?_⟩
    unfold onRecord
    rw [withRecord_eq_none hindex]
  | some index =>
    obtain ⟨front, r, back, place, hid, -⟩ := exists_located hindex
    refine .inr ⟨front, r, back, place, place.find hid, ?_⟩
    rw [← hid, onRecord_eq place]

lemma raise_nil (reg : Registry) (r : Record) (back : List Record) : reg.raise [] r back = reg :=
  if_pos rfl

lemma raise_cons (reg : Registry) (q : Record) (front : List Record) (r : Record)
    (back : List Record) :
    reg.raise (q :: front) r back =
      ({ reg with entries := r :: (q :: front ++ back) }).emit [.moved (front.length + 1) 0] :=
  if_neg (List.cons_ne_nil q front)

lemma raise_entries (h : reg.entries = front ++ r :: back) :
    (reg.raise front r back).entries = r :: (front ++ back) := by
  cases front with
  | nil =>
    rw [raise_nil, h]
    rfl
  | cons q front =>
    rw [raise_cons]
    rfl

lemma raise_perm (h : reg.entries = front ++ r :: back) :
    (reg.raise front r back).entries.Perm reg.entries := by
  rw [raise_entries h, h]
  exact List.perm_middle.symm

lemma raise_frame (reg : Registry) (front : List Record) (r : Record) (back : List Record) :
    ∃ entries events, reg.raise front r back = { reg with entries, events } := by
  unfold raise
  split
  · exact ⟨reg.entries, reg.events, rfl⟩
  · exact ⟨_, _, rfl⟩

theorem moveToFocusFront_eq (h : Located reg front r back) (hid : r.id = id.normalized) :
    (reg.moveToFocusFront id).2 =
      if (reg.raise front r back).focused = some r.id then reg.raise front r back
      else (reg.raise front r back).passFocus r.id := by
  have hindex : reg.indexOf id.normalized = some front.length := by
    rw [← hid, h.indexOf]
  unfold moveToFocusFront
  dsimp only
  rw [hindex, hid]
  cases front with
  | nil =>
    rw [raise_nil]
    exact apply_ite Prod.snd _ _ _
  | cons q front =>
    have hget := h.getElem?
    have herase : reg.entries.eraseIdx (q :: front).length = q :: front ++ back := by
      rw [h.entries, List.eraseIdx_append_of_length_le (Nat.le_refl _), Nat.sub_self,
        List.eraseIdx_cons_zero]
    rw [raise_cons, ← herase]
    rw [List.length_cons] at hget ⊢
    dsimp only
    rw [hget]
    exact apply_ite Prod.snd _ _ _

lemma setPidAt_eq (h : reg.entries = front ++ r :: back) (pid : Nat) :
    reg.setPidAt front.length pid = { reg with entries := front ++ { r with pid } :: back } := by
  unfold setPidAt
  rw [h, List.modify_eq_take_drop, List.take_left, List.drop_left]
  rfl

/-! ## The steps -/

/-- What an operation may do to a record, and what was known of the record before. -/
inductive Treatment (host : Host) (reg : Registry) :
    Operation → Record → (Scene → Scene) → Prop where
  | close {r : Record} {id : AppId} (hid : r.id = id.normalized) :
      Treatment host reg (.stop id) r (Scene.close host)
  | suspend {r : Record} {id : AppId} (hid : r.id = id.normalized)
      (subject : reg.lifecycle.isExempt r.id = false) :
      Treatment host reg (.suspend id) r (Scene.request host .suspended)
  | resume {r : Record} {id : AppId} (hid : r.id = id.normalized)
      (subject : reg.lifecycle.isExempt r.id = false) :
      Treatment host reg (.resume id) r (Scene.request host .running)
  | resumeRequested {r : Record} {id : AppId} (hid : r.id = id.normalized)
      (suspended : r.state.shown = .suspended) :
      Treatment host reg (.process (.resumeRequested id)) r (Scene.request host .running)
  | setExempt {r : Record} {id : AppId} (exempt : Bool) (hid : r.id = id.normalized) :
      Treatment host reg (.setExempt id exempt) r (Scene.setExempt host exempt)
  | setStage {r : Record} {id : AppId} (stage : Stage) (hid : r.id = id.normalized) :
      Treatment host reg (.setStage id stage) r fun s => (s.setStage stage).2
  | updateScreenshot {r : Record} {id : AppId} (hid : r.id = id.normalized) :
      Treatment host reg (.updateScreenshot id) r Scene.updateScreenshot
  | tick {r : Record} (now : Instant) :
      Treatment host reg (.tick now) r fun s => (s.tick host now).2
  | started {r : Record} {id : AppId} (hid : r.id = id.normalized)
      (awaited : r.state = .stoppedResumable ∨ r.state = .starting ∧ r.process = .unknown) :
      Treatment host reg (.process (.starting id)) r (Scene.onProcess host .running)
  | failed {r : Record} {id : AppId} (early : Bool) (hid : r.id = id.normalized) :
      Treatment host reg (.process (.failed id early)) r
        fun s => (s.onProcess host .failed).setPid 0
  | ended {r : Record} {id : AppId} (hid : r.id = id.normalized)
      (news : keepsExit r = false) :
      Treatment host reg (.process (.stopped id)) r (Scene.onProcess host .stopped)
  | suspended {r : Record} {id : AppId} (hid : r.id = id.normalized) :
      Treatment host reg (.process (.suspended id)) r (Scene.onProcess host .suspended)
  | attach {r q : Record} (session : Session) (hq : q ∈ reg.entries) (hid : r.id = q.id)
      (hpid : q.pid = session.pid) (idle : q.state.shown ≠ .running) :
      Treatment host reg (.sessionStarting session) r (Scene.attach session)
  | reported {op : Operation} {r q : Record} (session : SessionId) (state : SessionState)
      (hop : op = .sessionState session state ∨ op = .sessionClosed session ∧ state = .stopped)
      (hq : q ∈ reg.entries) (hid : r.id = q.id)
      (attached : q.session.map Session.id = some session) :
      Treatment host reg op r (Scene.hear host state)

/-- What happens to a new record before it is added. -/
inductive Introduction : Operation → (Scene → Scene) → Prop where
  | launched (op : Operation) : Introduction op fun s => s
  | identified (pid : Nat) (side : Prop) [Decidable side] :
      Introduction (.authorize pid) (Scene.identify pid side)

/-- What is done to a record is a chain of moves. -/
theorem Treatment.moves {op : Operation} {f : Scene → Scene} (h : Treatment host reg op r f)
    (s : Scene) : Scene.Moves host s (f s) := by
  have start : Scene.Moves host s s := .refl s
  cases h with
  | close _ => exact start.close
  | suspend _ _ => exact start.request _
  | resume _ _ => exact start.request _
  | resumeRequested _ _ => exact start.request _
  | setExempt exempt _ => exact start.setExempt exempt
  | setStage stage _ => exact start.setStage stage
  | updateScreenshot _ => exact start.updateScreenshot
  | tick now => exact start.tick now
  | started _ _ => exact start.onProcess _
  | failed _ _ => exact (start.onProcess _).setPid 0
  | ended _ _ => exact start.onProcess _
  | suspended _ => exact start.onProcess _
  | attach session _ _ _ _ => exact start.attach session
  | reported _ state _ _ _ _ => exact start.hear state

lemma Introduction.moves {op : Operation} {f : Scene → Scene} (h : Introduction op f) (host : Host)
    (s : Scene) : Scene.Moves host s (f s) := by
  cases h with
  | launched _ => exact .refl s
  | identified pid side => exact (Scene.Moves.refl s).identify pid side

/-- Before it is added, a new record learns its process and its stage at most. -/
lemma Introduction.newcomer {op : Operation} {f : Scene → Scene} (h : Introduction op f)
    (host : Host) (reg : Registry) (descriptor : Descriptor) (arguments : List String)
    (exempt : Bool) :
    ∃ pid stage, (reg.newcomer host descriptor arguments exempt f).record =
      { Record.launched descriptor arguments exempt reg.lifecycle.closeTimeout ⟨reg.nextOwner⟩ with
        pid, stage } := by
  have begun : (Scene.begin host (Record.launched descriptor arguments exempt
      reg.lifecycle.closeTimeout ⟨reg.nextOwner⟩) reg.wakelock reg.journal).record =
      Record.launched descriptor arguments exempt reg.lifecycle.closeTimeout ⟨reg.nextOwner⟩ :=
    Scene.syncWakelock_record host _
  cases h with
  | launched _ => exact ⟨0, descriptor.stage, begun⟩
  | identified pid side =>
    unfold Registry.newcomer Scene.identify Scene.setPid Scene.setStage Scene.update
    rw [begun]
    dsimp only
    split
    · split
      · exact ⟨pid, .side, rfl⟩
      · exact ⟨pid, descriptor.stage, rfl⟩
    · exact ⟨pid, descriptor.stage, rfl⟩

/-- Whatever a new record learns, it is that of its application. -/
lemma Introduction.sameIdentity {op : Operation} {f : Scene → Scene} (h : Introduction op f)
    (host : Host) (reg : Registry) (descriptor : Descriptor) (arguments : List String)
    (exempt : Bool) :
    Record.SameIdentity
      (.launched descriptor arguments exempt reg.lifecycle.closeTimeout ⟨reg.nextOwner⟩)
      (reg.newcomer host descriptor arguments exempt f).record := by
  obtain ⟨pid, stage, record⟩ := h.newcomer host reg descriptor arguments exempt
  rw [record]
  exact ⟨rfl, rfl, rfl, rfl, rfl⟩

/-- One thing that an operation does to a registry. -/
inductive Step (host : Host) : Operation → Registry → Registry → Prop where
  /-- Helpers are admitted or have used their admission, or effects are noted. -/
  | note {op : Operation} {reg : Registry} (helpers : List Nat) (effects : List Effect) :
      Step host op reg { reg with helpers, journal := reg.journal ++ effects }
  | announce {op : Operation} {reg : Registry} (id : AppId) :
      Step host op reg (reg.emit [.focusRequested id])
  | treat {op : Operation} {reg : Registry} {front back : List Record} {r : Record}
      {f : Scene → Scene} (place : Located reg front r back)
      (treatment : Treatment host reg op r f) :
      Step host op reg (reg.settle front r back (f (reg.scene r)))
  | evict {reg : Registry} {front back : List Record} {r : Record} {id : AppId}
      (place : Located reg front r back) (hid : r.id = id.normalized) :
      Step host (.process (.stopped id)) reg (reg.evict front r back)
  | track {op : Operation} {reg : Registry} {id : AppId} {descriptor : Descriptor}
      {f : Scene → Scene} (arguments : List String) (known : host.findMetadata id = some descriptor)
      (short : ∃ given : AppId, id = given.normalized) (untracked : reg.indexOf id = none)
      (introduction : Introduction op f) :
      Step host op reg
        (reg.welcome (reg.newcomer host descriptor arguments (reg.lifecycle.isExempt id) f))
  | authorize {reg : Registry} {front back : List Record} {r : Record} (pid : Nat)
      (entries : reg.entries = front ++ r :: back) (starting : r.state = .starting) :
      Step host (.authorize pid) reg { reg with entries := front ++ { r with pid } :: back }
  | raise {reg : Registry} {front back : List Record} {r : Record} {id : AppId}
      (place : Located reg front r back) (hid : r.id = id.normalized) :
      Step host (.focus id) reg (reg.raise front r back)
  | focus {reg : Registry} {back : List Record} {r : Record} {id : AppId}
      (entries : reg.entries = r :: back) (hid : r.id = id.normalized)
      (elsewhere : reg.focused ≠ some r.id) :
      Step host (.focus id) reg (reg.passFocus r.id)

/-- Any number of steps of an operation. -/
def Steps (host : Host) (op : Operation) : Registry → Registry → Prop :=
  Relation.ReflTransGen (Step host op)

end Registry

end AppLifecycle
