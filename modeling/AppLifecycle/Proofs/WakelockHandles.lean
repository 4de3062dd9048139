import AppLifecycle.Proofs.WakelockTurns

/-!
# Handles on the wakelock

A wakelock is shared through handles. A handle can be copied, any of them will do for any owner, and
when the last one is let go of, so is the system's lock. Whatever the system answers, its lock is
taken once for every time it is given back, and once more while it is held
(`Wakelock.Settled`); and while owners have to do without it, it is because the system refused it to
the last one that asked (`HandledWakelock.refused_performAll`).
-/

namespace AppLifecycle

namespace Wakelock

variable {w : Wakelock} {granted : WakelockGrants}

/-! ## Dealings with the system -/

/-- The books on the system's lock. -/
structure Settled (granted : WakelockGrants) (w : Wakelock) : Prop where
  /-- What was granted and not given back is the lock that is held. -/
  balance : w.grants = w.releases + w.held.toNat
  /-- What was granted is what the system answered so. -/
  answered : w.grants = (List.range w.attempts).countP granted

lemma settled_idle (granted : WakelockGrants) : Settled granted idle where
  balance := rfl
  answered := rfl

lemma Settled.obtain (h : w.Settled granted) : (w.obtain granted).Settled granted := by
  obtain ⟨balance, answered⟩ := h
  unfold Wakelock.obtain
  split
  · exact ⟨balance, answered⟩
  · rename_i free
    rw [Bool.not_eq_true] at free
    rw [free, Bool.toNat_false] at balance
    split
    · rename_i grant
      refine ⟨?_, ?_⟩
      · simp [balance]
      · simp [List.range_succ, grant, answered]
    · rename_i refusal
      refine ⟨?_, ?_⟩
      · simp [free, balance]
      · simp [List.range_succ, refusal, answered]

lemma Settled.relinquish (h : w.Settled granted) : w.relinquish.Settled granted := by
  obtain ⟨balance, answered⟩ := h
  unfold Wakelock.relinquish
  split
  · rename_i held
    rw [held, Bool.toNat_true] at balance
    exact ⟨balance, answered⟩
  · exact ⟨balance, answered⟩

lemma Settled.acquire (h : w.Settled granted) (owner : WakelockOwner) :
    (w.acquire granted owner).Settled granted :=
  Settled.obtain ⟨h.balance, h.answered⟩

lemma Settled.release (h : w.Settled granted) (owner : WakelockOwner) :
    (w.release owner).Settled granted := by
  have left : Settled granted { w with owners := w.owners.erase owner } :=
    ⟨h.balance, h.answered⟩
  unfold Wakelock.release
  split
  · dsimp only
    split
    · exact left.relinquish
    · exact left
  · exact h

lemma Settled.drop (h : w.Settled granted) : w.drop.Settled granted :=
  ⟨h.relinquish.balance, h.relinquish.answered⟩

lemma relinquish_held (w : Wakelock) : w.relinquish.held = false := by
  unfold relinquish
  split
  · rfl
  · rename_i free
    simpa using free

lemma drop_held (w : Wakelock) : w.drop.held = false := relinquish_held w

/-- An attempt that leaves the lock with the system was made, and refused. -/
lemma acquire_refused {owner : WakelockOwner} (free : (w.acquire granted owner).held = false) :
    (w.acquire granted owner).attempts = w.attempts + 1 ∧ granted w.attempts = false := by
  unfold acquire obtain at free ⊢
  dsimp only at free ⊢
  split at free
  · rename_i held
    rw [held] at free
    cases free
  · rename_i notHeld
    rw [if_neg notHeld]
    split at free
    · cases free
    · rename_i refusal
      rw [if_neg refusal]
      exact ⟨rfl, by simpa using refusal⟩

end Wakelock

/-! ## Handles -/

/-- What is done through a handle. -/
inductive HandleUse where
  | acquire (owner : WakelockOwner)
  | release (owner : WakelockOwner)
  | copy
  | drop
deriving DecidableEq, Repr

/-- Whose share it is about, and whether it is taken. -/
def HandleUse.turn? : HandleUse → Option (WakelockOwner × Bool)
  | .acquire owner => some (owner, true)
  | .release owner => some (owner, false)
  | .copy | .drop => none

/-- A wakelock and those who have a handle on it, by numbers. -/
structure HandledWakelock where
  handles : List Nat
  nextHandle : Nat
  lock : Wakelock
deriving DecidableEq, Repr

namespace HandledWakelock

variable {granted : WakelockGrants} {s s' : HandledWakelock} {call : Nat × HandleUse}
variable {calls : List (Nat × HandleUse)} {o : WakelockOwner}

/-- A new wakelock comes with one handle. -/
def new : HandledWakelock := ⟨[0], 1, .idle⟩

/-- What a use does. The wakelock goes with its last handle. -/
def apply (granted : WakelockGrants) (s : HandledWakelock) (through : Nat) :
    HandleUse → HandledWakelock
  | .acquire owner => { s with lock := s.lock.acquire granted owner }
  | .release owner => { s with lock := s.lock.release owner }
  | .copy => { s with handles := s.nextHandle :: s.handles, nextHandle := s.nextHandle + 1 }
  | .drop =>
    let left := s.handles.erase through
    { s with handles := left, lock := if left.isEmpty then s.lock.drop else s.lock }

/-- A use through a handle, which must not have been let go of. -/
def perform (granted : WakelockGrants) (s : HandledWakelock) (call : Nat × HandleUse) :
    Option HandledWakelock :=
  if call.1 ∈ s.handles then some (s.apply granted call.1 call.2) else none

def performAll (granted : WakelockGrants) (s : HandledWakelock) (calls : List (Nat × HandleUse)) :
    Option HandledWakelock :=
  calls.foldlM (perform granted) s

/-- Whether the last call for an owner was to take its share, if there was one. -/
def lastTurn (owner : WakelockOwner) (calls : List (Nat × HandleUse)) : Option Bool :=
  ((calls.filterMap (·.2.turn?)).filter (·.1 = owner)).getLast?.map (·.2)

/-- At the last call to take a share, the system was asked and refused. -/
def LastRefused (granted : WakelockGrants) (calls : List (Nat × HandleUse)) : Prop :=
  ∃ before through owner later s s', calls = before ++ (through, .acquire owner) :: later ∧
    (∀ call ∈ later, ∀ owner', call.2 ≠ .acquire owner') ∧
    new.performAll granted before = some s ∧
    s.perform granted (through, .acquire owner) = some s' ∧
    s'.lock.attempts = s.lock.attempts + 1 ∧ granted s.lock.attempts = false

/-- The last call of a run is made where the ones before it lead. -/
lemma performAll_concat (granted : WakelockGrants) (s : HandledWakelock)
    (calls : List (Nat × HandleUse)) (call : Nat × HandleUse) :
    s.performAll granted (calls ++ [call]) =
      (s.performAll granted calls).bind (·.perform granted call) := by
  unfold performAll
  rw [List.foldlM_append]
  cases calls.foldlM (perform granted) s with
  | none => rfl
  | some before => exact Option.bind_fun_some _

lemma perform_eq_some : s.perform granted call = some s' ↔
    call.1 ∈ s.handles ∧ s' = s.apply granted call.1 call.2 := by
  unfold perform
  split
  · rename_i live
    simp [live, eq_comm]
  · rename_i gone
    simp [gone]

/-! ## Along every run -/

/-- A property of wakelocks with their handles that every call keeps holds after all runs. -/
lemma performAll_induction {P : List (Nat × HandleUse) → HandledWakelock → Prop}
    (start : P [] new)
    (step : ∀ calls s through use, new.performAll granted calls = some s → through ∈ s.handles →
      P calls s → P (calls ++ [(through, use)]) (s.apply granted through use))
    (h : new.performAll granted calls = some s) : P calls s := by
  induction calls using List.reverseRecOn generalizing s with
  | nil =>
    cases h
    exact start
  | append_singleton calls call ih =>
    rw [performAll_concat] at h
    obtain ⟨before, run, last⟩ := Option.bind_eq_some_iff.mp h
    obtain ⟨live, rfl⟩ := perform_eq_some.mp last
    exact step calls before call.1 call.2 run live (ih run)

/-- What a wakelock keeps, whoever uses it. -/
structure Kept (granted : WakelockGrants) (s : HandledWakelock) : Prop where
  nodup : s.lock.owners.Nodup
  sound : s.lock.Sound
  settled : s.lock.Settled granted
  closed : s.handles = [] → s.lock.held = false

lemma kept_new (granted : WakelockGrants) : Kept granted new where
  nodup := List.nodup_nil
  sound no := Bool.noConfusion no
  settled := Wakelock.settled_idle granted
  closed none := absurd none (List.cons_ne_nil _ _)

lemma Kept.apply (h : s.Kept granted) {through : Nat} (live : through ∈ s.handles)
    (use : HandleUse) : (s.apply granted through use).Kept granted := by
  have shared : s.handles ≠ [] := List.ne_nil_of_mem live
  cases use with
  | acquire owner =>
    exact ⟨Wakelock.nodup_owners_acquire h.nodup _ _, Wakelock.acquire_sound _ _ _,
      h.settled.acquire owner, fun none => absurd none shared⟩
  | release owner =>
    exact ⟨Wakelock.nodup_owners_release h.nodup _, Wakelock.release_sound h.sound _,
      h.settled.release owner, fun none => absurd none shared⟩
  | copy => exact ⟨h.nodup, h.sound, h.settled, fun none => absurd none (List.cons_ne_nil _ _)⟩
  | drop =>
    unfold HandledWakelock.apply
    dsimp only
    split
    · refine ⟨List.nodup_nil, fun held => ?_, h.settled.drop, fun _ => s.lock.drop_held⟩
      rw [Wakelock.drop_held] at held
      cases held
    · rename_i others
      exact ⟨h.nodup, h.sound, h.settled, fun none => absurd (List.isEmpty_iff.mpr none) others⟩

theorem kept_performAll (h : new.performAll granted calls = some s) : s.Kept granted := by
  refine performAll_induction (P := fun _ s => s.Kept granted) (kept_new granted) ?_ h
  intro calls s through use _ live kept
  exact kept.apply live use

lemma lastTurn_concat (owner : WakelockOwner) (calls : List (Nat × HandleUse))
    (through : Nat) (use : HandleUse) :
    lastTurn owner (calls ++ [(through, use)]) =
      match use.turn? with
      | some (asking, takes) => if asking = owner then some takes else lastTurn owner calls
      | none => lastTurn owner calls := by
  unfold lastTurn
  cases turn : use.turn? with
  | none => simp [turn]
  | some t =>
    obtain ⟨asking, takes⟩ := t
    by_cases own : asking = owner <;> simp [turn, own, List.filter_append]

/-- Who has a share is settled by the last call for it. -/
theorem isOwner_performAll (h : new.performAll granted calls = some s) (shared : s.handles ≠ []) :
    s.lock.isOwner o = true ↔ lastTurn o calls = some true := by
  unfold Wakelock.isOwner
  rw [List.contains_iff_mem]
  revert shared
  refine performAll_induction (P := fun calls s => s.handles ≠ [] →
    (o ∈ s.lock.owners ↔ lastTurn o calls = some true)) ?_ ?_ h
  · intro _
    exact iff_of_false List.not_mem_nil (by simp [lastTurn])
  · intro calls s through use run live ih shared
    have before := ih (List.ne_nil_of_mem live)
    rw [lastTurn_concat]
    cases use with
    | acquire owner =>
      show o ∈ (s.lock.acquire granted owner).owners ↔ (if owner = o then _ else _) = _
      rw [Wakelock.mem_owners_acquire, before]
      by_cases own : owner = o
      · simp [own]
      · simp [own, Ne.symm own]
    | release owner =>
      show o ∈ (s.lock.release owner).owners ↔ (if owner = o then _ else _) = _
      rw [Wakelock.mem_owners_release (kept_performAll run).nodup, before]
      by_cases own : owner = o
      · simp [own]
      · simp [own, Ne.symm own]
    | copy => exact before
    | drop =>
      have others : ¬ (s.handles.erase through).isEmpty = true := by
        rw [List.isEmpty_iff]
        exact shared
      show o ∈ (if _ then _ else s.lock : Wakelock).owners ↔ _
      rw [if_neg others]
      exact before

lemma LastRefused.concat {through : Nat} {use : HandleUse} (h : LastRefused granted calls)
    (other : ∀ owner, use ≠ .acquire owner) : LastRefused granted (calls ++ [(through, use)]) := by
  obtain ⟨before, asker, owner, later, s, s', rfl, none, run, last, asked, refusal⟩ := h
  refine ⟨before, asker, owner, later ++ [(through, use)], s, s', ?_, ?_, run, last, asked, refusal⟩
  · simp
  · intro call hcall
    rcases List.mem_append.mp hcall with earlier | newest
    · exact none call earlier
    · rw [List.mem_singleton.mp newest]
      exact other

/-- Owners go without the lock only after it has been refused to the last one that asked. -/
theorem refused_performAll (h : new.performAll granted calls = some s)
    (wanted : s.lock.owners ≠ []) (free : s.lock.held = false) : LastRefused granted calls := by
  revert wanted free
  refine performAll_induction (P := fun calls s => s.lock.owners ≠ [] → s.lock.held = false →
    LastRefused granted calls) ?_ ?_ h
  · intro wanted
    exact absurd rfl wanted
  · intro calls s through use run live ih wanted free
    cases use with
    | acquire owner =>
      obtain ⟨asked, refusal⟩ := Wakelock.acquire_refused free
      exact ⟨calls, through, owner, [], s, _, rfl, by simp, run, perform_eq_some.mpr ⟨live, rfl⟩,
        asked, refusal⟩
    | release owner =>
      have owners := Wakelock.release_owners owner s.lock
      have before : s.lock.owners ≠ [] := by
        intro none
        rw [none] at owners
        exact wanted owners
      have held : ¬ s.lock.held = true := by
        intro held
        have := (Wakelock.release_held (kept_performAll run).sound owner).mpr ⟨wanted, held⟩
        exact Bool.false_ne_true (free.symm.trans this)
      refine (ih before (by simpa using held)).concat fun owner' same => ?_
      cases same
    | copy =>
      refine (ih wanted free).concat fun owner' same => ?_
      cases same
    | drop =>
      unfold HandledWakelock.apply at wanted free
      dsimp only at wanted free
      split at wanted
      · -- nobody is left when the wakelock goes
        exact absurd rfl wanted
      · rename_i others
        rw [if_neg others] at free
        refine (ih wanted free).concat fun owner' same => ?_
        cases same

/-- However a wakelock is used through its handles, and whatever the system answers: as long as
there are handles, an owner has a share exactly if its last call was to take it. The system's lock
is not held for nobody, it was granted as often as it was given back and once more while it is held,
and if it is not held although somebody wants it, the system was asked for it at the last call to
take a share and refused. When the last handle has gone, all that was granted has been given
back. -/
theorem accounts_of_handles (h : new.performAll granted calls = some s) :
    (s.handles ≠ [] → ∀ o, s.lock.isOwner o = true ↔ lastTurn o calls = some true) ∧
    (s.lock.held = true → s.lock.owners ≠ []) ∧
    s.lock.grants = s.lock.releases + s.lock.held.toNat ∧
    s.lock.grants = (List.range s.lock.attempts).countP granted ∧
    (s.lock.owners ≠ [] → s.lock.held = false → LastRefused granted calls) ∧
    (s.handles = [] → s.lock.grants = s.lock.releases) := by
  have kept := kept_performAll h
  refine ⟨fun shared _ => isOwner_performAll h shared, kept.sound, kept.settled.balance,
    kept.settled.answered, refused_performAll h, fun none => ?_⟩
  have balance := kept.settled.balance
  rw [kept.closed none] at balance
  exact balance

/-- A system that grants every second attempt. -/
def grudging : WakelockGrants := fun attempt => attempt % 2 == 1

/-- Two owners come and go through two handles. -/
def restless : List (Nat × HandleUse) :=
  [(0, .acquire ⟨1⟩), (0, .copy), (1, .acquire ⟨2⟩), (1, .acquire ⟨1⟩), (0, .release ⟨2⟩),
    (0, .release ⟨1⟩), (1, .acquire ⟨1⟩)]

/-- At the end the first owner has a share and was refused the lock; had the second one asked again
before the handles were let go of, it would have been granted and given back. -/
theorem accounts_of_restless :
    new.performAll grudging restless = some ⟨[1, 0], 2, ⟨[⟨1⟩], false, 3, 1, 1⟩⟩ ∧
    (Wakelock.isOwner ⟨[⟨1⟩], false, 3, 1, 1⟩ ⟨2⟩ = true ↔ lastTurn ⟨2⟩ restless = some true) ∧
    LastRefused grudging restless ∧
    new.performAll grudging (restless ++ [(1, .acquire ⟨2⟩), (0, .drop), (1, .drop)]) =
      some ⟨[], 2, ⟨[], false, 4, 2, 2⟩⟩ := by
  have run : new.performAll grudging restless = some ⟨[1, 0], 2, ⟨[⟨1⟩], false, 3, 1, 1⟩⟩ := rfl
  obtain ⟨shares, -, -, -, refused, -⟩ := accounts_of_handles run
  exact ⟨run, shares (List.cons_ne_nil _ _) ⟨2⟩, refused (List.cons_ne_nil _ _) rfl, rfl⟩

end HandledWakelock

end AppLifecycle
