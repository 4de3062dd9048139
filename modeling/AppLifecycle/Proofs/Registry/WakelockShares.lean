import AppLifecycle.Proofs.Registry.Reachable
import AppLifecycle.Proofs.Wakelock

/-!
# The shares of the records in the wakelock

Every record has a share of its own in the wakelock, and takes it exactly while it wants the device
to stay awake. A move of a record sees to its own share and leaves the others alone
(`Scene.Accounts`); a step of the registry keeps the owners of the wakelock the owners of the
records that want it (`Registry.Shares`).
-/

namespace AppLifecycle

/-! ## One record -/

namespace Scene

variable {host : Host} {s t : Scene} {others : WakelockOwner → Prop}

/-- The record has its share if it wants it, and everybody else as `others` says. -/
structure Accounts (s : Scene) (others : WakelockOwner → Prop) : Prop where
  nodup : s.wakelock.owners.Nodup
  own : s.record.owner ∈ s.wakelock.owners ↔ s.record.wantsWakelock = true
  others : ∀ owner, owner ≠ s.record.owner → (owner ∈ s.wakelock.owners ↔ others owner)

/-- However the share was before, it is right once it has followed the state. -/
lemma syncWakelock_accounts (host : Host) (nodup : s.wakelock.owners.Nodup)
    (h : ∀ owner, owner ≠ s.record.owner → (owner ∈ s.wakelock.owners ↔ others owner)) :
    (s.syncWakelock host).Accounts others := by
  unfold syncWakelock
  split
  · rename_i wanted
    refine ⟨Wakelock.nodup_owners_acquire nodup _ _, ?_, fun owner hne => ?_⟩
    · rw [Wakelock.mem_owners_acquire]
      exact iff_of_true (.inl rfl) wanted
    · rw [Wakelock.mem_owners_acquire, ← h owner hne]
      exact or_iff_right hne
  · rename_i unwanted
    refine ⟨Wakelock.nodup_owners_release nodup _, ?_, fun owner hne => ?_⟩
    · rw [Wakelock.mem_owners_release nodup]
      exact iff_of_false (fun hmem => hmem.1 rfl) unwanted
    · rw [Wakelock.mem_owners_release nodup, ← h owner hne]
      exact and_iff_right hne

lemma Move.accounts (move : Move host s t) (h : s.Accounts others) : t.Accounts others := by
  cases move with
  | log e => exact ⟨h.nodup, h.own, h.others⟩
  | detail f hf =>
    have core := hf s.record
    have wants : (f s.record).wantsWakelock = s.record.wantsWakelock := by
      unfold Record.wantsWakelock
      rw [core.exempt, core.state]
    refine ⟨h.nodup, ?_, ?_⟩
    · show (f s.record).owner ∈ s.wakelock.owners ↔ (f s.record).wantsWakelock = true
      rw [core.owner, wants]
      exact h.own
    · show ∀ owner, owner ≠ (f s.record).owner → (owner ∈ s.wakelock.owners ↔ others owner)
      rw [core.owner]
      exact h.others
  | stage stage supported => exact ⟨h.nodup, h.own, h.others⟩
  | enter state =>
    unfold Scene.enter
    split
    · exact h
    · exact syncWakelock_accounts host h.nodup h.others
  | exempt exempt => exact syncWakelock_accounts host h.nodup h.others

/-- No operation of a record gets its share wrong, or touches another one. -/
theorem Moves.accounts (moves : Moves host s t) (h : s.Accounts others) : t.Accounts others := by
  induction moves with
  | refl => exact h
  | tail _ move ih => exact move.accounts ih

@[simp] lemma letGoSession_wakelock (s : Scene) : s.letGoSession.wakelock = s.wakelock := by
  unfold letGoSession
  split <;> rfl

lemma finish_wakelock (s : Scene) : s.finish.1 = s.wakelock.release s.record.owner :=
  letGoSession_wakelock _

end Scene

/-! ## All records -/

namespace Registry

variable {P : Host → Prop} {host : Host} {op : Operation} {reg reg' : Registry}
variable {front back : List Record} {r : Record} {s : Scene}

/-- The owners of the wakelock are those of the records that want it, and no two records have one
owner. -/
structure Shares (reg : Registry) : Prop where
  nodup : reg.wakelock.owners.Nodup
  distinct : (reg.entries.map Record.owner).Nodup
  fresh : ∀ r ∈ reg.entries, r.owner.number < reg.nextOwner
  mem_iff : ∀ owner, owner ∈ reg.wakelock.owners ↔
    ∃ r ∈ reg.entries, r.owner = owner ∧ r.wantsWakelock = true

lemma Shares.mem_owners_iff (h : Shares reg) (hr : r ∈ reg.entries) :
    r.owner ∈ reg.wakelock.owners ↔ r.wantsWakelock = true := by
  rw [h.mem_iff]
  constructor
  · rintro ⟨q, hq, owner, wants⟩
    obtain rfl : q = r := List.inj_on_of_nodup_map h.distinct hq hr owner
    exact wants
  · exact fun wants => ⟨r, hr, rfl, wants⟩

/-- Whose share is a record's own, and whether the record wants it. -/
def share (r : Record) : WakelockOwner × Bool := (r.owner, r.wantsWakelock)

lemma map_owner (l : List Record) : l.map Record.owner = (l.map share).map Prod.fst :=
  (List.map_map (g := Prod.fst) (f := share) (l := l)).symm

lemma mem_map_share {l : List Record} {owner : WakelockOwner} :
    (owner, true) ∈ l.map share ↔ ∃ r ∈ l, r.owner = owner ∧ r.wantsWakelock = true := by
  simp only [List.mem_map, share, Prod.mk.injEq]

/-- The order of the records does not matter, nor does what else they are. -/
lemma Shares.of_perm (h : Shares reg) (wakelock : reg'.wakelock = reg.wakelock)
    (nextOwner : reg'.nextOwner = reg.nextOwner)
    (perm : (reg'.entries.map share).Perm (reg.entries.map share)) : Shares reg' := by
  refine ⟨?_, ?_, fun r hr => ?_, fun owner => ?_⟩
  · rw [wakelock]
    exact h.nodup
  · have distinct := h.distinct
    rw [map_owner] at distinct ⊢
    exact (perm.map Prod.fst).nodup_iff.mpr distinct
  · obtain ⟨q, hq, same⟩ := List.mem_map.mp (perm.mem_iff.mp (List.mem_map_of_mem hr))
    have owner : q.owner = r.owner := congrArg Prod.fst same
    rw [nextOwner, ← owner]
    exact h.fresh q hq
  · rw [wakelock, h.mem_iff, ← mem_map_share, ← mem_map_share, perm.mem_iff]

lemma Shares.of_map_eq (h : Shares reg) (wakelock : reg'.wakelock = reg.wakelock)
    (nextOwner : reg'.nextOwner = reg.nextOwner)
    (same : reg'.entries.map share = reg.entries.map share) : Shares reg' :=
  h.of_perm wakelock nextOwner (.of_eq same)

/-! ### The record that an operation is about -/

/-- The records but for one: they have their own shares, and the one is not among them. -/
structure Apart (reg : Registry) (r : Record) (rest : List Record) : Prop where
  distinct : (rest.map Record.owner).Nodup
  own : ∀ q ∈ rest, q.owner ≠ r.owner
  fresh : ∀ q ∈ rest, q.owner.number < reg.nextOwner

lemma Shares.apart (h : Shares reg) (entries : reg.entries = front ++ r :: back) :
    Apart reg r (front ++ back) := by
  have distinct := h.distinct
  rw [entries] at distinct
  obtain ⟨others, own⟩ := nodup_map_split distinct
  refine ⟨others, own, fun q hq => h.fresh q ?_⟩
  rw [entries]
  simp only [List.mem_append, List.mem_cons] at hq ⊢
  exact hq.imp_right .inr

/-- A record at hand has its share if it wants it, and so have the others. -/
lemma Shares.accounts (h : Shares reg) (entries : reg.entries = front ++ r :: back) :
    (reg.scene r).Accounts fun owner =>
      ∃ q ∈ front ++ back, q.owner = owner ∧ q.wantsWakelock = true := by
  have apart := h.apart entries
  -- the records that want the device to stay awake are this one, if it does, and others
  have mem_iff : ∀ owner, owner ∈ reg.wakelock.owners ↔
      (r.owner = owner ∧ r.wantsWakelock = true) ∨
        ∃ q ∈ front ++ back, q.owner = owner ∧ q.wantsWakelock = true := by
    intro owner
    rw [h.mem_iff, entries]
    simp only [List.mem_append, List.mem_cons, or_and_right, exists_or, exists_eq_left]
    exact or_left_comm
  refine ⟨h.nodup, (mem_iff r.owner).trans ⟨?_, fun wants => .inl ⟨rfl, wants⟩⟩,
    fun owner hne => (mem_iff owner).trans (or_iff_right fun same => hne same.1.symm)⟩
  rintro (⟨-, wants⟩ | ⟨q, hq, same, -⟩)
  · exact wants
  · exact absurd same (apart.own q hq)

/-- A record with its accounts right joins the others. -/
lemma Apart.join {rest : List Record} (apart : Apart reg s.record rest)
    (accounts : s.Accounts fun owner => ∃ q ∈ rest, q.owner = owner ∧ q.wantsWakelock = true)
    (wakelock : reg'.wakelock = s.wakelock) (entries : reg'.entries.Perm (s.record :: rest))
    (grows : reg.nextOwner ≤ reg'.nextOwner)
    (fresh : s.record.owner.number < reg'.nextOwner) : Shares reg' := by
  refine ⟨?_, ?_, fun q hq => ?_, fun owner => ?_⟩
  · rw [wakelock]
    exact accounts.nodup
  · rw [(entries.map Record.owner).nodup_iff]
    refine List.nodup_cons.mpr ⟨fun hmem => ?_, apart.distinct⟩
    obtain ⟨q, hq, same⟩ := List.mem_map.mp hmem
    exact apart.own q hq same
  · obtain rfl | hq := List.mem_cons.mp (entries.mem_iff.mp hq)
    · exact fresh
    · exact Nat.lt_of_lt_of_le (apart.fresh q hq) grows
  · rw [wakelock]
    simp only [entries.mem_iff, List.mem_cons, or_and_right, exists_or, exists_eq_left]
    by_cases same : owner = s.record.owner
    · -- none of the others has this owner
      rw [same, accounts.own]
      constructor
      · exact fun wants => .inl ⟨rfl, wants⟩
      · rintro (⟨-, wants⟩ | ⟨q, hq, owns, -⟩)
        · exact wants
        · exact absurd owns (apart.own q hq)
    · rw [accounts.others owner same]
      exact (or_iff_right fun owns => same owns.1.symm).symm

lemma Shares.place (h : Shares reg) (entries : reg.entries = front ++ r :: back)
    (moves : Scene.Moves host (reg.scene r) s) : Shares (reg.place front r back s) := by
  have owner : s.record.owner = r.owner := moves.sameIdentity.owner
  have apart := h.apart entries
  have still : Apart reg s.record (front ++ back) :=
    ⟨apart.distinct, owner ▸ apart.own, apart.fresh⟩
  refine still.join (moves.accounts (h.accounts entries)) rfl List.perm_middle (Nat.le_refl _) ?_
  show s.record.owner.number < reg.nextOwner
  rw [owner]
  exact h.fresh r (entries ▸ List.mem_append_right _ List.mem_cons_self)

lemma Shares.evict (h : Shares reg) (entries : reg.entries = front ++ r :: back) :
    Shares (reg.evict front r back) := by
  have apart := h.apart entries
  have accounts := h.accounts entries
  have wakelock : (reg.evict front r back).wakelock = reg.wakelock.release r.owner :=
    Scene.finish_wakelock _
  refine ⟨?_, apart.distinct, apart.fresh, fun owner => ?_⟩
  · rw [wakelock]
    exact Wakelock.nodup_owners_release h.nodup _
  · rw [wakelock, Wakelock.mem_owners_release h.nodup]
    show _ ↔ ∃ q ∈ front ++ back, q.owner = owner ∧ q.wantsWakelock = true
    constructor
    · rintro ⟨hne, hmem⟩
      exact (accounts.others owner hne).mp hmem
    · rintro ⟨q, hq, rfl, wants⟩
      have hne : q.owner ≠ r.owner := apart.own q hq
      exact ⟨hne, (accounts.others _ hne).mpr ⟨q, hq, rfl, wants⟩⟩

lemma Shares.settle (h : Shares reg) (entries : reg.entries = front ++ r :: back)
    (moves : Scene.Moves host (reg.scene r) s) : Shares (reg.settle front r back s) := by
  have placed := h.place entries moves
  unfold Registry.settle
  split
  · exact placed.evict rfl
  · exact placed

lemma Shares.welcome (h : Shares reg) (descriptor : Descriptor) (arguments : List String)
    (exempt : Bool) {f : Scene → Scene} (introduction : Introduction op f) :
    Shares (reg.welcome (reg.newcomer host descriptor arguments exempt f)) := by
  have accounts := (introduction.moves host (Scene.begin host (Record.launched descriptor arguments
    exempt reg.lifecycle.closeTimeout ⟨reg.nextOwner⟩) reg.wakelock reg.journal)).accounts
    (Scene.syncWakelock_accounts host h.nodup fun owner _ => h.mem_iff owner)
  have new := (introduction.sameIdentity host reg descriptor arguments exempt).owner
  have apart : Apart reg (reg.newcomer host descriptor arguments exempt f).record reg.entries := by
    refine ⟨h.distinct, fun q hq same => ?_, h.fresh⟩
    have lt := h.fresh q hq
    rw [same, new] at lt
    exact Nat.lt_irrefl _ lt
  refine apart.join accounts rfl (.refl _) (Nat.le_succ _) ?_
  rw [new]
  exact Nat.lt_succ_self _

/-! ### Every run -/

lemma Step.shares (step : Step host op reg reg') (h : Shares reg) : Shares reg' := by
  have unmoved : ∀ (r : Record) focused, share { r with focused } = share r := fun _ _ => rfl
  cases step with
  | note helpers effects => exact ⟨h.nodup, h.distinct, h.fresh, h.mem_iff⟩
  | announce id => exact ⟨h.nodup, h.distinct, h.fresh, h.mem_iff⟩
  | treat place treatment => exact h.settle place.entries (treatment.moves _)
  | evict place _ => exact h.evict place.entries
  | track arguments _ _ _ introduction => exact h.welcome _ _ _ introduction
  | authorize pid entries _ =>
    refine h.of_map_eq rfl rfl ?_
    show (_ ++ _ :: _).map share = _
    rw [entries, List.map_append, List.map_append]
    rfl
  | raise place _ =>
    obtain ⟨entries, events, frame⟩ := raise_frame reg _ _ _
    refine h.of_perm ?_ ?_ ?_
    · rw [frame]
    · rw [frame]
    · exact (raise_perm place.entries).map _
  | focus _ _ _ =>
    obtain ⟨entries, events, frame⟩ := passFocus_frame reg _
    refine h.of_map_eq ?_ ?_ (map_passFocus unmoved _)
    · rw [frame]
    · rw [frame]

theorem Reachable.shares (h : Reachable P reg) : Shares reg := by
  refine h.invariant (fun _ _ => ?_) (fun _ _ _ _ _ step => step.shares) fun _ _ _ h =>
    ⟨h.nodup, h.distinct, h.fresh, h.mem_iff⟩
  refine ⟨List.nodup_nil, List.nodup_nil, fun _ hr => absurd hr List.not_mem_nil, fun owner => ?_⟩
  refine iff_of_false List.not_mem_nil ?_
  rintro ⟨_, hr, -⟩
  exact List.not_mem_nil hr

/-! ### Owners that are through -/

/-- The owner was given to a record that is not in the registry any more. -/
def Retired (reg : Registry) (owner : WakelockOwner) : Prop :=
  owner.number < reg.nextOwner ∧ ∀ r ∈ reg.entries, r.owner ≠ owner

lemma nextOwner_settle (reg : Registry) (front : List Record) (r : Record) (back : List Record)
    (s : Scene) : (reg.settle front r back s).nextOwner = reg.nextOwner := by
  unfold settle
  split <;> rfl

/-- No owner is given to a second record. -/
lemma Step.retired {owner : WakelockOwner} (step : Step host op reg reg')
    (h : reg.Retired owner) : reg'.Retired owner := by
  have grows : reg.nextOwner ≤ reg'.nextOwner := by
    cases step with
    | note helpers effects => exact Nat.le_refl _
    | announce id => exact Nat.le_refl _
    | treat place treatment => exact Nat.le_of_eq (nextOwner_settle _ _ _ _ _).symm
    | evict place _ => exact Nat.le_refl _
    | track arguments _ _ _ introduction => exact Nat.le_succ _
    | authorize pid entries _ => exact Nat.le_refl _
    | raise place _ =>
      obtain ⟨entries, events, frame⟩ := raise_frame reg _ _ _
      exact Nat.le_of_eq (congrArg nextOwner frame).symm
    | focus _ _ _ =>
      obtain ⟨entries, events, frame⟩ := passFocus_frame reg _
      exact Nat.le_of_eq (congrArg nextOwner frame).symm
  -- a new record gets a number that is not below the next one, as a retired one is
  refine ⟨Nat.lt_of_lt_of_le h.1 grows, step.forall_entries ?_ ?_ ?_ ?_ h.2⟩
  · exact fun _ _ hne => hne
  · exact fun _ _ _ hne => hne
  · intro _ descriptor arguments exempt f _ introduction same
    rw [(introduction.sameIdentity host reg descriptor arguments exempt).owner] at same
    have lt := h.1
    rw [← same] at lt
    exact Nat.lt_irrefl _ lt
  · intro r f _ treatment hne _
    rw [(treatment.moves (reg.scene r)).sameIdentity.owner]
    exact hne

lemma performAll_retired {owner : WakelockOwner} (ops : List (Host × Operation))
    (h : reg.Retired owner) : (reg.performAll ops).Retired owner := by
  induction ops generalizing reg with
  | nil => exact h
  | cons x ops ih =>
    exact ih (Steps.invariant (fun _ _ step => step.retired) (perform_steps x.1 x.2 reg) h)

/-! ## The end of a registry -/

/-- The wakelock once every record has given up its share. -/
def released (reg : Registry) : Wakelock :=
  reg.entries.foldl (fun w r => w.release r.owner) reg.wakelock

/-- The records are given up one after another, and each gives up its own share. -/
lemma foldl_finish_wakelock (l : List Record) (w : Wakelock) (journal : List Effect) :
    (l.foldl (fun (p : Wakelock × List Effect) r => (Scene.mk r p.1 p.2).finish) (w, journal)).1 =
      l.foldl (fun w r => w.release r.owner) w := by
  induction l generalizing w journal with
  | nil => rfl
  | cons r l ih =>
    rw [List.foldl_cons, List.foldl_cons, ← Scene.finish_wakelock (Scene.mk r w journal)]
    exact ih _ _

lemma drop_wakelock (reg : Registry) : reg.drop.wakelock = reg.released.drop :=
  congrArg Wakelock.drop (foldl_finish_wakelock reg.entries reg.wakelock reg.journal)

/-- Who has a share after records gave up theirs had one before, and is none of them. -/
lemma of_mem_foldl_release {w : Wakelock} (nodup : w.owners.Nodup) {l : List Record}
    {owner : WakelockOwner} (h : owner ∈ (l.foldl (fun w r => w.release r.owner) w).owners) :
    owner ∈ w.owners ∧ ∀ r ∈ l, r.owner ≠ owner := by
  induction l generalizing w with
  | nil => exact ⟨h, fun r hr => absurd hr List.not_mem_nil⟩
  | cons r l ih =>
    obtain ⟨hmem, hne⟩ := ih (Wakelock.nodup_owners_release nodup r.owner) h
    rw [Wakelock.mem_owners_release nodup] at hmem
    exact ⟨hmem.2, List.forall_mem_cons.mpr ⟨hmem.1.symm, hne⟩⟩

/-- Nobody else holds a share, so that none is left. -/
lemma Shares.released (h : Shares reg) : reg.released.owners = [] := by
  refine List.eq_nil_iff_forall_not_mem.mpr fun owner howner => ?_
  obtain ⟨hmem, hne⟩ := of_mem_foldl_release h.nodup howner
  obtain ⟨r, hr, same, -⟩ := (h.mem_iff owner).mp hmem
  exact hne r hr same

/-! ## What it comes to -/

/-- In every reachable registry the device is kept awake for the records that are not exempt and
are starting, running or closing, each on its own account, and for nobody else. A record that was
given up never has a share again, and a registry that is given up leaves none. -/
theorem wakelock_owners_iff (h : Reachable P reg) :
    (∀ owner, owner ∈ reg.wakelock.owners ↔
      ∃ r ∈ reg.entries, r.owner = owner ∧ r.exempt = false ∧
        (r.state = .starting ∨ r.state = .running ∨ r.state = .closing)) ∧
    reg.wakelock.owners.Nodup ∧
    (reg.entries.map Record.owner).Nodup ∧
    (∀ owner, reg.nextOwner ≤ owner.number → owner ∉ reg.wakelock.owners) ∧
    (∀ owner, reg.Retired owner → ∀ ops, owner ∉ (reg.performAll ops).wakelock.owners) ∧
    reg.released.owners = [] ∧
    reg.drop.wakelock = reg.released.drop := by
  have shares := h.shares
  have wants : ∀ r : Record, r.wantsWakelock = true ↔
      r.exempt = false ∧ (r.state = .starting ∨ r.state = .running ∨ r.state = .closing) := by
    intro r
    unfold Record.wantsWakelock
    cases r.exempt <;> cases r.state <;> decide
  refine ⟨fun owner => ?_, shares.nodup, shares.distinct, ?_, ?_, shares.released,
    drop_wakelock reg⟩
  · simp only [shares.mem_iff, wants]
  · intro owner future howner
    obtain ⟨r, hr, rfl, -⟩ := (shares.mem_iff owner).mp howner
    have lt := shares.fresh r hr
    omega
  · intro owner retired ops howner
    have later : Shares (reg.performAll ops) :=
      ((h.mono fun _ _ => trivial).performAll fun x _ => (trivial : (fun _ => True) x.1)).shares
    obtain ⟨r, hr, same, -⟩ := (later.mem_iff owner).mp howner
    exact (performAll_retired ops retired).2 r hr same

/-- The mail is gone, the clock is being suspended, and the notes keep the device awake. -/
theorem wakelock_owners_afterErrand :
    Reachable Host.Faithful afterErrand ∧
    (afterErrand.entries.map fun r => (r.owner.number, r.state)) =
      [(3, .starting), (2, .suspendingWaitSession)] ∧
    afterErrand.wakelock.owners = [⟨3⟩] ∧
    (∀ owner, owner ∈ afterErrand.wakelock.owners ↔
      ∃ r ∈ afterErrand.entries, r.owner = owner ∧ r.exempt = false ∧
        (r.state = .starting ∨ r.state = .running ∨ r.state = .closing)) ∧
    afterErrand.Retired ⟨1⟩ ∧
    (∀ ops, ⟨1⟩ ∉ (afterErrand.performAll ops).wakelock.owners) ∧
    afterErrand.released.owners = [] := by
  obtain ⟨owners, -, -, -, retired, released, -⟩ := wakelock_owners_iff afterErrand_reachable
  have gone : afterErrand.Retired ⟨1⟩ := by
    unfold Retired
    decide
  exact ⟨afterErrand_reachable, by decide, by decide, owners, gone, retired _ gone, released⟩

end Registry

end AppLifecycle
