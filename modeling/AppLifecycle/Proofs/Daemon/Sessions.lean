import AppLifecycle.Proofs.Daemon.Run

/-!
# The table of sessions and the sessions of the records

Every session of the table is the session of some record. The session of a record, in turn, should
be in the table, and belong there to the compositor that announced it: what is reported of a session
that is not in the table is not heard. It is there until a session with the same id is announced
(`Reannounces`). The table has one place for the two, and forgets it with the first of them.
-/

namespace AppLifecycle

namespace Daemon

variable {d d' : Daemon} {host : Host} {h : Happening} {opened gone : List Session}
variable {lifecycle : LifecyclePolicy} {authorization : AuthorizationPolicy}

/-- The sessions of the records have distinct ids, and each is in the table and belongs to the
compositor that announced it. -/
structure Matched (d : Daemon) : Prop where
  distinct : (d.registry.sessions.map Session.id).Nodup
  owned : ∀ x ∈ d.registry.sessions, d.sessions.owner? x.id = some x.compositor

instance (d : Daemon) : Decidable d.Matched :=
  decidable_of_iff ((d.registry.sessions.map Session.id).Nodup ∧
    ∀ x ∈ d.registry.sessions, d.sessions.owner? x.id = some x.compositor)
    ⟨fun h => ⟨h.1, h.2⟩, fun h => ⟨h.distinct, h.owned⟩⟩

/-- A session is announced with the id of one that a record has, and afterwards some record has a
session with the id. -/
def Reannounces (host : Host) (h : Happening) (d : Daemon) : Prop :=
  ∃ x ∈ h.announces, x.id ∈ d.registry.sessions.map Session.id ∧
    x.id ∈ (d.happen host h).registry.sessions.map Session.id

/-- What is so at all times: every session of the table is that of a record, and no id occurs twice
there. -/
structure Sound (d : Daemon) : Prop where
  taken : d.registry.journal = []
  quiet : d.Quiet
  keys : (d.sessions.holds.map Session.id).Nodup
  attached : ∀ x ∈ d.sessions.holds, x ∈ d.registry.sessions

/-! ## One happening -/

lemma Happening.announces_cases (h : Happening) : h.announces = [] ∨ ∃ x, h.announces = [x] := by
  unfold announces
  split
  · split
    · exact .inr ⟨_, rfl⟩
    · exact .inl rfl
  · exact .inl rfl

lemma Happening.mem_announces {x : Session} : x ∈ h.announces ↔
    ∃ client, h = .command client (.sessionStarting x.id x.pid) ∧
      client.role.canManageSessions = true ∧ client.clientId = x.compositor := by
  constructor
  · intro announced
    unfold announces at announced
    split at announced
    · rename_i client session pid
      split at announced
      · rename_i allowed
        obtain rfl := List.mem_singleton.mp announced
        exact ⟨client, rfl, allowed, rfl⟩
      · exact absurd announced List.not_mem_nil
    · exact absurd announced List.not_mem_nil
  · rintro ⟨client, rfl, allowed, owner⟩
    unfold announces
    dsimp only
    rw [if_pos allowed, owner]
    exact List.mem_singleton_self x

lemma enrol_holds (x : Session) (d : Daemon) : (d.enrol [x]).sessions.holds =
    d.sessions.holds.filter (fun y => y.id ≠ x.id) ++ [x] :=
  d.sessions.holds_register x

/-- A session that is opened belongs to a record, or the table forgets it. -/
lemma Trades.sound (trades : Trades d opened d' gone) (quiet : d.Quiet)
    (keys : (d.sessions.holds.map Session.id).Nodup)
    (attached : ∀ x ∈ d.sessions.holds, x ∈ d.registry.sessions ++ opened) : d'.Sound := by
  refine ⟨trades.taken, trades.quiet quiet, ?_, fun x hx => ?_⟩
  · rw [trades.table]
    exact keys.sublist (List.filter_sublist.map _)
  · rw [trades.table] at hx
    obtain ⟨hx, still⟩ := List.mem_filter.mp hx
    have still := of_decide_eq_true still
    obtain stays | dropped := List.mem_append.mp (trades.kept.mem_iff.mp (attached x hx))
    · exact stays
    · exact absurd (List.mem_map_of_mem dropped) still

theorem Sound.happen (sound : d.Sound) (host : Host) (h : Happening) : (d.happen host h).Sound := by
  obtain ⟨gone, trades⟩ := happen_trades host h sound.taken
  obtain none | ⟨x, one⟩ := h.announces_cases
  · rw [none] at trades
    refine trades.sound sound.quiet sound.keys fun x hx => ?_
    rw [List.append_nil]
    exact sound.attached x hx
  · rw [one] at trades
    refine trades.sound sound.quiet ?_ fun y hy => ?_
    · rw [enrol_holds, List.map_append, List.nodup_append]
      refine ⟨sound.keys.sublist (List.filter_sublist.map _), List.nodup_singleton _, ?_⟩
      intro id hid other hother same
      obtain ⟨y, hy, rfl⟩ := List.mem_map.mp hid
      have differs := of_decide_eq_true (List.mem_filter.mp hy).2
      exact differs (same.trans (List.mem_singleton.mp hother))
    · rw [enrol_holds] at hy
      obtain hy | hy := List.mem_append.mp hy
      · exact List.mem_append_left _ (sound.attached y (List.mem_filter.mp hy).1)
      · exact List.mem_append_right _ hy

/-- Where the ids that are looked at are distinct, the sessions with them that are in the table stay
there as long as the records have them. -/
lemma Trades.held (trades : Trades d opened d' gone) (p : SessionId → Bool)
    (distinct : (((d.registry.sessions ++ opened).filter fun x => p x.id).map Session.id).Nodup)
    (held : ∀ x ∈ d.registry.sessions ++ opened, p x.id = true → x ∈ d.sessions.holds) :
    ((d'.registry.sessions.filter fun x => p x.id).map Session.id).Nodup ∧
    ∀ x ∈ d'.registry.sessions, p x.id = true → x ∈ d'.sessions.holds := by
  have kept := (trades.kept.filter fun x => p x.id).map Session.id
  have apart := kept.nodup_iff.mp distinct
  rw [List.filter_append, List.map_append, List.nodup_append] at apart
  refine ⟨apart.1, fun x hx looked => ?_⟩
  rw [trades.table]
  refine List.mem_filter.mpr ⟨held x (trades.kept.mem_iff.mpr (List.mem_append_left _ hx)) looked,
    decide_eq_true fun dropped => ?_⟩
  obtain ⟨y, hy, same⟩ := List.mem_map.mp dropped
  refine apart.2.2 x.id (List.mem_map_of_mem (List.mem_filter.mpr ⟨hx, looked⟩)) y.id
    (List.mem_map_of_mem (List.mem_filter.mpr ⟨hy, ?_⟩)) same.symm
  rw [same]
  exact looked

/-- The sessions of the records are in the table. -/
lemma matched_iff (sound : d.Sound) : d.Matched ↔
    (d.registry.sessions.map Session.id).Nodup ∧
      ∀ x ∈ d.registry.sessions, x ∈ d.sessions.holds := by
  constructor
  · rintro ⟨distinct, owned⟩
    refine ⟨distinct, fun x hx => ?_⟩
    obtain ⟨y, hy, same, -⟩ := SessionTable.exists_mem_of_owner? (owned x hx)
    obtain rfl : y = x := List.inj_on_of_nodup_map distinct (sound.attached y hy) hx same
    exact hy
  · rintro ⟨distinct, held⟩
    exact ⟨distinct, fun x hx => SessionTable.owner?_of_mem sound.keys (held x hx)⟩

/-- A session with an id that some record's session had, and has, is one too many: the two have one
place in the table. -/
lemma not_matched_of_reannounces (sound : d.Sound) (again : d.Reannounces host h) :
    ¬(d.happen host h).Matched := by
  rintro ⟨distinct, owned⟩
  obtain ⟨x, announced, before, after⟩ := again
  obtain ⟨gone, trades⟩ := happen_trades host h sound.taken
  obtain none | ⟨y, one⟩ := h.announces_cases
  · rw [none] at announced
    cases announced
  · rw [one] at trades announced
    obtain rfl := List.mem_singleton.mp announced
    -- the id is in the table, so that no hold on a session with the id has been given up
    have kept : x.id ∉ gone.map Session.id := by
      obtain ⟨y, hy, same⟩ := List.mem_map.mp after
      obtain ⟨z, hz, listed, -⟩ := SessionTable.exists_mem_of_owner? (owned y hy)
      rw [trades.table] at hz
      rw [← same, ← listed]
      exact of_decide_eq_true (List.mem_filter.mp hz).2
    have counts := (trades.kept.map Session.id).count_eq x.id
    rw [List.map_append, List.map_append, List.count_append, List.count_append,
      List.count_eq_zero_of_not_mem kept] at counts
    have twice : 0 < ((d.enrol [x]).registry.sessions.map Session.id).count x.id :=
      List.count_pos_iff.mpr before
    have once := List.nodup_iff_count_le_one.mp distinct x.id
    simp only [List.map_cons, List.map_nil, List.count_singleton_self] at counts
    omega

/-- The id is not one that is announced although a record has a session with it. -/
def Spares (h : Happening) (d : Daemon) (id : SessionId) : Bool :=
  decide (∀ x ∈ h.announces, x.id ∈ d.registry.sessions.map Session.id → id ≠ x.id)

lemma spares_iff {id : SessionId} : d.Spares h id = true ↔
    ∀ x ∈ h.announces, x.id ∈ d.registry.sessions.map Session.id → id ≠ x.id :=
  decide_eq_true_iff

/-- A session that a record has and that is spared does not have an id that is announced. -/
lemma Spares.differs {x y : Session} (spared : d.Spares h y.id = true)
    (hy : y ∈ d.registry.sessions) (hx : x ∈ h.announces) : y.id ≠ x.id := fun same =>
  spares_iff.mp spared x hx (same ▸ List.mem_map_of_mem hy) same

lemma spares_of_fresh (fresh : ¬d.Reannounces host h) :
    ∀ y ∈ (d.happen host h).registry.sessions, d.Spares h y.id = true := fun _ hy =>
  spares_iff.mpr fun x hx before same => fresh ⟨x, hx, before, same ▸ List.mem_map_of_mem hy⟩

lemma nodup_spared (h : Happening) (distinct : (d.registry.sessions.map Session.id).Nodup) :
    (((d.registry.sessions ++ h.announces).filter fun x => d.Spares h x.id).map
      Session.id).Nodup := by
  rw [List.filter_append, List.map_append, List.nodup_append]
  refine ⟨distinct.sublist (List.filter_sublist.map _), ?_, fun id hid other hother same => ?_⟩
  · have announced : (h.announces.map Session.id).Nodup := by
      obtain none | ⟨x, one⟩ := h.announces_cases
      · rw [none]
        exact List.nodup_nil
      · rw [one]
        exact List.nodup_singleton x.id
    exact announced.sublist (List.filter_sublist.map _)
  · obtain ⟨y, hy, rfl⟩ := List.mem_map.mp hid
    obtain ⟨x, hx, rfl⟩ := List.mem_map.mp hother
    obtain ⟨hy, spared⟩ := List.mem_filter.mp hy
    exact Spares.differs spared hy (List.mem_filter.mp hx).1 same

/-- What is announced takes the place of nothing that is spared. -/
lemma enrol_holds_spared (held : ∀ x ∈ d.registry.sessions, x ∈ d.sessions.holds) :
    ∀ y ∈ d.registry.sessions ++ h.announces, d.Spares h y.id = true →
      y ∈ (d.enrol h.announces).sessions.holds := by
  intro y hy spared
  obtain none | ⟨x, one⟩ := h.announces_cases
  · rw [none, List.append_nil] at hy
    rw [none]
    exact held y hy
  · have announced : x ∈ h.announces := by
      rw [one]
      exact List.mem_singleton_self x
    rw [one] at hy ⊢
    rw [enrol_holds]
    obtain hy | hy := List.mem_append.mp hy
    · have differs := Spares.differs spared hy announced
      exact List.mem_append_left _ (List.mem_filter.mpr ⟨held y hy, decide_eq_true differs⟩)
    · exact List.mem_append_right _ hy

/-- A happening leaves the table matched exactly if it does not announce a session again. -/
theorem happen_matched_iff (host : Host) (h : Happening) (sound : d.Sound) (matched : d.Matched) :
    (d.happen host h).Matched ↔ ¬d.Reannounces host h := by
  refine ⟨fun next again => not_matched_of_reannounces sound again next, fun fresh => ?_⟩
  rw [matched_iff (sound.happen host h)]
  obtain ⟨distinct, held⟩ := (matched_iff sound).mp matched
  obtain ⟨gone, trades⟩ := happen_trades host h sound.taken
  have all := spares_of_fresh fresh
  obtain ⟨next, stay⟩ := trades.held (d.Spares h) (nodup_spared h distinct)
    (enrol_holds_spared held)
  rw [List.filter_eq_self.mpr all] at next
  exact ⟨next, fun y hy => stay y hy (all y hy)⟩

/-- A session is announced when no report waits any more. -/
lemma reports_of_announces (host : Host) (quiet : d.Quiet) {x : Session}
    (announced : x ∈ h.announces) : (d.happen host h).reports = [] := by
  obtain ⟨client, rfl, allowed, owner⟩ := Happening.mem_announces.mp announced
  show (d.handle host client (.sessionStarting x.id x.pid)).2.reports = []
  have refusal : client.role.refusal? (.sessionStarting x.id x.pid) = none := by
    unfold ClientRole.refusal?
    rw [allowed]
    rfl
  unfold handle
  rw [refusal]
  show (d.announce host client x.id x.pid).2.reports = []
  unfold announce serve
  dsimp only
  split
  · rename_i served
    split at served
    · cases served
    · rename_i closed
      obtain ⟨-, rfl⟩ := Prod.mk.inj served
      exact quiet (Bool.eq_false_iff.mpr closed)
  · rename_i served
    split at served
    · obtain ⟨-, rfl⟩ := Prod.mk.inj served
      exact drain_reports host _
    · cases served

/-! ## What it comes to -/

lemma start_sound (lifecycle : LifecyclePolicy) (authorization : AuthorizationPolicy) :
    (Daemon.start lifecycle authorization).Sound :=
  ⟨rfl, fun _ => rfl, List.nodup_nil, fun _ hx => absurd hx List.not_mem_nil⟩

theorem after_sound (lifecycle : LifecyclePolicy) (authorization : AuthorizationPolicy)
    (run : List (Host × Happening)) : (after lifecycle authorization run).Sound := by
  induction run using List.reverseRecOn with
  | nil => exact start_sound lifecycle authorization
  | append_singleton run x ih =>
    rw [after_concat]
    exact ih.happen x.1 x.2

/-- The table stays matched along a run if it does where a session is announced again. -/
lemma after_matched {ops : List (Host × Happening)}
    (again : ∀ run host h, run ++ [(host, h)] <+: ops →
      (after lifecycle authorization run).Reannounces host h →
      (after lifecycle authorization (run ++ [(host, h)])).Matched) :
    ∀ run, run <+: ops → (after lifecycle authorization run).Matched := by
  have start : (Daemon.start lifecycle authorization).Matched :=
    ⟨List.nodup_nil, fun _ hx => absurd hx List.not_mem_nil⟩
  intro run hrun
  refine Registry.forall_prefix_foldl start (fun run x hx before => ?_) hrun
  by_cases announced : (after lifecycle authorization run).Reannounces x.1 x.2
  · have matched := again run x.1 x.2 hx announced
    rw [after_concat] at matched
    exact matched
  · exact (happen_matched_iff x.1 x.2 (after_sound lifecycle authorization run) before).mpr
      announced

/-- The session of a record was announced, and the record has had it since then. -/
lemma announcedSince {ops : List (Host × Happening)} {x : Session}
    (hx : x ∈ (after lifecycle authorization ops).registry.sessions) :
    ∃ before host h later, ops = before ++ (host, h) :: later ∧ x ∈ h.announces ∧
      ∀ mid, mid <+: later →
        x ∈ (after lifecycle authorization (before ++ (host, h) :: mid)).registry.sessions := by
  have opened : ∀ (run : List (Host × Happening)) (e : Host × Happening),
      x ∈ ((after lifecycle authorization run).happen e.1 e.2).registry.sessions →
      x ∈ (after lifecycle authorization run).registry.sessions ∨ x ∈ e.2.announces := by
    intro run e now
    obtain ⟨gone, trades⟩ := happen_trades e.1 e.2 (after_sound lifecycle authorization run).taken
    exact List.mem_append.mp (trades.kept.mem_iff.mpr (List.mem_append_left _ now))
  obtain ⟨before, ⟨host, h⟩, later, run, announced, since⟩ :=
    Registry.exists_cause_foldl (fun d : Daemon => x ∈ d.registry.sessions)
      (fun _ e => x ∈ e.2.announces) List.not_mem_nil opened hx
  exact ⟨before, host, h, later, run, announced, since⟩

/-- Along a run, the table is matched whenever no report waits, exactly if no session is announced
with the id of one that a record has, so that afterwards some record has a session with the id. At
all times every session of the table is the session of a record; and the session of a record was
announced, with its id and for its process, by the compositor that it belongs to, and the record has
had it since then. -/
theorem matched_iff_announced_once (lifecycle : LifecyclePolicy)
    (authorization : AuthorizationPolicy) (ops : List (Host × Happening)) :
    ((∀ run, run <+: ops → (after lifecycle authorization run).reports = [] →
        (after lifecycle authorization run).Matched) ↔
      ∀ run host h, run ++ [(host, h)] <+: ops →
        ¬(after lifecycle authorization run).Reannounces host h) ∧
    (∀ x ∈ (after lifecycle authorization ops).sessions.holds,
      x ∈ (after lifecycle authorization ops).registry.sessions) ∧
    ∀ x ∈ (after lifecycle authorization ops).registry.sessions,
      ∃ before host client later,
        ops = before ++ (host, .command client (.sessionStarting x.id x.pid)) :: later ∧
        client.role.canManageSessions = true ∧ client.clientId = x.compositor ∧
        ∀ mid, mid <+: later → x ∈ (after lifecycle authorization
          (before ++ (host, .command client (.sessionStarting x.id x.pid)) ::
            mid)).registry.sessions := by
  have sound := after_sound lifecycle authorization
  refine ⟨⟨fun drained run host h hrun => ?_, fun fresh run hrun _ => ?_⟩, (sound ops).attached,
    fun x hx => ?_⟩
  · -- no report waits after an announcement, so that the table is matched even there
    have matched := after_matched fun run host h hrun ⟨x, announced, _⟩ => drained _ hrun (by
      rw [after_concat]
      exact reports_of_announces host (sound run).quiet announced)
    have next := matched _ hrun
    rw [after_concat] at next
    exact (happen_matched_iff host h (sound run)
      (matched run ((List.prefix_append _ _).trans hrun))).mp next
  · exact after_matched (fun run host h hrun announced => absurd announced (fresh run host h hrun))
      run hrun
  · obtain ⟨before, host, h, later, rfl, announced, since⟩ := announcedSince hx
    obtain ⟨client, rfl, allowed, owner⟩ := Happening.mem_announces.mp announced
    exact ⟨before, host, client, later, rfl, allowed, owner, since⟩

/-- The compositor of the clock's window. -/
def compositorOfClock : ClientInfo := ⟨Registry.windowOfClock.compositor, .compositor, none, none⟩

/-- Another client. -/
def otherClient (role : ClientRole) : ClientInfo :=
  ⟨⟨⟨List.replicate 32 ⟨0, by decide⟩, rfl⟩⟩, role, none, none⟩

/-- A shell starts the clock, and its compositor announces its window, which runs. -/
def showing : List (Host × Happening) :=
  [.command (otherClient .shell) (.startApplication ⟨"clock"⟩ []),
    .process (.starting ⟨"clock"⟩), .command compositorOfClock (.authorizeSession 7),
    .command compositorOfClock (.sessionStarting Registry.windowOfClock.id 7),
    .command compositorOfClock (.sessionStateChanged Registry.windowOfClock.id .running),
    .drain].map (Prod.mk .willing)

/-- The window of the clock is in the table as long as it is shown. -/
theorem matched_while_showing :
    (∀ run, run <+: showing → (after .standard .standard run).reports = [] →
      (after .standard .standard run).Matched) ∧
    (∀ run host h, run ++ [(host, h)] <+: showing →
      ¬(after .standard .standard run).Reannounces host h) ∧
    (after .standard .standard showing).registry.sessions = [Registry.windowOfClock] ∧
    (after .standard .standard showing).sessions.holds = [Registry.windowOfClock] := by
  have matched : ∀ run ∈ showing.inits, (after .standard .standard run).Matched := by decide
  have kept : ∀ run, run <+: showing → (after .standard .standard run).reports = [] →
      (after .standard .standard run).Matched :=
    fun run hrun _ => matched run ((List.mem_inits run showing).mpr hrun)
  exact ⟨kept, (matched_iff_announced_once .standard .standard showing).1.mp kept, by decide,
    by decide⟩

/-- Another compositor announces a session with the id of the window, for a process that may not
open one. -/
def contested : List (Host × Happening) :=
  showing ++ [(.willing, .command (otherClient .compositor)
    (.sessionStarting Registry.windowOfClock.id 9))]

/-- The other session is refused, and the window of the clock is not in the table any more. When the
window is closed, its compositor reports that in vain: the clock goes on running. -/
theorem clock_forgotten_by_table :
    (after .standard .standard contested).reports = [] ∧
    (after .standard .standard contested).registry.sessions = [Registry.windowOfClock] ∧
    (after .standard .standard contested).sessions.entries = [] ∧
    ¬(after .standard .standard contested).Matched ∧
    ((after .standard .standard (contested ++ [(.willing, .command compositorOfClock
      (.sessionCloseCompleted Registry.windowOfClock.id)),
      (.willing, .drain)])).registry.entries.map fun r => (r.state, r.session)) =
        [(.running, some Registry.windowOfClock)] := by
  refine ⟨by decide, by decide, by decide, by decide, by decide⟩

end Daemon

end AppLifecycle
