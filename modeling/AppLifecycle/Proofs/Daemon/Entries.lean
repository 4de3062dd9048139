import AppLifecycle.Proofs.Daemon.Run

/-!
# The entries of the table

Where an entry of the table of sessions comes from, in one inversion: whatever happens, an entry
that is there afterwards was there before, was announced, was reported of by the compositor that it
belongs to, or was orphaned when this compositor went (`entry_of_happen`).
-/

namespace AppLifecycle

/-- An association list without the entries of one key. -/
lemma find?_filter_key {κ α : Type} [DecidableEq κ] (entries : List (κ × α)) (key other : κ) :
    (entries.filter (·.1 ≠ other)).find? (·.1 = key) =
      if key = other then none else entries.find? (·.1 = key) := by
  rw [List.find?_filter]
  split
  · rename_i same
    refine List.find?_eq_none.mpr fun p _ => ?_
    simp [same]
  · rename_i differs
    congr 1
    funext p
    by_cases named : p.1 = key <;> simp [named, differs]

namespace SessionTable

variable {t : SessionTable} {id other : SessionId} {e : SessionEntry}

lemma get?_remove (t : SessionTable) (id other : SessionId) :
    (t.remove other).get? id = if id = other then none else t.get? id := by
  unfold get? remove
  rw [find?_filter_key]
  split <;> rfl

lemma get?_removeAll (t : SessionTable) (id : SessionId) (others : List SessionId) :
    (others.foldl SessionTable.remove t).get? id = if id ∈ others then none else t.get? id := by
  induction others generalizing t with
  | nil => simp
  | cons other others ih =>
    rw [List.foldl_cons, ih, get?_remove]
    by_cases removed : id ∈ others <;> by_cases same : id = other <;> simp [removed, same]

lemma get?_register (t : SessionTable) (id other : SessionId) (compositor : ClientId) (pid : Nat) :
    (t.register other compositor pid).get? id =
      if id = other then some ⟨compositor, pid, .starting⟩ else t.get? id := by
  unfold get? register remove
  rw [List.find?_append, find?_filter_key]
  by_cases same : id = other
  · simp [same]
  · simp [same, Ne.symm same]

/-- A change of entries that depends on the id and the entry. -/
lemma find?_map_entry (entries : List (SessionId × SessionEntry)) (id : SessionId)
    (f : SessionId → SessionEntry → SessionEntry) :
    ((entries.map fun p => (p.1, f p.1 p.2)).find? (·.1 = id)).map (·.2) =
      ((entries.find? (·.1 = id)).map (·.2)).map (f id) := by
  rw [List.find?_map, Option.map_map, Option.map_map]
  show Option.map _ (entries.find? fun p => p.1 = id) = _
  cases found : entries.find? fun p => p.1 = id with
  | none => rfl
  | some p =>
    have named := List.find?_some found
    have named : p.1 = id := of_decide_eq_true named
    show some (f p.1 p.2) = some (f id p.2)
    rw [named]

lemma get?_setState (t : SessionTable) (id other : SessionId) (state : SessionState) :
    (t.setState other state).get? id =
      (t.get? id).map fun e => if id = other then { e with state } else e := by
  rw [show (t.setState other state) =
    ⟨t.entries.map fun p => (p.1, if p.1 = other then { p.2 with state } else p.2)⟩ from ?_]
  · exact find?_map_entry t.entries id fun i e => if i = other then { e with state } else e
  · unfold setState
    congr 1
    refine List.map_congr_left fun p _ => ?_
    dsimp only
    split <;> rfl

lemma get?_orphan (t : SessionTable) (id : SessionId) (compositor : ClientId) :
    (t.orphan compositor).get? id = (t.get? id).map fun e =>
      if e.compositor = compositor then { e with state := .stopped } else e := by
  rw [show (t.orphan compositor) = ⟨t.entries.map fun p =>
    (p.1, if p.2.compositor = compositor then { p.2 with state := .stopped } else p.2)⟩ from ?_]
  · exact find?_map_entry t.entries id fun _ e =>
      if e.compositor = compositor then { e with state := .stopped } else e
  · unfold orphan
    congr 1
    refine List.map_congr_left fun p _ => ?_
    dsimp only
    split <;> rfl

lemma get?_isSome_iff : (t.get? id).isSome ↔ id ∈ t.holds.map Session.id := by
  unfold get? holds
  rw [Option.isSome_map, List.find?_isSome, List.map_map, List.mem_map]
  simp

end SessionTable

/-- The session that a report is of. -/
def SessionReport.session : SessionReport → SessionId
  | .state session _ => session
  | .closed session => session

/-- The state that a report leaves its session in. -/
def SessionReport.reached : SessionReport → SessionState
  | .state _ reached => reached
  | .closed _ => .stopped

/-- The report that a command makes. -/
def Command.report? : Command → Option SessionReport
  | .sessionStateChanged session state => some (.state session state)
  | .sessionCloseCompleted session => some (.closed session)
  | _ => none

namespace Daemon

variable {d : Daemon} {host : Host} {h : Happening} {id : SessionId} {e : SessionEntry}

/-- Where an entry of the table comes from. -/
inductive Entry (d : Daemon) (id : SessionId) : Happening → SessionEntry → Prop where
  | kept {h : Happening} {e : SessionEntry} (same : d.sessions.get? id = some e) : Entry d id h e
  | announced {h : Happening} {pid : Nat} {compositor : ClientId}
      (announced : ⟨id, pid, compositor⟩ ∈ h.announces) : Entry d id h ⟨compositor, pid, .starting⟩
  | reported {client : ClientInfo} {command : Command} {report : SessionReport} {e : SessionEntry}
      (before : d.sessions.get? id = some e) (owner : e.compositor = client.clientId)
      (reports : command.report? = some report) (names : report.session = id) :
      Entry d id (.command client command) { e with state := report.reached }
  | orphaned {e : SessionEntry} (before : d.sessions.get? id = some e) :
      Entry d id (.disconnect e.compositor) { e with state := .stopped }

/-! ## Serving the registry makes no entries -/

lemma entry_of_run {α : Type} {f : Host → Registry → α × Registry}
    (now : (d.run host f).2.sessions.get? id = some e) : d.sessions.get? id = some e := by
  have released := SessionTable.get?_removeAll d.sessions id
    ((f { host with sessionState := d.sessions.stateOf } d.registry).2.journal.filterMap
      Effect.released?)
  have now := released.symm.trans now
  split at now
  · cases now
  · exact now

lemma entry_of_heed (reports : List SessionReport)
    (now : (reports.foldl (heed host) d).sessions.get? id = some e) :
    d.sessions.get? id = some e := by
  induction reports generalizing d with
  | nil => exact now
  | cons report reports ih => exact entry_of_run (ih now)

lemma entry_of_drain (now : (d.drain host).sessions.get? id = some e) :
    d.sessions.get? id = some e := by
  rw [drain_eq] at now
  exact entry_of_heed (d := { d with reports := [] }) d.reports now

lemma entry_of_serve {α : Type} {f : Host → Registry → α × Registry}
    (now : (d.serve host f).2.sessions.get? id = some e) : d.sessions.get? id = some e := by
  unfold serve at now
  split at now
  · exact entry_of_drain (entry_of_run now)
  · exact now

lemma ask_snd {α : Type} (host : Host) (f : Host → Registry → α × Registry) (answer : α → Answer)
    (d : Daemon) : (d.ask host f answer).2 = (d.serve host f).2 := by
  unfold ask
  split <;> rename_i served <;> rw [served]

lemma entry_of_ask {α : Type} {f : Host → Registry → α × Registry} {answer : α → Answer}
    (now : (d.ask host f answer).2.sessions.get? id = some e) : d.sessions.get? id = some e := by
  rw [ask_snd] at now
  exact entry_of_serve now

/-- A session that is announced has an entry of its own, if any. -/
lemma entry_of_announce {client : ClientInfo} {session : SessionId} {pid : Nat}
    (now : (d.announce host client session pid).2.sessions.get? id = some e) :
    id = session ∧ e = ⟨client.clientId, pid, .starting⟩ ∨ d.sessions.get? id = some e := by
  generalize announced : ({ d with
    sessions := d.sessions.register session client.clientId pid } : Daemon) = enrolled
  have registered : enrolled.sessions.get? id = some e := by
    unfold announce at now
    dsimp only at now
    rw [announced] at now
    split at now
    · rename_i refused d' served
      have now := (SessionTable.get?_remove d'.sessions id session).symm.trans now
      split at now
      · cases now
      · rw [← show _ = d' from congrArg Prod.snd served] at now
        exact entry_of_serve now
    · rename_i result d' served
      rw [← show _ = d' from congrArg Prod.snd served] at now
      exact entry_of_serve now
  rw [← announced] at registered
  rw [SessionTable.get?_register] at registered
  split at registered
  · rename_i same
    exact .inl ⟨same, (Option.some.inj registered).symm⟩
  · exact .inr registered

/-- Only the compositor that a session belongs to changes its state. -/
lemma entry_of_report {client : ClientInfo} {session : SessionId} {state : SessionState}
    {report : SessionReport}
    (now : (d.report client session state report).2.sessions.get? id = some e) :
    d.sessions.get? id = some e ∨ ∃ before, d.sessions.get? id = some before ∧ id = session ∧
      before.compositor = client.clientId ∧ e = { before with state } := by
  unfold Daemon.report at now
  split at now
  · exact .inl now
  · rename_i owner owned
    split at now
    · rename_i own
      have noted : (d.sessions.setState session state).get? id = some e := by
        dsimp only at now
        split at now <;> exact now
      rw [SessionTable.get?_setState] at noted
      obtain ⟨before, found, same⟩ := Option.map_eq_some_iff.mp noted
      by_cases named : id = session
      · rw [if_pos named] at same
        subst named
        have owned : some before.compositor = some owner := by
          rw [← owned]
          unfold SessionTable.owner?
          rw [found]
          rfl
        exact .inr ⟨before, found, rfl, (Option.some.inj owned).trans own, same.symm⟩
      · rw [if_neg named] at same
        exact .inl (found.trans (congrArg some same))
    · exact .inl now

lemma entry_of_carryOut {client : ClientInfo} {command : Command}
    (allowed : client.role.refusal? command = none)
    (now : (d.carryOut host client command).2.sessions.get? id = some e) :
    Entry d id (.command client command) e := by
  have report : ∀ report : SessionReport, command.report? = some report →
      (d.report client report.session report.reached report).2.sessions.get? id = some e →
      Entry d id (.command client command) e := by
    intro report reports now
    obtain same | ⟨before, found, rfl, owner, rfl⟩ := entry_of_report now
    · exact .kept same
    · exact .reported found owner reports rfl
  cases command with
  | subscribeEvents => exact .kept now
  | unsubscribeEvents => exact .kept now
  | ping => exact .kept now
  | sessionStarting session pid =>
    obtain ⟨rfl, rfl⟩ | same := entry_of_announce now
    · refine .announced ?_
      have manages : client.role.canManageSessions = true := by
        by_contra refused
        unfold ClientRole.refusal? at allowed
        rw [if_neg (by simp [Command.isControlCommand]), if_pos ⟨rfl, refused⟩] at allowed
        cases allowed
      unfold Happening.announces
      dsimp only
      rw [if_pos manages]
      exact List.mem_singleton_self _
    · exact .kept same
  | sessionStateChanged session state =>
    exact report (.state session state) rfl now
  | sessionCloseCompleted session => exact report (.closed session) rfl now
  | _ => exact .kept (entry_of_ask now)

/-! ## Whatever happens -/

/-- An entry that is there after something has happened was there before, or it is the doing of the
compositor that it belongs to. -/
theorem entry_of_happen (now : (d.happen host h).sessions.get? id = some e) : Entry d id h e := by
  cases h with
  | command client command =>
    have now : (d.handle host client command).2.sessions.get? id = some e := now
    unfold handle at now
    split at now
    · exact .kept now
    · rename_i allowed
      exact entry_of_carryOut allowed now
  | disconnect client =>
    have now : (d.sessions.orphan client).get? id = some e := now
    rw [SessionTable.get?_orphan] at now
    obtain ⟨before, found, same⟩ := Option.map_eq_some_iff.mp now
    split at same
    · rename_i own
      subst own same
      exact .orphaned found
    · exact .kept (found.trans (congrArg some same))
  | process event =>
    have now : (d.onProcessEvent host event).sessions.get? id = some e := now
    unfold onProcessEvent at now
    split at now
    · exact .kept (entry_of_run now)
    · exact .kept now
  | tick =>
    have now : (d.tick host).sessions.get? id = some e := now
    unfold Daemon.tick at now
    split at now
    · exact .kept (entry_of_run now)
    · exact .kept now
  | drain => exact .kept (entry_of_drain now)
  | shutdown =>
    have now : (d.shutdown host).2.sessions.get? id = some e := now
    unfold shutdown at now
    split at now
    · exact .kept (entry_of_drain now)
    · exact .kept now
  | takeEvents => exact .kept now
  | takeEffects => exact .kept now

end Daemon

end AppLifecycle
