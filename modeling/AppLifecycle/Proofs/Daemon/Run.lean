import AppLifecycle.Proofs.Registry.Sessions

/-!
# What happens to the daemon

Everything that can happen to the daemon, as data: a run is a list of happenings with the answers of
the machine. Whatever happens, the sessions that the records have, with one that a compositor
announces, are those that they have afterwards, with those whose hold has been given up, and these
are what the table forgets (`happen_trades`).
-/

namespace AppLifecycle

namespace SessionTable

variable {t : SessionTable} {id : SessionId} {x : Session}

/-- The holds on the sessions of the table. -/
def holds (t : SessionTable) : List Session :=
  t.entries.map fun p => ⟨p.1, p.2.pid, p.2.compositor⟩

lemma holds_remove (t : SessionTable) (id : SessionId) :
    (t.remove id).holds = t.holds.filter fun x => x.id ≠ id := by
  unfold holds remove
  rw [List.filter_map]
  rfl

lemma holds_removeAll (t : SessionTable) (ids : List SessionId) :
    (ids.foldl SessionTable.remove t).holds = t.holds.filter fun x => x.id ∉ ids := by
  induction ids generalizing t with
  | nil => simp
  | cons id ids ih =>
    rw [List.foldl_cons, ih, holds_remove, List.filter_filter]
    refine List.filter_congr fun x _ => ?_
    simp [Bool.and_comm]

lemma holds_register (t : SessionTable) (x : Session) :
    (t.register x.id x.compositor x.pid).holds = t.holds.filter (fun y => y.id ≠ x.id) ++ [x] := by
  rw [← holds_remove]
  exact List.map_append

lemma holds_setState (t : SessionTable) (id : SessionId) (state : SessionState) :
    (t.setState id state).holds = t.holds := by
  unfold holds setState
  rw [List.map_map]
  refine List.map_congr_left fun p _ => ?_
  dsimp only [Function.comp_apply]
  split <;> rfl

lemma holds_orphan (t : SessionTable) (compositor : ClientId) :
    (t.orphan compositor).holds = t.holds := by
  unfold holds orphan
  rw [List.map_map]
  refine List.map_congr_left fun p _ => ?_
  dsimp only [Function.comp_apply]
  split <;> rfl

/-- The owner of an id is the compositor of the first session with the id. -/
lemma owner?_eq (t : SessionTable) (id : SessionId) :
    t.owner? id = (t.holds.find? fun x => x.id = id).map Session.compositor := by
  unfold owner? get? holds
  rw [List.find?_map, Option.map_map, Option.map_map]
  rfl

lemma owner?_of_mem (distinct : (t.holds.map Session.id).Nodup) (h : x ∈ t.holds) :
    t.owner? x.id = some x.compositor := by
  have found : ∃ y, t.holds.find? (fun y => y.id = x.id) = some y := by
    rw [← Option.isSome_iff_exists, List.find?_isSome]
    exact ⟨x, h, by simp⟩
  obtain ⟨y, found⟩ := found
  have named := List.find?_some found
  have same : y.id = x.id := of_decide_eq_true named
  obtain rfl : y = x := List.inj_on_of_nodup_map distinct (List.mem_of_find?_eq_some found) h same
  rw [owner?_eq, found]
  rfl

lemma exists_mem_of_owner? {compositor : ClientId} (h : t.owner? id = some compositor) :
    ∃ x ∈ t.holds, x.id = id ∧ x.compositor = compositor := by
  rw [owner?_eq] at h
  obtain ⟨x, found, owner⟩ := Option.map_eq_some_iff.mp h
  have named := List.find?_some found
  exact ⟨x, List.mem_of_find?_eq_some found, of_decide_eq_true named, owner⟩

end SessionTable

namespace Daemon

/-- What can happen to the daemon. -/
inductive Happening where
  /-- A client gives a command. -/
  | command (client : ClientInfo) (command : Command)
  /-- A client has gone. -/
  | disconnect (client : ClientId)
  /-- The process controller reports something. -/
  | process (event : ProcessEvent)
  | tick
  /-- The reports that wait are worked off. -/
  | drain
  | shutdown
  | takeEvents
  | takeEffects

/-- Lets something happen. -/
def happen (host : Host) (h : Happening) (d : Daemon) : Daemon :=
  match h with
  | .command client command => (d.handle host client command).2
  | .disconnect client => d.disconnect client
  | .process event => d.onProcessEvent host event
  | .tick => d.tick host
  | .drain => d.drain host
  | .shutdown => (d.shutdown host).2
  | .takeEvents => d.takeEvents.2
  | .takeEffects => d.takeEffects.2

/-- The sessions that are announced by a command, if the client may give it. -/
def Happening.announces : Happening → List Session
  | .command client (.sessionStarting session pid) =>
    if client.role.canManageSessions then [⟨session, pid, client.clientId⟩] else []
  | _ => []

/-- A daemon that has just started, after a run. -/
def after (lifecycle : LifecyclePolicy) (authorization : AuthorizationPolicy)
    (run : List (Host × Happening)) : Daemon :=
  run.foldl (fun d (host, h) => d.happen host h) (.start lifecycle authorization)

lemma after_concat (lifecycle : LifecyclePolicy) (authorization : AuthorizationPolicy)
    (run : List (Host × Happening)) (host : Host) (h : Happening) :
    after lifecycle authorization (run ++ [(host, h)]) =
      (after lifecycle authorization run).happen host h :=
  List.foldl_append

variable {d d' d'' : Daemon} {host : Host} {opened gone gone' : List Session}

/-- The daemon with sessions in its table that have been announced. -/
def enrol (opened : List Session) (d : Daemon) : Daemon :=
  { d with sessions := opened.foldl (fun t x => t.register x.id x.compositor x.pid) d.sessions }

/-- The daemon once a report has reached the registry. -/
def heed (host : Host) (d : Daemon) (report : SessionReport) : Daemon :=
  (d.run host fun host reg => ((), report.apply host reg)).2

lemma drain_eq (host : Host) (d : Daemon) :
    d.drain host = d.reports.foldl (heed host) { d with reports := [] } := rfl

lemma foldl_heed_reports (host : Host) (reports : List SessionReport) (d : Daemon) :
    (reports.foldl (heed host) d).reports = d.reports := by
  induction reports generalizing d with
  | nil => rfl
  | cons report reports ih => exact ih (d.heed host report)

lemma drain_reports (host : Host) (d : Daemon) : (d.drain host).reports = [] := by
  rw [drain_eq, foldl_heed_reports]

/-- No report waits for a registry that is not served any more. -/
def Quiet (d : Daemon) : Prop := d.serving = false → d.reports = []

/-- What has become of the sessions of the records and of some that were opened: the records have
them now, or the hold on them has been given up, and then the table has no session with the id. The
effects by which holds are given up have been taken from the registry. -/
structure Trades (d : Daemon) (opened : List Session) (d' : Daemon) (gone : List Session) :
    Prop where
  taken : d'.registry.journal = []
  quiet : d.Quiet → d'.Quiet
  kept : (d.registry.sessions ++ opened).Perm (d'.registry.sessions ++ gone)
  table : d'.sessions.holds = d.sessions.holds.filter fun x => x.id ∉ gone.map Session.id

namespace Trades

/-- Where neither the records nor the sessions of the table have changed. -/
lemma of_same (taken : d.registry.journal = []) (registry : d'.registry = d.registry)
    (table : d'.sessions.holds = d.sessions.holds) (quiet : d.Quiet → d'.Quiet) :
    Trades d [] d' [] := by
  refine ⟨by rw [registry, taken], quiet, by rw [registry], ?_⟩
  rw [table]
  simp

lemma refl (taken : d.registry.journal = []) : Trades d [] d [] := .of_same taken rfl rfl id

lemma trans (h : Trades d [] d' gone) (h' : Trades d' opened d'' gone') :
    Trades d opened d'' (gone' ++ gone) := by
  have kept := h.kept.append_right opened
  rw [List.append_nil] at kept
  refine ⟨h'.taken, h'.quiet ∘ h.quiet, ?_, ?_⟩
  · refine kept.trans ((Registry.append_perm_swap _ _ _).trans ?_)
    rw [← List.append_assoc]
    exact h'.kept.append_right gone
  · rw [h'.table, h.table, List.filter_filter]
    refine List.filter_congr fun x _ => ?_
    simp [not_or]

/-- An operation of the registry. -/
lemma run {α : Type} {f : Host → Registry → α × Registry} (host : Host)
    (taken : d.registry.journal = []) (trades : ∀ host, ∃ effects gone,
      Registry.Trades d.registry opened (f host d.registry).2 effects gone) :
    ∃ gone, Trades d opened (d.run host f).2 gone := by
  obtain ⟨effects, gone, trades⟩ := trades { host with sessionState := d.sessions.stateOf }
  have journal := trades.journal
  rw [taken, List.nil_append] at journal
  refine ⟨gone, rfl, id, trades.kept, ?_⟩
  have released := trades.released
  rw [← journal] at released
  rw [← released]
  exact d.sessions.holds_removeAll _

lemma heed (host : Host) (taken : d.registry.journal = []) (report : SessionReport) :
    ∃ gone, Trades d [] (d.heed host report) gone := by
  refine run host taken fun host => ?_
  cases report with
  | state session state => exact Registry.perform_trades host (.sessionState session state) _
  | closed session => exact Registry.perform_trades host (.sessionClosed session) _

lemma foldl_heed (host : Host) (h : Trades d [] d' gone) (reports : List SessionReport) :
    ∃ gone, Trades d [] (reports.foldl (Daemon.heed host) d') gone := by
  induction reports generalizing d' gone with
  | nil => exact ⟨gone, h⟩
  | cons report reports ih =>
    obtain ⟨_, next⟩ := heed host h.taken report
    exact ih (h.trans next)

/-- The working off of the reports that wait. -/
lemma drain (host : Host) (taken : d.registry.journal = []) :
    ∃ gone, Trades d [] (d.drain host) gone := by
  have unreported : Trades d [] { d with reports := [] } [] :=
    .of_same taken rfl rfl fun _ _ => rfl
  rw [drain_eq]
  exact foldl_heed host unreported d.reports

/-- An operation that needs an answer. -/
lemma serve {α : Type} {f : Host → Registry → α × Registry} (host : Host)
    (taken : d.registry.journal = []) (serving : d.serving = true)
    (trades : ∀ host reg, ∃ effects gone,
      Registry.Trades reg opened (f host reg).2 effects gone) :
    ∃ gone, Trades d opened (d.serve host f).2 gone := by
  obtain ⟨_, drained⟩ := drain host taken
  obtain ⟨_, ran⟩ := run (f := f) host drained.taken fun host => trades host _
  unfold Daemon.serve
  rw [if_pos serving]
  exact ⟨_, drained.trans ran⟩

lemma ask {α : Type} {f : Host → Registry → α × Registry} (taken : d.registry.journal = [])
    (answer : α → Answer) (trades : ∀ host reg, ∃ effects gone,
      Registry.Trades reg [] (f host reg).2 effects gone) :
    ∃ gone, Trades d [] (d.ask host f answer).2 gone := by
  have same : (d.ask host f answer).2 = (d.serve host f).2 := by
    unfold Daemon.ask
    split <;> rename_i served <;> rw [served]
  rw [same]
  cases serving : d.serving with
  | true => exact serve host taken serving trades
  | false =>
    unfold Daemon.serve
    rw [if_neg (by rw [serving]; decide)]
    exact ⟨[], .refl taken⟩

/-- What a command does to the registry. -/
lemma operate (taken : d.registry.journal = []) (op : Operation)
    (opens : op.opens = []) {α : Type} {f : Host → Registry → α × Registry}
    (performs : ∀ host reg, (f host reg).2 = (reg.perform host op).2) (answer : α → Answer) :
    ∃ gone, Trades d [] (d.ask host f answer).2 gone := by
  refine ask taken answer fun host reg => ?_
  rw [performs, ← opens]
  exact Registry.perform_trades host op reg

lemma look {α : Type} (taken : d.registry.journal = []) (f : Registry → α) (answer : α → Answer) :
    ∃ gone, Trades d [] (d.ask host (fun _ reg => (f reg, reg)) answer).2 gone :=
  ask taken answer fun _ reg => ⟨[], [], .refl reg⟩

/-- A session that is announced is in the table when the registry is asked to take it. -/
lemma announce (taken : d.registry.journal = []) (client : ClientInfo) (session : SessionId)
    (pid : Nat) :
    ∃ gone, Trades (d.enrol [⟨session, pid, client.clientId⟩]) [⟨session, pid, client.clientId⟩]
      (d.announce host client session pid).2 gone := by
  cases serving : d.serving with
  | true =>
    have served := serve (d := d.enrol [⟨session, pid, client.clientId⟩])
      (f := fun _ reg => reg.sessionStarting ⟨session, pid, client.clientId⟩) host taken serving
      fun host reg => Registry.perform_trades host (.sessionStarting _) reg
    unfold Daemon.serve at served
    rw [if_pos (show (d.enrol _).serving = true from serving)] at served
    unfold Daemon.announce Daemon.serve
    dsimp only
    rw [if_pos serving]
    exact served
  | false =>
    unfold Daemon.announce Daemon.serve
    dsimp only
    rw [if_neg (by rw [serving]; decide)]
    refine ⟨[⟨session, pid, client.clientId⟩], taken, id, .refl _, ?_⟩
    refine (SessionTable.holds_remove _ session).trans (List.filter_congr fun x _ => ?_)
    simp

lemma report (taken : d.registry.journal = []) (client : ClientInfo) (session : SessionId)
    (state : SessionState) (report : SessionReport) :
    ∃ gone, Trades d [] (d.report client session state report).2 gone := by
  refine ⟨[], ?_⟩
  have noted : (d.sessions.setState session state).holds = d.sessions.holds :=
    SessionTable.holds_setState _ _ _
  unfold Daemon.report
  split
  · exact .refl taken
  · split
    · dsimp only
      split
      · rename_i serving
        exact .of_same taken rfl noted fun _ closed =>
          absurd (closed.symm.trans serving) Bool.false_ne_true
      · exact .of_same taken rfl noted id
    · exact .refl taken

lemma carryOut (taken : d.registry.journal = []) (client : ClientInfo) {command : Command}
    (other : ∀ session pid, command ≠ .sessionStarting session pid) :
    ∃ gone, Trades d [] (d.carryOut host client command).2 gone := by
  have nothing : ∀ answer : Answer, ∃ gone, Trades d [] (answer, d).2 gone :=
    fun _ => ⟨[], .refl taken⟩
  cases command with
  | listApplications => exact look taken _ _
  | getApplication id => exact look taken _ _
  | startApplication id args => exact operate taken (.start id args) rfl (fun _ _ => by rfl) _
  | stopApplication id => exact operate taken (.stop id) rfl (fun _ _ => by rfl) _
  | focusApplication id => exact operate taken (.focus id) rfl (fun _ _ => by rfl) _
  | suspendApplication id => exact operate taken (.suspend id) rfl (fun _ _ => by rfl) _
  | resumeApplication id => exact operate taken (.resume id) rfl (fun _ _ => by rfl) _
  | setExemptFromLifecycle id exempt =>
    exact operate taken (.setExempt id exempt) rfl (fun _ _ => by rfl) _
  | setStage id stage => exact operate taken (.setStage id stage) rfl (fun _ _ => by rfl) _
  | updateScreenshot id => exact operate taken (.updateScreenshot id) rfl (fun _ _ => by rfl) _
  | subscribeEvents => exact nothing _
  | unsubscribeEvents => exact nothing _
  | getHealth => exact look taken _ _
  | authorizeSession pid => exact operate taken (.authorize pid) rfl (fun _ _ => by rfl) _
  | sessionStarting session pid => exact absurd rfl (other session pid)
  | sessionStateChanged session state => exact report taken client session state _
  | sessionCloseCompleted session => exact report taken client session .stopped _
  | ping => exact nothing _

lemma handle (taken : d.registry.journal = []) (client : ClientInfo) (command : Command) :
    ∃ gone, Trades (d.enrol (Happening.command client command).announces)
      (Happening.command client command).announces (d.handle host client command).2 gone := by
  by_cases starts : ∃ session pid, command = .sessionStarting session pid
  · obtain ⟨session, pid, rfl⟩ := starts
    have allowed : (client.role.refusal? (.sessionStarting session pid)).isNone =
        client.role.canManageSessions := by
      unfold ClientRole.refusal?
      cases client.role.canManageSessions <;> rfl
    have announces : (Happening.command client (.sessionStarting session pid)).announces =
        if client.role.canManageSessions then [⟨session, pid, client.clientId⟩] else [] := rfl
    rw [announces, ← allowed]
    unfold Daemon.handle
    cases client.role.refusal? (.sessionStarting session pid) with
    | some _ => exact ⟨[], .refl taken⟩
    | none => exact announce taken client session pid
  · have other : ∀ session pid, command ≠ .sessionStarting session pid :=
      fun session pid same => starts ⟨session, pid, same⟩
    have silent : (Happening.command client command).announces = [] := by
      cases command with
      | sessionStarting session pid => exact absurd rfl (other session pid)
      | _ => rfl
    rw [silent]
    unfold Daemon.handle
    split
    · exact ⟨[], .refl taken⟩
    · exact carryOut taken client other

end Trades

/-- Whatever happens to the daemon, it trades the sessions of its records, and those that are
announced, for the sessions that the records have afterwards and those whose hold is given up. -/
theorem happen_trades (host : Host) (h : Happening) (taken : d.registry.journal = []) :
    ∃ gone, Trades (d.enrol h.announces) h.announces (d.happen host h) gone := by
  cases h with
  | command client command => exact Trades.handle taken client command
  | disconnect client =>
    refine ⟨[], .of_same taken rfl (d.sessions.holds_orphan client) fun quiet closed => ?_⟩
    exact (if_neg (by rw [show d.serving = false from closed]; decide)).trans (quiet closed)
  | process event =>
    show ∃ gone, Trades d [] (d.onProcessEvent host event) gone
    unfold onProcessEvent
    split
    · exact Trades.run host taken fun host => Registry.perform_trades host (.process event) _
    · exact ⟨[], .refl taken⟩
  | tick =>
    show ∃ gone, Trades d [] (d.tick host) gone
    unfold Daemon.tick
    split
    · exact Trades.run host taken fun host => Registry.perform_trades host (.tick host.now) _
    · exact ⟨[], .refl taken⟩
  | drain => exact Trades.drain host taken
  | shutdown =>
    show ∃ gone, Trades d [] (d.shutdown host).2 gone
    unfold shutdown
    split
    · obtain ⟨gone, drained⟩ := Trades.drain host taken
      exact ⟨gone, drained.taken, fun _ _ => drain_reports host d, drained.kept, drained.table⟩
    · exact ⟨[], .refl taken⟩
  | takeEvents =>
    refine ⟨[], taken, id, .refl _, ?_⟩
    exact (List.filter_eq_self.mpr fun _ _ => rfl).symm
  | takeEffects => exact ⟨[], .of_same taken rfl rfl id⟩

end Daemon

end AppLifecycle
