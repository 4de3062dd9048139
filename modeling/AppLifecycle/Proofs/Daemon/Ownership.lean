import AppLifecycle.Proofs.Daemon.Service
import AppLifecycle.Proofs.Daemon.Sessions
import AppLifecycle.Proofs.Registry.Dismissal

/-!
# The entries of others

A session belongs to the compositor that announced it: a command of another client does not change
its entry, unless it announces a session with the same id. It may cost the session its place in the
table, where the record that has the session is rid of it (`Deprives`). That happens when a report
is worked off that the compositor of the session made, or when the session is dismissed.
-/

namespace AppLifecycle

namespace Daemon

variable {d d' : Daemon} {host : Host} {h : Happening} {client : ClientInfo} {command : Command}
variable {opened gone : List Session} {op : Operation} {id : SessionId} {e : SessionEntry}
variable {report : SessionReport}
variable {lifecycle : LifecyclePolicy} {authorization : AuthorizationPolicy}

/-- The daemon when a command reaches the registry: what the command announces is in the table, and
no report waits any more. -/
def ready (host : Host) (client : ClientInfo) (command : Command) (d : Daemon) : Daemon :=
  (d.enrol (Happening.command client command).announces).drain host

/-- A command that the registry answers costs a session its place in the table: it has lost it when
the reports have been worked off, or the registry is then asked to dismiss it. -/
def Deprives (host : Host) (client : ClientInfo) (command : Command) (id : SessionId)
    (d : Daemon) : Prop :=
  d.serving = true ∧ client.role.refusal? command = none ∧ command.isServed = true ∧
    ((d.ready host client command).sessions.get? id = none ∨
      ∃ op, command.operation? client.clientId = some op ∧
        (d.ready host client command).registry.Dismisses host id op)

/-- The happening is a report that a compositor makes of a session, or the end of all that the
compositor has to say. -/
def Happening.Tells (h : Happening) (compositor : ClientId) (report : SessionReport) : Prop :=
  (∃ client command, h = .command client command ∧ client.clientId = compositor ∧
    command.report? = some report) ∨
  h = .disconnect compositor ∧ report.reached = .stopped

/-! ## A command that is served -/

lemma operation?_isAsked (asks : command.operation? client.clientId = some op) :
    op.isAsked = true := by
  cases command <;> cases asks <;> rfl

lemma operation?_opens (asks : command.operation? client.clientId = some op)
    (allowed : client.role.refusal? command = none) :
    op.opens = (Happening.command client command).announces := by
  cases command with
  | sessionStarting session pid =>
    cases asks
    exact (announces_of_allowed allowed).symm
  | _ => cases asks <;> rfl

/-- A session stays in the table as long as no record is rid of it. -/
lemma Trades.get?_isSome_iff (trades : Trades d opened d' gone) (others : ∀ x ∈ opened, x.id ≠ id)
    (held : (d.sessions.get? id).isSome) :
    (d'.sessions.get? id).isSome ↔ d'.registry.holders id = d.registry.holders id := by
  rw [← Registry.holders_iff_of_perm trades.kept others]
  rw [SessionTable.get?_isSome_iff] at held ⊢
  rw [trades.table]
  constructor
  · intro stays
    obtain ⟨x, hx, rfl⟩ := List.mem_map.mp stays
    exact of_decide_eq_true (List.mem_filter.mp hx).2
  · intro stays
    obtain ⟨x, hx, rfl⟩ := List.mem_map.mp held
    exact List.mem_map_of_mem (List.mem_filter.mpr ⟨hx, decide_eq_true stays⟩)

/-- An operation leaves a session in the table exactly if it does not dismiss it. -/
lemma perform_get?_isSome_iff (host : Host) (taken : d.registry.journal = [])
    (asked : op.isAsked = true) (tracked : ∀ r ∈ d.registry.entries, r.state ≠ .stopped)
    (others : ∀ x ∈ op.opens, x.id ≠ id) (held : (d.sessions.get? id).isSome) :
    ((d.perform host op).sessions.get? id).isSome ↔ ¬d.registry.Dismisses host id op := by
  obtain ⟨gone, trades⟩ : ∃ gone, Trades d op.opens (d.perform host op) gone :=
    Trades.run host taken fun host => Registry.perform_trades host op _
  have dismisses : ∀ sessionState, d.registry.Dismisses { host with sessionState } id op ↔
      d.registry.Dismisses host id op := by
    intro sessionState
    cases op <;> exact Iff.rfl
  rw [trades.get?_isSome_iff others held, ← dismisses d.sessions.stateOf]
  exact Registry.perform_holders_iff _ op asked tracked others

/-- What is announced for others leaves an entry as it is. -/
lemma enrol_get? (apart : ∀ x ∈ h.announces, x.id ≠ id) :
    (d.enrol h.announces).sessions.get? id = d.sessions.get? id := by
  obtain none | ⟨x, one⟩ := h.announces_cases
  · rw [none]
    rfl
  · rw [one] at apart ⊢
    show (d.sessions.register x.id x.compositor x.pid).get? id = _
    rw [SessionTable.get?_register,
      if_neg fun same => apart x (List.mem_singleton_self x) same.symm]

lemma announces_of_look (looks : command.operation? client.clientId = none) :
    (Happening.command client command).announces = [] := by
  cases command with
  | sessionStarting session pid => cases looks
  | _ => rfl

/-- A command costs a session that it does not announce its place in the table exactly if it
deprives the session of it. -/
theorem handle_get?_isSome_iff (host : Host) (sound : d.Sound)
    (reachable : Registry.Reachable (fun _ => True) d.registry)
    (apart : ∀ x ∈ (Happening.command client command).announces, x.id ≠ id)
    (held : (d.sessions.get? id).isSome) :
    ((d.handle host client command).2.sessions.get? id).isSome ↔
      ¬d.Deprives host client command id := by
  cases allowed : client.role.refusal? command with
  | some refusal =>
    have same : (d.handle host client command).2 = d := by
      unfold handle
      rw [allowed]
    rw [same]
    exact iff_of_true held fun ⟨_, may, _⟩ => Option.some_ne_none _ (allowed.symm.trans may)
  | none =>
  cases served : command.isServed with
  | false =>
    refine iff_of_true ?_ fun ⟨_, _, is, _⟩ => Bool.false_ne_true (served.symm.trans is)
    rw [SessionTable.get?_isSome_iff] at held ⊢
    rw [(handle_unserved host client d served).2]
    exact held
  | true =>
  cases serving : d.serving with
  | false =>
    refine iff_of_true ?_ fun ⟨is, _⟩ => Bool.false_ne_true (serving.symm.trans is)
    rw [(handle_closed host client serving served).2.2 id apart]
    exact held
  | true =>
  rw [handle_served host sound.taken allowed serving served]
  obtain ⟨_, drained⟩ := Trades.drain (d := d.enrol (Happening.command client command).announces)
    host sound.taken
  have tracked : ∀ r ∈ (d.ready host client command).registry.entries, r.state ≠ .stopped :=
    ((reachable_kept _).drain (fun _ => trivial) (d := d.enrol _) reachable).running
  -- the session may be lost before the registry is asked for anything
  cases ready : (d.ready host client command).sessions.get? id with
  | none =>
    refine iff_of_false ?_ (not_not_intro ⟨serving, allowed, served, .inl ready⟩)
    rw [Option.not_isSome_iff_eq_none]
    cases asks : command.operation? client.clientId with
    | none =>
      unfold Daemon.ready at ready
      rw [announces_of_look asks] at ready
      exact ready
    | some op =>
      rw [Option.eq_none_iff_forall_ne_some]
      intro e now
      exact Option.some_ne_none _ ((entry_of_run now).symm.trans ready)
  | some e =>
    have deprives : d.Deprives host client command id ↔
        ∃ op, command.operation? client.clientId = some op ∧
          (d.ready host client command).registry.Dismisses host id op := by
      unfold Deprives
      rw [ready]
      simp [serving, allowed, served]
    rw [deprives]
    cases asks : command.operation? client.clientId with
    | none =>
      unfold Daemon.ready at ready
      rw [announces_of_look asks] at ready
      refine iff_of_true ?_ (by simp)
      show ((d.drain host).sessions.get? id).isSome
      rw [show (d.drain host).sessions.get? id = some e from ready]
      rfl
    | some op =>
      rw [← operation?_opens asks allowed] at apart
      have kept := perform_get?_isSome_iff (d := d.ready host client command) host drained.taken
        (operation?_isAsked asks) tracked apart (by rw [ready]; rfl)
      simp only [Option.some.injEq, exists_eq_left']
      exact kept

/-! ## Who reports -/

lemma served_reports (host : Host) (client : ClientInfo) (taken : d.registry.journal = [])
    (served : command.isServed = true) :
    ∀ report ∈ (d.handle host client command).2.reports, report ∈ d.reports := by
  cases serving : d.serving with
  | false =>
    rw [(handle_closed host client serving served).2.1]
    exact fun _ hr => hr
  | true =>
    cases allowed : client.role.refusal? command with
    | some refusal =>
      unfold handle
      rw [allowed]
      exact fun _ hr => hr
    | none =>
      have none : (d.handle host client command).2.reports = [] := by
        rw [handle_served host taken allowed serving served]
        cases command.operation? client.clientId with
        | none => exact drain_reports host d
        | some op => exact drain_reports host _
      rw [none]
      exact fun _ no => absurd no List.not_mem_nil

lemma mem_report_reports {client : ClientInfo} {session : SessionId} {state : SessionState}
    {new : SessionReport} (hr : report ∈ (d.report client session state new).2.reports) :
    report ∈ d.reports ∨ report = new ∧ d.sessions.owner? session = some client.clientId := by
  unfold Daemon.report at hr
  split at hr
  · exact .inl hr
  · rename_i owner owned
    split at hr
    · rename_i own
      dsimp only at hr
      split at hr
      · obtain hr | hr := List.mem_append.mp hr
        · exact .inl hr
        · exact .inr ⟨List.mem_singleton.mp hr, owned.trans (congrArg some own)⟩
      · exact .inl hr
    · exact .inl hr

/-- A report is made by the compositor that its session belongs to, or for it when it goes. -/
lemma report_of_happen (sound : d.Sound)
    (hr : report ∈ (d.happen host h).reports) : report ∈ d.reports ∨
      ∃ e, d.sessions.get? report.session = some e ∧ h.Tells e.compositor report := by
  cases h with
  | command client command =>
    have hr : report ∈ (d.handle host client command).2.reports := hr
    cases served : command.isServed with
    | true => exact .inl (served_reports host client sound.taken served report hr)
    | false =>
      have made : ∀ new : SessionReport, command.report? = some new →
          report ∈ (d.report client new.session new.reached new).2.reports → report ∈ d.reports ∨
            ∃ e, d.sessions.get? report.session = some e ∧
              (Happening.command client command).Tells e.compositor report := by
        intro new reports hr
        obtain before | ⟨rfl, owned⟩ := mem_report_reports hr
        · exact .inl before
        · obtain ⟨e, found, owner⟩ := Option.map_eq_some_iff.mp owned
          exact .inr ⟨e, found, .inl ⟨client, command, rfl, owner.symm, reports⟩⟩
      unfold handle at hr
      split at hr
      · exact .inl hr
      · cases command with
        | subscribeEvents => exact .inl hr
        | unsubscribeEvents => exact .inl hr
        | ping => exact .inl hr
        | sessionStateChanged session state => exact made (.state session state) rfl hr
        | sessionCloseCompleted session => exact made (.closed session) rfl hr
        | _ => cases served
  | disconnect client =>
    have hr : report ∈ (d.disconnect client).reports := hr
    unfold disconnect at hr
    dsimp only at hr
    split at hr
    · obtain hr | hr := List.mem_append.mp hr
      · exact .inl hr
      · obtain ⟨session, hs, rfl⟩ := List.mem_map.mp hr
        obtain ⟨p, hp, rfl⟩ := List.mem_map.mp hs
        obtain ⟨hp, own⟩ := List.mem_filter.mp hp
        have owned := SessionTable.owner?_of_mem sound.keys (List.mem_map_of_mem hp)
        obtain ⟨e, found, owner⟩ := Option.map_eq_some_iff.mp owned
        have owner : e.compositor = client := owner.trans (of_decide_eq_true own)
        exact .inr ⟨e, found, .inr ⟨by rw [owner], rfl⟩⟩
    · exact .inl hr
  | process event =>
    have hr : report ∈ (d.onProcessEvent host event).reports := hr
    unfold onProcessEvent at hr
    split at hr <;> exact .inl hr
  | tick =>
    have hr : report ∈ (d.tick host).reports := hr
    unfold Daemon.tick at hr
    split at hr <;> exact .inl hr
  | drain =>
    have none : (d.happen host .drain).reports = [] := drain_reports host d
    rw [none] at hr
    cases hr
  | shutdown =>
    have hr : report ∈ (d.shutdown host).2.reports := hr
    unfold shutdown at hr
    split at hr
    · have hr : report ∈ (d.drain host).reports := hr
      rw [drain_reports] at hr
      cases hr
    · exact .inl hr
  | takeEvents => exact .inl hr
  | takeEffects => exact .inl hr

/-- A report that waits was made by the compositor that the entry of its session belongs to, or for
it when it went. -/
theorem report_of_owner {run : List (Host × Happening)}
    (waits : report ∈ (after lifecycle authorization run).reports)
    (held : (after lifecycle authorization run).sessions.get? report.session = some e) :
    ∃ before host h later, run = before ++ (host, h) :: later ∧ h.Tells e.compositor report := by
  induction run using List.reverseRecOn generalizing e with
  | nil => cases waits
  | append_singleton run x ih =>
    obtain ⟨host, h⟩ := x
    have sound := after_sound lifecycle authorization run
    rw [after_concat] at waits held
    -- the entry was there before, for the same compositor: no report waits after an announcement
    have before : ∃ e', (after lifecycle authorization run).sessions.get? report.session = some e' ∧
        e'.compositor = e.compositor := by
      cases entry_of_happen held with
      | kept same => exact ⟨e, same, rfl⟩
      | announced announced =>
        rw [reports_of_announces host sound.quiet announced] at waits
        cases waits
      | reported before _ _ _ => exact ⟨_, before, rfl⟩
      | orphaned before => exact ⟨_, before, rfl⟩
    obtain ⟨e', before, owner⟩ := before
    rw [← owner]
    obtain waited | ⟨owned, found, tells⟩ := report_of_happen sound waits
    · obtain ⟨first, host', h', later, rfl, tells⟩ := ih waited before
      exact ⟨first, host', h', later ++ [(host, h)], by simp, tells⟩
    · obtain rfl : owned = e' := Option.some.inj (found.symm.trans before)
      exact ⟨run, host, h, [], rfl, tells⟩

/-- Where the descriptors are faithful, the reports that wait cost no session its place that none of
them is of. -/
lemma drain_get?_isSome (host : Host) (faithful : host.Faithful) (taken : d.registry.journal = [])
    (reachable : Registry.Reachable Host.Faithful d.registry)
    (silent : ∀ report ∈ d.reports, report.session ≠ id) (held : (d.sessions.get? id).isSome) :
    ((d.drain host).sessions.get? id).isSome := by
  obtain ⟨_, trades⟩ := Trades.drain host taken
  rw [trades.get?_isSome_iff (fun _ no => absurd no List.not_mem_nil) held]
  have kept : ∀ (reports : List SessionReport) (d : Daemon),
      Registry.Reachable Host.Faithful d.registry → (∀ report ∈ reports, report.session ≠ id) →
      (reports.foldl (heed host) d).registry.holders id = d.registry.holders id := by
    intro reports
    induction reports with
    | nil => exact fun _ _ _ => rfl
    | cons report reports ih =>
      intro d reachable silent
      obtain ⟨first, silent⟩ := List.forall_mem_cons.mp silent
      have heeded : (d.heed host report).registry.holders id = d.registry.holders id := by
        cases report with
        | state session state =>
          exact Registry.sessionStateChanged_holders _ reachable.orderly state first
        | closed session =>
          exact Registry.sessionStateChanged_holders _ reachable.orderly .stopped first
      have reachable := (reachable_kept _).heed (fun _ => faithful) report reachable
      exact (ih _ reachable silent).trans heeded
  rw [drain_eq]
  exact kept d.reports _ reachable silent

/-! ## What it comes to -/

lemma registry_reachable (P : Host → Prop)
    (fits : ∀ host sessionState, P host → P { host with sessionState })
    {run : List (Host × Happening)} (hosts : ∀ x ∈ run, P x.1) :
    Registry.Reachable P (after lifecycle authorization run).registry := by
  induction run using List.reverseRecOn with
  | nil => exact .empty lifecycle authorization
  | append_singleton run x ih =>
    rw [List.forall_mem_append] at hosts
    rw [after_concat]
    exact (reachable_kept P).happen (fun sessionState => fits _ sessionState
      (hosts.2 x (List.mem_singleton_self x))) (after_sound lifecycle authorization run).taken x.2
      (ih hosts.1)

/-- A command of another client than the one that a session belongs to, which does not announce a
session with the same id, leaves the entry of the session as it is, or the entry is gone; and it is
gone exactly if the command deprives the session of it. The reports of the session that wait then
were made by its own compositor, or for it when it went; and with faithful descriptors no other
report that waits costs the session its entry. -/
theorem entry_kept_iff (lifecycle : LifecyclePolicy) (authorization : AuthorizationPolicy)
    (run : List (Host × Happening)) (host : Host) (client : ClientInfo) (command : Command)
    (id : SessionId) (e : SessionEntry)
    (held : (after lifecycle authorization run).sessions.get? id = some e)
    (other : e.compositor ≠ client.clientId)
    (apart : ∀ x ∈ (Happening.command client command).announces, x.id ≠ id) :
    (∀ e', ((after lifecycle authorization run).happen host
        (.command client command)).sessions.get? id = some e' → e' = e) ∧
    (((after lifecycle authorization run).happen host
        (.command client command)).sessions.get? id = none ↔
      (after lifecycle authorization run).Deprives host client command id) ∧
    (∀ report ∈ (after lifecycle authorization run).reports, report.session = id →
      ∃ before host h later, run = before ++ (host, h) :: later ∧ h.Tells e.compositor report) ∧
    ((∀ x ∈ run, x.1.Faithful) → host.Faithful →
      ((after lifecycle authorization run).ready host client command).sessions.get? id = none →
      ∃ report ∈ (after lifecycle authorization run).reports, report.session = id) := by
  have sound := after_sound lifecycle authorization run
  refine ⟨fun e' now => ?_, ?_, fun report waits named => ?_, fun faithful fits lost => ?_⟩
  · cases entry_of_happen now with
    | kept same => exact Option.some.inj (same.symm.trans held)
    | announced announced => exact absurd rfl (apart _ announced)
    | reported before owner _ _ =>
      obtain rfl := Option.some.inj (before.symm.trans held)
      exact absurd owner other
  · have reachable :
        Registry.Reachable (fun _ => True) (after lifecycle authorization run).registry :=
      registry_reachable _ (fun _ _ _ => trivial) fun _ _ => trivial
    have kept := handle_get?_isSome_iff host sound reachable apart (by rw [held]; rfl)
    rw [← Option.not_isSome_iff_eq_none]
    exact (not_congr kept).trans not_not
  · rw [← named] at held
    exact report_of_owner waits held
  · by_contra silent
    have silent : ∀ report ∈ (after lifecycle authorization run).reports, report.session ≠ id :=
      fun report waits named => silent ⟨report, waits, named⟩
    have reachable :
        Registry.Reachable Host.Faithful (after lifecycle authorization run).registry :=
      registry_reachable _ (fun _ _ fits => fits) faithful
    have stays := drain_get?_isSome (d := (after lifecycle authorization run).enrol
      (Happening.command client command).announces) host fits sound.taken reachable silent
      (by rw [enrol_get? apart, held]; rfl)
    rw [show (drain host _).sessions.get? id = none from lost] at stays
    cases stays

/-- Another session. -/
def otherWindow : SessionId := ⟨⟨List.replicate 32 ⟨2, by decide⟩, rfl⟩⟩

/-- Another compositor announces a session for the process of the clock, which runs: it is refused,
and the window of the clock stays as it is. -/
theorem window_kept_from_intruder :
    (after .standard .standard showing).sessions.get? Registry.windowOfClock.id =
      some ⟨compositorOfClock.clientId, 7, .running⟩ ∧
    compositorOfClock.clientId ≠ (otherClient .compositor).clientId ∧
    (∀ x ∈ (Happening.command (otherClient .compositor) (.sessionStarting otherWindow 7)).announces,
      x.id ≠ Registry.windowOfClock.id) ∧
    ((after .standard .standard showing).happen .willing (.command (otherClient .compositor)
      (.sessionStarting otherWindow 7))).sessions.get? Registry.windowOfClock.id =
        some ⟨compositorOfClock.clientId, 7, .running⟩ ∧
    ¬(after .standard .standard showing).Deprives .willing (otherClient .compositor)
      (.sessionStarting otherWindow 7) Registry.windowOfClock.id := by
  have held : (after .standard .standard showing).sessions.get? Registry.windowOfClock.id =
      some ⟨compositorOfClock.clientId, 7, .running⟩ := by decide
  have other : compositorOfClock.clientId ≠ (otherClient .compositor).clientId := by decide
  have apart : ∀ x ∈ (Happening.command (otherClient .compositor)
      (.sessionStarting otherWindow 7)).announces, x.id ≠ Registry.windowOfClock.id := by decide
  have stays : ((after .standard .standard showing).happen .willing (.command
      (otherClient .compositor) (.sessionStarting otherWindow 7))).sessions.get?
        Registry.windowOfClock.id = some ⟨compositorOfClock.clientId, 7, .running⟩ := by decide
  refine ⟨held, other, apart, stays, fun deprives => ?_⟩
  have gone := (entry_kept_iff .standard .standard showing .willing (otherClient .compositor)
    (.sessionStarting otherWindow 7) Registry.windowOfClock.id _ held other apart).2.1.mpr deprives
  exact Option.some_ne_none _ (stays.symm.trans gone)

/-- The clock has been started, and its compositor has announced its window. -/
def opening : List (Host × Happening) := showing.take 4

/-- As long as the clock does not run, the session that another compositor announces for its process
takes the place of the window, which is not in the table any more. -/
theorem window_replaced_by_other :
    (after .standard .standard opening).sessions.get? Registry.windowOfClock.id =
      some ⟨compositorOfClock.clientId, 7, .starting⟩ ∧
    compositorOfClock.clientId ≠ (otherClient .compositor).clientId ∧
    ((after .standard .standard opening).happen .willing (.command (otherClient .compositor)
      (.sessionStarting otherWindow 7))).sessions.get? Registry.windowOfClock.id = none ∧
    ((after .standard .standard opening).happen .willing (.command (otherClient .compositor)
      (.sessionStarting otherWindow 7))).registry.sessions =
        [⟨otherWindow, 7, (otherClient .compositor).clientId⟩] := by
  refine ⟨by decide, by decide, by decide, by decide⟩

end Daemon

end AppLifecycle
