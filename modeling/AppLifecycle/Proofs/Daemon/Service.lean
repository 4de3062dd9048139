import AppLifecycle.Proofs.Daemon.Entries
import AppLifecycle.Proofs.Registry.Orderly

/-!
# What commands come to

A command that the registry has to answer is an operation of the registry, or a look at it, once the
reports that wait have been worked off (`handle_served`). Any other command leaves the registry, and
the holds of the table, as they are. So whatever operations keep, the daemon keeps
(`Kept.happen`).
-/

namespace AppLifecycle

namespace Command

/-- The operation of the registry that a client asks for with a command. -/
def operation? (client : ClientId) : Command → Option Operation
  | .startApplication id args => some (.start id args)
  | .stopApplication id => some (.stop id)
  | .focusApplication id => some (.focus id)
  | .suspendApplication id => some (.suspend id)
  | .resumeApplication id => some (.resume id)
  | .setExemptFromLifecycle id exempt => some (.setExempt id exempt)
  | .setStage id stage => some (.setStage id stage)
  | .updateScreenshot id => some (.updateScreenshot id)
  | .authorizeSession pid => some (.authorize pid)
  | .sessionStarting session pid => some (.sessionStarting ⟨session, pid, client⟩)
  | _ => none

/-- The registry has to answer the command. -/
def isServed : Command → Bool
  | .subscribeEvents => false
  | .unsubscribeEvents => false
  | .sessionStateChanged _ _ => false
  | .sessionCloseCompleted _ => false
  | .ping => false
  | _ => true

end Command

namespace Daemon

variable {d : Daemon} {host : Host} {client : ClientInfo} {command : Command} {op : Operation}
variable {id : SessionId}

/-- An operation of the registry, and what the table makes of its effects. -/
def perform (host : Host) (op : Operation) (d : Daemon) : Daemon :=
  (d.run host fun host reg => ((), (reg.perform host op).2)).2

/-! ## Commands that the registry answers -/

lemma run_snd {α β : Type} {f : Host → Registry → α × Registry} {g : Host → Registry → β × Registry}
    (same : ∀ host, (f host d.registry).2 = (g host d.registry).2) :
    (d.run host f).2 = (d.run host g).2 := by
  unfold run
  dsimp only
  rw [same]

/-- A look at a registry whose effects have been taken changes nothing. -/
lemma run_look {α : Type} {f : Host → Registry → α × Registry} (taken : d.registry.journal = [])
    (looks : ∀ host reg, (f host reg).2 = reg) : (d.run host f).2 = d := by
  have journal : d.registry.takeJournal = ([], d.registry) := by
    unfold Registry.takeJournal
    rw [taken, ← taken]
  unfold run
  dsimp only
  rw [looks, journal]
  show ({ d with sessions := d.sessions, effects := d.effects ++ [] } : Daemon) = d
  rw [List.append_nil]

lemma ask_open {α : Type} {f : Host → Registry → α × Registry} {answer : α → Answer}
    (serving : d.serving = true) : (d.ask host f answer).2 = ((d.drain host).run host f).2 := by
  rw [ask_snd]
  unfold serve
  rw [if_pos serving]

lemma ask_closed {α : Type} {f : Host → Registry → α × Registry} {answer : α → Answer}
    (closed : d.serving = false) : (d.ask host f answer).2 = d := by
  rw [ask_snd]
  unfold serve
  rw [if_neg (by rw [closed]; decide)]

lemma ask_performs {α : Type} {f : Host → Registry → α × Registry} {answer : α → Answer}
    (serving : d.serving = true) (performs : ∀ host reg, (f host reg).2 = (reg.perform host op).2) :
    (d.ask host f answer).2 = (d.drain host).perform host op := by
  rw [ask_open serving]
  exact run_snd fun host => performs host _

lemma ask_look {α : Type} {f : Host → Registry → α × Registry} {answer : α → Answer}
    (taken : d.registry.journal = []) (serving : d.serving = true)
    (looks : ∀ host reg, (f host reg).2 = reg) : (d.ask host f answer).2 = d.drain host := by
  obtain ⟨_, drained⟩ := Trades.drain host taken
  rw [ask_open serving]
  exact run_look drained.taken looks

lemma announce_open (session : SessionId) (pid : Nat) (serving : d.serving = true) :
    (d.announce host client session pid).2 =
      ((d.enrol [⟨session, pid, client.clientId⟩]).drain host).perform host
        (.sessionStarting ⟨session, pid, client.clientId⟩) := by
  unfold announce serve
  dsimp only
  rw [if_pos serving]
  exact run_snd (d := (d.enrol [⟨session, pid, client.clientId⟩]).drain host)
    (f := fun _ reg => reg.sessionStarting ⟨session, pid, client.clientId⟩) fun _ => rfl

lemma announces_of_allowed {session : SessionId} {pid : Nat}
    (allowed : client.role.refusal? (.sessionStarting session pid) = none) :
    (Happening.command client (.sessionStarting session pid)).announces =
      [⟨session, pid, client.clientId⟩] := by
  have manages : client.role.canManageSessions = true := by
    by_contra refused
    unfold ClientRole.refusal? at allowed
    rw [if_neg (by simp [Command.isControlCommand]), if_pos ⟨rfl, refused⟩] at allowed
    cases allowed
  unfold Happening.announces
  dsimp only
  rw [if_pos manages]

/-- The registry is asked for an operation, or looked at, when no report waits any more. -/
theorem handle_served (host : Host) (taken : d.registry.journal = [])
    (allowed : client.role.refusal? command = none) (serving : d.serving = true)
    (served : command.isServed = true) :
    (d.handle host client command).2 =
      match command.operation? client.clientId with
      | some op =>
        ((d.enrol (Happening.command client command).announces).drain host).perform host op
      | none => d.drain host := by
  unfold handle
  rw [allowed]
  dsimp only
  cases command with
  | listApplications => exact ask_look taken serving fun _ _ => rfl
  | getApplication id => exact ask_look taken serving fun _ _ => rfl
  | getHealth => exact ask_look taken serving fun _ _ => rfl
  | sessionStarting session pid =>
    rw [announces_of_allowed allowed]
    exact announce_open session pid serving
  | subscribeEvents => cases served
  | unsubscribeEvents => cases served
  | sessionStateChanged session state => cases served
  | sessionCloseCompleted session => cases served
  | ping => cases served
  | _ => exact ask_performs serving fun _ _ => rfl

/-! ## Other commands -/

/-- When the registry is served no longer, a command leaves it as it is, with the reports that wait
and the entries that are not announced. -/
lemma handle_closed (host : Host) (client : ClientInfo) (closed : d.serving = false)
    (served : command.isServed = true) :
    (d.handle host client command).2.registry = d.registry ∧
      (d.handle host client command).2.reports = d.reports ∧
      ∀ id, (∀ x ∈ (Happening.command client command).announces, x.id ≠ id) →
        (d.handle host client command).2.sessions.get? id = d.sessions.get? id := by
  have same : ∀ {d' : Daemon}, d' = d → d'.registry = d.registry ∧ d'.reports = d.reports ∧
      ∀ id, (∀ x ∈ (Happening.command client command).announces, x.id ≠ id) →
        d'.sessions.get? id = d.sessions.get? id := by
    rintro _ rfl
    exact ⟨rfl, rfl, fun _ _ => rfl⟩
  unfold handle
  cases allowed : client.role.refusal? command with
  | some _ => exact same rfl
  | none =>
    dsimp only
    cases command with
    | sessionStarting session pid =>
      show (d.announce host client session pid).2.registry = _ ∧
        (d.announce host client session pid).2.reports = _ ∧
        ∀ id, _ → (d.announce host client session pid).2.sessions.get? id = _
      unfold announce serve
      dsimp only
      rw [if_neg (by rw [closed]; decide)]
      refine ⟨rfl, rfl, fun id apart => ?_⟩
      rw [announces_of_allowed allowed] at apart
      have other : id ≠ session := (apart _ (List.mem_singleton_self _)).symm
      show ((d.sessions.register session client.clientId pid).remove session).get? id = _
      rw [SessionTable.get?_remove, if_neg other, SessionTable.get?_register, if_neg other]
    | subscribeEvents => cases served
    | unsubscribeEvents => cases served
    | sessionStateChanged session state => cases served
    | sessionCloseCompleted session => cases served
    | ping => cases served
    | _ => exact same (ask_closed closed)

/-- A command that the registry does not answer leaves the registry as it is, and the table but for
the states. -/
lemma handle_unserved (host : Host) (client : ClientInfo) (d : Daemon)
    (unserved : command.isServed = false) :
    (d.handle host client command).2.registry = d.registry ∧
      (d.handle host client command).2.sessions.holds = d.sessions.holds := by
  have report : ∀ session state report,
      (d.report client session state report).2.registry = d.registry ∧
      (d.report client session state report).2.sessions.holds = d.sessions.holds := by
    intro session state report
    unfold Daemon.report
    split
    · exact ⟨rfl, rfl⟩
    · split
      · dsimp only
        split <;> exact ⟨rfl, SessionTable.holds_setState _ _ _⟩
      · exact ⟨rfl, rfl⟩
  unfold handle
  split
  · exact ⟨rfl, rfl⟩
  · cases command with
    | subscribeEvents => exact ⟨rfl, rfl⟩
    | unsubscribeEvents => exact ⟨rfl, rfl⟩
    | sessionStateChanged session state => exact report _ _ _
    | sessionCloseCompleted session => exact report _ _ _
    | ping => exact ⟨rfl, rfl⟩
    | _ => cases unserved

/-! ## Why a command fails -/

/-- The error is one of the registry or one of the daemon. -/
def Explains (e : ErrorInfo) : Prop :=
  (∃ fault : LifecycleError, e = fault.info) ∨ ∃ refusal : Refusal, e = refusal.info

lemma Explains.code {e : ErrorInfo} (h : Explains e) : e.code ≠ .invalidRequest := by
  obtain ⟨fault, rfl⟩ | ⟨refusal, rfl⟩ := h
  · cases fault <;> exact ErrorCode.noConfusion
  · cases refusal <;> exact ErrorCode.noConfusion

lemma explains_outcome {α : Type} {payload : α → ResponsePayload} {result : Except LifecycleError α}
    {e : ErrorInfo} (failed : outcome payload result = .error e) : Explains e := by
  cases result with
  | ok a => cases failed
  | error fault =>
    cases failed
    exact .inl ⟨fault, rfl⟩

lemma explains_ask {α : Type} {f : Host → Registry → α × Registry} {answer : α → Answer}
    {e : ErrorInfo} (answers : ∀ a, answer a = .error e → Explains e)
    (failed : (d.ask host f answer).1 = .error e) : Explains e := by
  unfold ask at failed
  split at failed
  · rename_i fault _ _
    cases failed
    exact .inl ⟨fault, rfl⟩
  · exact answers _ failed

/-- A command fails for a reason of the registry, or because the daemon refuses it. -/
theorem handle_explains {e : ErrorInfo} (failed : (d.handle host client command).1 = .error e) :
    Explains e := by
  have refused : ∀ refusal : Refusal, Except.error (α := ResponsePayload) refusal.info = .error e →
      Explains e := by
    intro refusal same
    cases same
    exact .inr ⟨refusal, rfl⟩
  have report : ∀ session state report,
      (d.report client session state report).1 = .error e → Explains e := by
    intro session state report failed
    unfold Daemon.report at failed
    split at failed
    · cases failed
    · split at failed
      · dsimp only at failed
        split at failed
        · cases failed
        · cases failed
          exact .inl ⟨.loopClosed, rfl⟩
      · exact refused _ failed
  unfold handle at failed
  split at failed
  · exact refused _ failed
  · cases command with
    | listApplications => exact explains_ask (fun _ no => by cases no) failed
    | getApplication id =>
      refine explains_ask (fun found failed => ?_) failed
      cases found with
      | none => exact refused _ failed
      | some record => cases failed
    | suspendApplication id => exact explains_ask (fun _ no => by cases no) failed
    | resumeApplication id => exact explains_ask (fun _ no => by cases no) failed
    | subscribeEvents => cases failed
    | unsubscribeEvents => cases failed
    | getHealth => exact explains_ask (fun _ no => by cases no) failed
    | authorizeSession pid => exact explains_ask (fun _ no => by cases no) failed
    | sessionStarting session pid =>
      have failed : (d.announce host client session pid).1 = .error e := failed
      unfold announce at failed
      dsimp only at failed
      split at failed
      · rename_i fault _ _
        cases failed
        exact .inl ⟨fault, rfl⟩
      · exact explains_outcome failed
    | sessionStateChanged session state => exact report _ _ _ failed
    | sessionCloseCompleted session => exact report _ _ _ failed
    | ping => cases failed
    | _ => exact explains_ask (fun _ failed => explains_outcome failed) failed

/-! ## What operations keep -/

/-- What is kept by operations, and by the taking of events and effects. -/
structure Kept (P : Host → Prop) (I : Registry → Prop) : Prop where
  performs : ∀ host op reg, P host → I reg → I (reg.perform host op).2
  events : ∀ reg, I reg → I reg.takeEvents.2
  journal : ∀ reg, I reg → I reg.takeJournal.2

namespace Kept

variable {P : Host → Prop} {I : Registry → Prop} (kept : Kept P I)
include kept

variable (fits : ∀ sessionState, P { host with sessionState })
include fits

lemma perform (op : Operation) (h : I d.registry) : I (d.perform host op).registry :=
  kept.journal _ (kept.performs _ op _ (fits _) h)

lemma heed (report : SessionReport) (h : I d.registry) : I (d.heed host report).registry := by
  cases report with
  | state session state => exact kept.perform fits (.sessionState session state) h
  | closed session => exact kept.perform fits (.sessionClosed session) h

lemma drain (h : I d.registry) : I (d.drain host).registry := by
  have all : ∀ (reports : List SessionReport) (d : Daemon), I d.registry →
      I (reports.foldl (Daemon.heed host) d).registry := by
    intro reports
    induction reports with
    | nil => exact fun _ h => h
    | cons report reports ih => exact fun d h => ih _ (kept.heed fits report h)
  rw [drain_eq]
  exact all d.reports _ h

lemma handle (taken : d.registry.journal = []) (client : ClientInfo) (command : Command)
    (h : I d.registry) : I (d.handle host client command).2.registry := by
  cases served : command.isServed with
  | false =>
    rw [(handle_unserved host client d served).1]
    exact h
  | true =>
    cases serving : d.serving with
    | false =>
      rw [(handle_closed host client serving served).1]
      exact h
    | true =>
      cases allowed : client.role.refusal? command with
      | some refusal =>
        unfold Daemon.handle
        rw [allowed]
        exact h
      | none =>
        rw [handle_served host taken allowed serving served]
        cases command.operation? client.clientId with
        | none => exact kept.drain fits h
        | some op => exact kept.perform fits op (kept.drain fits (d := d.enrol _) h)

/-- What operations keep, the daemon keeps. -/
theorem happen (taken : d.registry.journal = []) (h : Happening) (hd : I d.registry) :
    I (d.happen host h).registry := by
  cases h with
  | command client command => exact kept.handle fits taken client command hd
  | disconnect client => exact hd
  | process event =>
    show I (d.onProcessEvent host event).registry
    unfold onProcessEvent
    split
    · exact kept.perform fits (.process event) hd
    · exact hd
  | tick =>
    show I (d.tick host).registry
    unfold Daemon.tick
    split
    · exact kept.perform fits (.tick host.now) hd
    · exact hd
  | drain => exact kept.drain fits hd
  | shutdown =>
    show I (d.shutdown host).2.registry
    unfold shutdown
    split
    · exact kept.drain fits hd
    · exact hd
  | takeEvents => exact kept.events _ hd
  | takeEffects => exact hd

end Kept

lemma reachable_kept (P : Host → Prop) : Kept P (Registry.Reachable P) where
  performs _ op _ fits h := h.perform op fits
  events _ h := h.takeEvents
  journal _ h := h.takeJournal

end Daemon

end AppLifecycle
