import AppLifecycle.Proofs.Daemon.Service
import AppLifecycle.Proofs.Daemon.Sessions
import AppLifecycle.Proofs.RateLimiter
import AppLifecycle.Proofs.Server.Tasks

/-!
# Observers change nothing

Observers may look at the registry, and that is all. If their requests are left out, the daemon,
what it tells and asks for, and what all others are answered stay as they are
(`observers_leave_no_trace`). The registry works off the reports that wait at its own times: a look
at it comes after the reports before it, so where a look is left out, the reports before it have
been worked off all the same.
-/

namespace AppLifecycle

namespace Daemon

variable {d : Daemon} {host : Host} {client : ClientInfo}

/-- A command of an observer comes to nothing, or to a look at the registry. -/
lemma handle_observer (host : Host) (taken : d.registry.journal = [])
    (observes : client.role = .observer) (command : Command) :
    (d.handle host client command).2 = d ∨ (d.handle host client command).2 = d.drain host := by
  obtain ⟨id, role, uid, pid⟩ := client
  obtain rfl : role = .observer := observes
  have look {α : Type} (f : Host → Registry → α × Registry) (answer : α → Answer)
      (looks : ∀ host reg, (f host reg).2 = reg) :
      (d.ask host f answer).2 = d ∨ (d.ask host f answer).2 = d.drain host := by
    cases serving : d.serving with
    | false => exact .inl (ask_closed serving)
    | true => exact .inr (ask_look taken serving looks)
  cases command with
  | listApplications => exact look _ _ fun _ _ => rfl
  | getApplication id => exact look _ _ fun _ _ => rfl
  | getHealth => exact look _ _ fun _ _ => rfl
  | _ => exact .inl rfl

/-- The daemon when what it has to say has been taken over. -/
structure Tidy (d : Daemon) : Prop where
  journal : d.registry.journal = []
  events : d.registry.events = []
  effects : d.effects = []

lemma drain_of_reports (host : Host) (none : d.reports = []) : d.drain host = d := by
  rw [drain_eq, none]
  obtain ⟨registry, serving, sessions, reports, effects⟩ := d
  cases none
  rfl

end Daemon

namespace Server

/-- What the daemon takes in. -/
inductive Input where
  | connect (info : ClientInfo)
  | message (message : Message)
  /-- A client is taken off the list. -/
  | leave (client : ClientId)
  /-- The reports that wait are worked off. -/
  | drain
  | processEvent (event : ProcessEvent)
  | tick
  | shutdown
  | publish
  | forward

namespace Input

/-- One of some clients makes a request. -/
def asks (watching : ClientId → Bool) : Input → Bool
  | .message (.request client _) => watching client
  | _ => false

def arrives? : Input → Option ClientInfo
  | .connect info => some info
  | _ => none

end Input

def take (host : Host) (input : Input) (s : Server) : Server :=
  match input with
  | .connect info => s.connect info
  | .message message => s.handle host message
  | .leave client => s.endReading client
  | .drain => s.drain host
  | .processEvent event => s.onDaemon (Daemon.onProcessEvent host event)
  | .tick => s.onDaemon (Daemon.tick host)
  | .shutdown => (s.withDaemon (Daemon.shutdown host)).2
  | .publish => s.publishNext
  | .forward => s.forwardNext

def takeAll (inputs : List (Host × Input)) (s : Server) : Server :=
  inputs.foldl (fun s (host, input) => s.take host input) s

/-- A server that has just started, after some inputs. -/
def after (limiter : RateLimiter ClientId) (lifecycle : LifecyclePolicy)
    (authorization : AuthorizationPolicy) (inputs : List (Host × Input)) : Server :=
  (start limiter (.start lifecycle authorization)).takeAll inputs

/-- What is left of some inputs without the requests of some clients. The reports that have been
worked off by the time of such a request have been worked off without it. -/
def unasked (watching : ClientId → Bool) : Server → List (Host × Input) → List (Host × Input)
  | _, [] => []
  | s, (host, input) :: inputs =>
    let next := s.take host input
    let rest := unasked watching next inputs
    if input.asks watching then
      if next.daemon.reports = [] then (host, .drain) :: rest else rest
    else (host, input) :: rest

/-- The inputs when reports are worked off at once. -/
def heeded (inputs : List (Host × Input)) : List (Host × Input) :=
  inputs.flatMap fun (host, input) => [(host, input), (host, .drain)]

/-- Two servers are the same but for what they have to do with some clients: the daemons have the
same registry, sessions and reports, they have told and asked for the same, and all others are
connected in the same way, with the same in their outboxes. -/
structure Alike (watching : ClientId → Bool) (s t : Server) : Prop where
  connection : ∀ client, watching client = false → s.connection? client = t.connection? client
  limiter : s.limiter.Agrees watching t.limiter
  daemon : s.daemon = t.daemon
  news : s.news = t.news
  broadcasts : s.broadcasts = t.broadcasts
  orders : s.orders = t.orders
  effects : s.effects = t.effects

variable {s t : Server} {watching : ClientId → Bool} {host : Host} {client : ClientId}
variable {input : Input}

namespace Alike

lemma refl (watching : ClientId → Bool) (s : Server) : Alike watching s s :=
  ⟨fun _ _ => rfl, .refl watching _, rfl, rfl, rfl, rfl, rfl⟩

lemma symm (h : Alike watching s t) : Alike watching t s where
  connection client out := (h.connection client out).symm
  limiter := h.limiter.symm
  daemon := h.daemon.symm
  news := h.news.symm
  broadcasts := h.broadcasts.symm
  orders := h.orders.symm
  effects := h.effects.symm

lemma trans {u : Server} (h : Alike watching s t) (h' : Alike watching t u) :
    Alike watching s u where
  connection client out := (h.connection client out).trans (h'.connection client out)
  limiter := h.limiter.trans h'.limiter
  daemon := h.daemon.trans h'.daemon
  news := h.news.trans h'.news
  broadcasts := h.broadcasts.trans h'.broadcasts
  orders := h.orders.trans h'.orders
  effects := h.effects.trans h'.effects

lemma client? (h : Alike watching s t) (out : watching client = false) :
    s.client? client = t.client? client := by
  unfold Server.client?
  rw [h.connection client out]

/-- Whatever becomes of the connections of clients that are left out of account. -/
lemma reconnect (h : Alike watching s t) {ks kt : List Connection}
    (same : ∀ client, watching client = false →
      ({ s with connections := ks } : Server).connection? client =
        ({ t with connections := kt } : Server).connection? client) :
    Alike watching { s with connections := ks } { t with connections := kt } :=
  { h with connection := same }

/-- Both servers change the connections of a client. -/
lemma update (h : Alike watching s t) (client : ClientId) {f : Connection → Connection}
    (named : ∀ k, (f k).info = k.info) :
    Alike watching (s.update client f) (t.update client f) := by
  refine h.reconnect fun other out => ?_
  show (s.update client f).connection? other = (t.update client f).connection? other
  rw [Tasks.connection?_update s _ _ named, Tasks.connection?_update t _ _ named,
    h.connection other out]

/-- One server changes the connections of a client that is left out of account. -/
lemma update_watching (h : Alike watching s t) (watched : watching client = true)
    {f : Connection → Connection} (named : ∀ k, (f k).info = k.info) :
    Alike watching s (t.update client f) := by
  refine h.reconnect fun other out => ?_
  show s.connection? other = (t.update client f).connection? other
  rw [Tasks.connection?_update t _ _ named, if_neg, h.connection other out]
  rintro rfl
  rw [watched] at out
  cases out

lemma send (h : Alike watching s t) (client : ClientId) (line : Outgoing) :
    Alike watching (s.send client line) (t.send client line) :=
  h.update client fun k => by split <;> rfl

lemma send_watching (h : Alike watching s t) (watched : watching client = true) (line : Outgoing) :
    Alike watching s (t.send client line) :=
  h.update_watching watched fun k => by split <;> rfl

lemma collect (h : Alike watching s t) : Alike watching s.collect t.collect where
  __ := h
  daemon := by
    show s.daemon.takeEvents.2.takeEffects.2 = t.daemon.takeEvents.2.takeEffects.2
    rw [h.daemon]
  news := by
    show s.news ++ s.daemon.takeEvents.1 = t.news ++ t.daemon.takeEvents.1
    rw [h.news, h.daemon]
  orders := by
    show s.orders ++ s.daemon.effects.filterMap order? =
      t.orders ++ t.daemon.effects.filterMap order?
    rw [h.orders, h.daemon]
  effects := by
    show s.effects ++ s.daemon.effects = t.effects ++ t.daemon.effects
    rw [h.effects, h.daemon]

lemma withDaemon {α : Type} (h : Alike watching s t) (f : Daemon → α × Daemon) :
    (s.withDaemon f).1 = (t.withDaemon f).1 ∧
      Alike watching (s.withDaemon f).2 (t.withDaemon f).2 := by
  unfold Server.withDaemon
  dsimp only
  rw [h.daemon]
  exact ⟨rfl, collect { h with daemon := rfl }⟩

lemma onDaemon (h : Alike watching s t) (f : Daemon → Daemon) :
    Alike watching (s.onDaemon f) (t.onDaemon f) := (h.withDaemon fun d => ((), f d)).2

lemma connect (h : Alike watching s t) (info : ClientInfo) :
    Alike watching (s.connect info) (t.connect info) := by
  refine h.reconnect fun client out => ?_
  have same := h.connection client out
  unfold connection? at same ⊢
  dsimp only
  rw [List.find?_append, List.find?_append, same, h.broadcasts]

lemma limit (h : Alike watching s t) {l l' : RateLimiter ClientId} (agrees : l.Agrees watching l') :
    Alike watching { s with limiter := l } { t with limiter := l' } :=
  { h with limiter := agrees }

/-- Both servers handle a message that is no request of a client that is left out of account. -/
lemma handle (h : Alike watching s t) (host : Host) {message : Message}
    (out : (Input.message message).asks watching = false) :
    Alike watching (s.handle host message) (t.handle host message) := by
  unfold Server.handle
  cases message with
  | disconnected client =>
    exact (h.limit (h.limiter.remove client)).onDaemon (Daemon.disconnect client)
  | request client request =>
    have out : watching client = false := out
    obtain ⟨allowed, limiter⟩ := h.limiter.check out host.now
    have h := h.limit limiter
    dsimp only
    rw [allowed]
    split
    · rw [h.client? out]
      split
      · exact h
      · rename_i info _
        obtain ⟨answer, done⟩ := h.withDaemon fun d => d.respond host info request
        rw [answer]
        exact done.send client _
    · exact h.send client _

lemma publish (h : Alike watching s t) : Alike watching s.publishNext t.publishNext := by
  unfold publishNext
  rw [h.news]
  split
  · exact h
  · exact { h with news := rfl, broadcasts := congrArg (· ++ _) h.broadcasts }

lemma forward (h : Alike watching s t) : Alike watching s.forwardNext t.forwardNext := by
  unfold forwardNext
  rw [h.orders]
  split
  · exact h
  · rename_i session action orders _
    have told : Alike watching { s with orders } { t with orders } := { h with orders := rfl }
    exact told.send session.compositor _

/-- Both servers take an input that is no request of a client that is left out of account. -/
theorem take (h : Alike watching s t) (host : Host) (out : input.asks watching = false) :
    Alike watching (s.take host input) (t.take host input) := by
  cases input with
  | connect info => exact h.connect info
  | message message => exact h.handle host out
  | leave client => exact h.update client fun _ => rfl
  | drain => exact h.onDaemon (Daemon.drain host)
  | processEvent event => exact h.onDaemon (Daemon.onProcessEvent host event)
  | tick => exact h.onDaemon (Daemon.tick host)
  | shutdown => exact (h.withDaemon (Daemon.shutdown host)).2
  | publish => exact h.publish
  | forward => exact h.forward

end Alike

/-! ## The requests of observers -/

lemma collect_of_tidy (tidy : s.daemon.Tidy) : s.collect = s := by
  have events : s.daemon.takeEvents = ([], s.daemon) := by
    unfold Daemon.takeEvents Registry.takeEvents
    dsimp only
    rw [tidy.events, List.map_nil, ← tidy.events]
  have effects : s.daemon.takeEffects = ([], s.daemon) := by
    unfold Daemon.takeEffects
    rw [tidy.effects, ← tidy.effects]
  unfold collect
  rw [events]
  dsimp only
  rw [effects, List.filterMap_nil, List.append_nil, List.append_nil, List.append_nil]

lemma drain_of_tidy (host : Host) (tidy : s.daemon.Tidy) (none : s.daemon.reports = []) :
    s.drain host = s := by
  show ({ s with daemon := s.daemon.drain host } : Server).collect = s
  rw [Daemon.drain_of_reports host none]
  exact collect_of_tidy tidy

lemma tidy_of_happen {d : Daemon} (tidy : d.Tidy) (host : Host) (h : Daemon.Happening) :
    (Tasks.collected (d.happen host h)).Tidy := by
  obtain ⟨_, trades⟩ := Daemon.happen_trades host h tidy.journal
  exact ⟨trades.taken, rfl, rfl⟩

lemma tidy_take (tidy : s.daemon.Tidy) (host : Host) (input : Input) :
    (s.take host input).daemon.Tidy := by
  cases input with
  | connect info => exact tidy
  | message message =>
    show (s.handle host message).daemon.Tidy
    obtain same | ⟨h, -, done⟩ := Tasks.handle_daemon host message s
    · rw [same]
      exact tidy
    · rw [done]
      exact tidy_of_happen tidy host h
  | leave client => exact tidy
  | drain => exact tidy_of_happen tidy host .drain
  | processEvent event => exact tidy_of_happen tidy host (.process event)
  | tick => exact tidy_of_happen tidy host .tick
  | shutdown => exact tidy_of_happen tidy host .shutdown
  | publish =>
    show s.publishNext.daemon.Tidy
    unfold publishNext
    split <;> exact tidy
  | forward =>
    show s.forwardNext.daemon.Tidy
    unfold forwardNext
    split <;> exact tidy

/-- The clients that have connected. -/
def infos (s : Server) : List ClientInfo := s.connections.map Connection.info

lemma infos_update (s : Server) (client : ClientId) {f : Connection → Connection}
    (named : ∀ k, (f k).info = k.info) : (s.update client f).infos = s.infos := by
  unfold infos Server.update
  rw [List.map_map]
  refine List.map_congr_left fun k _ => ?_
  dsimp only [Function.comp_apply]
  split
  · exact named k
  · rfl

lemma infos_send (s : Server) (client : ClientId) (line : Outgoing) :
    (s.send client line).infos = s.infos := infos_update s client fun k => by split <;> rfl

lemma infos_take (host : Host) (input : Input) (s : Server) :
    (s.take host input).infos = s.infos ++ input.arrives?.toList := by
  have same : s.infos = s.infos ++ [] := (List.append_nil _).symm
  cases input with
  | connect info => exact List.map_append
  | message message =>
    show (s.handle host message).infos = s.infos ++ []
    rw [List.append_nil]
    obtain kept | ⟨client, _, line, -, sent⟩ := Tasks.connections_handle host message s
    · unfold infos
      rw [kept]
    · refine Eq.trans ?_ (infos_send s client line)
      unfold infos
      rw [sent]
  | leave client => exact (infos_update s client fun _ => by rfl).trans same
  | publish =>
    show s.publishNext.infos = s.infos ++ []
    unfold publishNext
    split <;> exact same
  | forward =>
    show s.forwardNext.infos = s.infos ++ []
    unfold forwardNext
    split
    · exact same
    · exact (infos_send _ _ _).trans same
  | _ => exact same

lemma mem_infos {info : ClientInfo} (found : s.client? client = some info) : info ∈ s.infos := by
  obtain ⟨k, listed, rfl⟩ := Option.map_eq_some_iff.mp found
  exact List.mem_map_of_mem (List.mem_of_find?_eq_some (Option.filter_eq_some_iff.mp listed).1)

/-- A request of an observer comes to nothing for others, or to the working off of the reports that
wait. -/
lemma handle_watching (tidy : s.daemon.Tidy) (host : Host) (request : Request)
    (watched : watching client = true)
    (observes : ∀ info ∈ s.infos, info.clientId = client → info.role = .observer) :
    Alike watching s (s.handle host (.request client request)) ∨
      Alike watching (s.drain host) (s.handle host (.request client request)) ∧
        (s.handle host (.request client request)).daemon.reports = [] := by
  have limited (s : Server) :
      Alike watching s { s with limiter := (s.limiter.check client host.now).2 } :=
    (Alike.refl watching s).limit (.check_watching watched _ _)
  unfold handle
  dsimp only
  split
  · split
    · exact .inl (limited s)
    · rename_i info found
      have found : s.client? client = some info := found
      have role := observes info (mem_infos found) (Tasks.client?_clientId found)
      -- the answer goes to the observer only, so all depends on what the command does to the daemon
      have daemon := Tasks.respond_snd host info request s.daemon
      have done : ∀ {d : Daemon}, (s.daemon.respond host info request).2 = d →
          Alike watching ({ s with daemon := d } : Server).collect
            ((({ s with limiter := (s.limiter.check client host.now).2 } : Server).withDaemon
              fun d => d.respond host info request).2) := by
        rintro _ rfl
        exact (limited { s with daemon := (s.daemon.respond host info request).2 }).collect
      obtain nothing | looked := Daemon.handle_observer host tidy.journal role request.command
      · left
        have same := done (daemon.trans nothing)
        rw [show ({ s with daemon := s.daemon } : Server).collect = s from collect_of_tidy tidy]
          at same
        exact same.send_watching watched _
      · right
        refine ⟨(done (daemon.trans looked)).send_watching watched _, ?_⟩
        show (Tasks.collected (s.daemon.respond host info request).2).reports = []
        rw [daemon.trans looked]
        exact Daemon.drain_reports host s.daemon
  · exact .inl ((limited s).send_watching watched _)

/-- An input is a request of a client if it asks. -/
lemma exists_of_asks (asks : input.asks watching = true) :
    ∃ client request, input = .message (.request client request) ∧ watching client = true := by
  unfold Input.asks at asks
  split at asks
  · exact ⟨_, _, rfl, asks⟩
  · cases asks

/-- The clients that are left out of account are observers. -/
def Observe (watching : ClientId → Bool) (s : Server) : Prop :=
  ∀ info ∈ s.infos, watching info.clientId = true → info.role = .observer

/-- Whatever observers ask for, others find the server as it was, or with all reports worked off. -/
theorem take_watching (tidy : s.daemon.Tidy) (observe : Observe watching s) (host : Host)
    (asks : input.asks watching = true) :
    if (s.take host input).daemon.reports = [] then
      Alike watching (s.drain host) (s.take host input)
    else Alike watching s (s.take host input) := by
  obtain ⟨client, request, rfl, watched⟩ := exists_of_asks asks
  have observes : ∀ info ∈ s.infos, info.clientId = client → info.role = .observer := by
    rintro info known rfl
    exact observe info known watched
  obtain same | ⟨looked, worked⟩ := handle_watching tidy host request watched observes
  · split
    · rename_i none
      rw [drain_of_tidy host tidy (by rw [same.daemon]; exact none)]
      exact same
    · exact same
  · rw [if_pos (by exact worked)]
    exact looked

lemma Observe.take (observe : Observe watching s) (host : Host) (input : Input)
    (arrives : ∀ info, input = .connect info → watching info.clientId = true →
      info.role = .observer) : Observe watching (s.take host input) := by
  intro info known watched
  rw [infos_take] at known
  obtain before | now := List.mem_append.mp known
  · exact observe info before watched
  · refine arrives info ?_ watched
    cases input with
    | connect other =>
      cases List.mem_singleton.mp now
      rfl
    | _ => cases now

/-- The servers stay alike if one takes some inputs and the other what is left of them without the
requests of observers. -/
theorem alike_unasked {inputs : List (Host × Input)} (alike : Alike watching s t)
    (tidy : s.daemon.Tidy) (observe : Observe watching s)
    (arrives : ∀ host info, (host, .connect info) ∈ inputs → watching info.clientId = true →
      info.role = .observer) :
    Alike watching (s.takeAll inputs) (t.takeAll (unasked watching s inputs)) := by
  induction inputs generalizing s t with
  | nil => exact alike
  | cons head inputs ih =>
    obtain ⟨host, input⟩ := head
    -- wherever the second server is now, it is enough that it is like the first after the input
    have rest {t : Server} (alike : Alike watching (s.take host input) t) :
        Alike watching ((s.take host input).takeAll inputs)
          (t.takeAll (unasked watching (s.take host input) inputs)) :=
      ih alike (tidy_take tidy host input)
        (observe.take host input fun info same =>
          arrives host info (by rw [same]; exact List.mem_cons_self))
        fun host info later => arrives host info (List.mem_cons_of_mem _ later)
    unfold unasked
    dsimp only
    cases asks : input.asks watching with
    | false => exact rest (alike.take host asks)
    | true =>
      have asked := take_watching tidy observe host asks
      rw [if_pos rfl]
      split at asked
      · rename_i none
        rw [if_pos none]
        exact rest (asked.symm.trans (alike.onDaemon (Daemon.drain host)))
      · rename_i some
        rw [if_neg some]
        exact rest (asked.symm.trans alike)

/-- When reports are worked off at once, the servers stay alike if the requests of observers are
left out. -/
theorem alike_heeded {inputs : List (Host × Input)} (alike : Alike watching s t)
    (tidy : s.daemon.Tidy) (worked : s.daemon.reports = []) (observe : Observe watching s)
    (arrives : ∀ host info, (host, .connect info) ∈ inputs → watching info.clientId = true →
      info.role = .observer) :
    Alike watching (s.takeAll (heeded inputs))
      (t.takeAll (heeded (inputs.filter fun p => !p.2.asks watching))) := by
  induction inputs generalizing s t with
  | nil => exact alike
  | cons head inputs ih =>
    obtain ⟨host, input⟩ := head
    have tidy' := tidy_take tidy host input
    have rest {t : Server} (alike : Alike watching ((s.take host input).drain host) t) :
        Alike watching (((s.take host input).drain host).takeAll (heeded inputs))
          (t.takeAll (heeded (inputs.filter fun p => !p.2.asks watching))) := by
      refine ih alike (tidy_take tidy' host .drain) (Daemon.drain_reports host _) ?_
        fun host info later => arrives host info (List.mem_cons_of_mem _ later)
      refine Observe.take ?_ host .drain fun _ no => by cases no
      exact observe.take host input fun info same =>
        arrives host info (by rw [same]; exact List.mem_cons_self)
    cases asks : input.asks watching with
    | false =>
      rw [List.filter_cons_of_pos (by rw [asks]; rfl)]
      exact rest ((alike.take host asks).onDaemon (Daemon.drain host))
    | true =>
      rw [List.filter_cons_of_neg (by rw [asks]; exact Bool.false_ne_true)]
      have asked := take_watching tidy observe host asks
      -- no report waits, so that there is nothing to work off before the look or after it
      rw [drain_of_tidy host tidy worked, ite_self] at asked
      refine rest ?_
      rw [drain_of_tidy host tidy' (by rw [← asked.daemon]; exact worked)]
      exact asked.symm.trans alike

/-- If the requests of observers are left out, nothing changes for anyone else: the daemon has the
same registry, sessions and reports, it has told and asked for the same, and all others have been
answered the same. In the first place, the registry works off the reports that wait at its own
times, which stay as they are. In the second place, it does so at once. -/
theorem observers_leave_no_trace (limiter : RateLimiter ClientId) (lifecycle : LifecyclePolicy)
    (authorization : AuthorizationPolicy) (watching : ClientId → Bool)
    (inputs : List (Host × Input))
    (observers : ∀ host info, (host, .connect info) ∈ inputs → watching info.clientId = true →
      info.role = .observer) :
    Alike watching (after limiter lifecycle authorization inputs)
      (after limiter lifecycle authorization
        (unasked watching (start limiter (.start lifecycle authorization)) inputs)) ∧
    Alike watching (after limiter lifecycle authorization (heeded inputs))
      (after limiter lifecycle authorization
        (heeded (inputs.filter fun p => !p.2.asks watching))) := by
  have tidy : (start limiter (.start lifecycle authorization)).daemon.Tidy := ⟨rfl, rfl, rfl⟩
  have observe : Observe watching (start limiter (.start lifecycle authorization)) :=
    fun _ no => absurd no List.not_mem_nil
  exact ⟨alike_unasked (.refl watching _) tidy observe observers,
    alike_heeded (.refl watching _) tidy rfl observe observers⟩

def onlooker : ClientInfo := Daemon.otherClient .observer

/-- The compositor of the clock shows its window. An observer asks for the applications, while the
report that the window runs still waits, and tries to stop the clock. -/
def visit : List (Host × Input) :=
  [.connect Daemon.compositorOfClock, .connect onlooker, .processEvent (.starting ⟨"clock"⟩),
    .message (.request Daemon.compositorOfClock.clientId ⟨1, apiVersion, .authorizeSession 7⟩),
    .message (.request Daemon.compositorOfClock.clientId
      ⟨2, apiVersion, .sessionStarting Registry.windowOfClock.id 7⟩),
    .message (.request Daemon.compositorOfClock.clientId
      ⟨3, apiVersion, .sessionStateChanged Registry.windowOfClock.id .running⟩),
    .message (.request onlooker.clientId ⟨1, apiVersion, .listApplications⟩),
    .message (.request onlooker.clientId ⟨2, apiVersion, .stopApplication ⟨"clock"⟩⟩)].map
      (Prod.mk .willing)

def isOnlooker (client : ClientId) : Bool := client = onlooker.clientId

/-- The compositor has been answered its three requests, whether the observer has been there or
not. -/
theorem visit_leaves_no_trace :
    (∀ host info, (host, .connect info) ∈ visit → isOnlooker info.clientId = true →
      info.role = .observer) ∧
    visit.length = 8 ∧ (visit.filter fun p => !p.2.asks isOnlooker).length = 6 ∧
    (((after (.new 100 (.ofSeconds 1)) .standard .standard
      (heeded (visit.filter fun p => !p.2.asks isOnlooker))).connection?
        Daemon.compositorOfClock.clientId).map (·.outbox.length)) = some 3 := by
  have observers : ∀ host info, (host, .connect info) ∈ visit →
      isOnlooker info.clientId = true → info.role = .observer := by
    intro host info known watched
    obtain ⟨input, known, same⟩ := List.mem_map.mp known
    obtain ⟨-, rfl⟩ := Prod.mk.inj same
    obtain rfl | rfl : info = Daemon.compositorOfClock ∨ info = onlooker := by simpa using known
    · exact absurd watched (by decide)
    · rfl
  have same := (observers_leave_no_trace (.new 100 (.ofSeconds 1)) .standard .standard isOnlooker
    visit observers).2.connection Daemon.compositorOfClock.clientId (by decide)
  refine ⟨observers, rfl, by decide, ?_⟩
  rw [← same]
  decide +kernel

end Server

end AppLifecycle
