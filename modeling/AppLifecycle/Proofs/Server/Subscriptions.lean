import AppLifecycle.Proofs.Server.Answers

/-!
# Refused subscriptions

The reader of a connection notes what a request does to the subscription of its client, and the
daemon decides later whether the request is granted. So a client that stays connected is subscribed
if the last request about it that has been read says so, whatever has become of the request
(`run_isSubscribed`). A request that is refused leaves the subscription as it was only if the client
already had what the last such request asks for (`subscription_kept_iff`).
-/

namespace AppLifecycle

/-- What a command asks of the subscription of its client, if anything. -/
def Command.wish? : Command → Option Bool
  | .subscribeEvents => some true
  | .unsubscribeEvents => some false
  | _ => none

/-- What the last of some requests to say so asks of a subscription. -/
def lastWish (asked : List Request) (subscribed : Bool) : Bool :=
  (asked.filterMap (·.command.wish?)).getLast?.getD subscribed

/-- The request is refused. -/
def Response.isError (r : Response) : Bool :=
  match r.result with
  | .ok _ => false
  | .err _ => true

lemma subscription_eq (command : Command) (subscribed : Bool) :
    Server.subscription command subscribed = command.wish?.getD subscribed := by
  cases command <;> rfl

lemma lastWish_append (asked asked' : List Request) (subscribed : Bool) :
    lastWish (asked ++ asked') subscribed = lastWish asked' (lastWish asked subscribed) := by
  unfold lastWish
  rw [List.filterMap_append, List.getLast?_append]
  cases (asked'.filterMap (·.command.wish?)).getLast? <;> rfl

lemma lastWish_singleton (asked : Request) (subscribed : Bool) :
    lastWish [asked] subscribed = Server.subscription asked.command subscribed := by
  rw [subscription_eq]
  unfold lastWish
  rw [List.filterMap_cons]
  cases asked.command.wish? <;> rfl

/-- Everybody may subscribe. -/
lemma refusal?_of_wish {role : ClientRole} {command : Command} (wants : command.wish?.isSome) :
    role.refusal? command = none := by
  cases command with
  | subscribeEvents => rfl
  | unsubscribeEvents => rfl
  | _ => cases wants

namespace Server

namespace Tasks

variable {s : Server} {t : Tasks} {client other : ClientId} {k k' : Connection} {asked : Request}

/-- Broadcast events are sent to the client. -/
def isSubscribed (client : ClientId) (t : Tasks) : Bool :=
  (t.server.connection? client).any Connection.subscribed

def sentTo (client : ClientId) (t : Tasks) : List Outgoing :=
  ((t.server.connection? client).map Connection.sent).getD []

/-- The broadcast that the writer of a client looks at next, if it has not missed it. -/
def nextNews? (client : ClientId) (t : Tasks) : Option EventPayload :=
  (t.server.connection? client).bind fun k =>
    if k.seen + backlog < t.server.broadcasts.length then none else t.server.broadcasts[k.seen]?

/-- The requests of a client that the daemon handles in some turns, oldest first. -/
def handled (client : ClientId) (t : Tasks) : List Turn → List Request
  | [] => []
  | turn :: turns => (serves client t turn).toList ++ handled client (t.turn turn) turns

/-! ## The reader decides -/

/-- What a client asks of its subscription in a turn becomes of its connection. -/
def Notes (client : ClientId) (turn : Turn) (k : Connection) (s : Server) : Prop :=
  ∃ k', s.connection? client = some k' ∧ (k'.isOpen = true →
    k'.subscribed = lastWish (requests (turn.reads client).toList) k.subscribed)

variable {turn : Turn}

lemma Notes.of_same (same : s.connection? client = some k) (quiet : turn.reads client = none) :
    Notes client turn k s := by
  refine ⟨k, same, fun _ => ?_⟩
  rw [quiet]
  rfl

/-- A change of the connection of some client that leaves its subscription alone. -/
lemma Notes.of_update {f : Connection → Connection} (found : t.server.connection? client = some k)
    (same : s.connections = (t.server.update other f).connections)
    (named : ∀ k, (f k).info = k.info) (kept : ∀ k, (f k).subscribed = k.subscribed)
    (quiet : requests (turn.reads client).toList = []) : Notes client turn k s := by
  have changed := connection?_of_update found same named
  split at changed
  · refine ⟨f k, changed, fun _ => ?_⟩
    rw [kept, quiet]
    rfl
  · refine ⟨k, changed, fun _ => ?_⟩
    rw [quiet]
    rfl

lemma take_notes (line : String) (found : t.server.connection? client = some k) :
    Notes client (.take other line) k (t.take other line).server := by
  by_cases own : other = client
  · subst own
    have parsed : Turn.reads other (.take other line) = Request.parse line := if_pos rfl
    unfold take note
    rw [found, Option.any_some]
    split
    · split
      · rename_i read
        exact .of_same found (parsed.trans read)
      · rename_i asked read
        have changed := connection?_update t.server (f := fun c =>
          if c.listed then { c with subscribed := subscription asked.command c.subscribed } else c)
          other other (fun k => by split <;> rfl)
        rw [if_pos rfl, found, Option.map_some] at changed
        refine ⟨_, changed, fun stays => ?_⟩
        rw [parsed, read]
        show _ = lastWish [asked] k.subscribed
        rw [lastWish_singleton]
        by_cases listed : k.listed = true
        · rw [if_pos listed]
        · rw [if_neg listed] at stays
          exact absurd (isOpen_iff.mp stays).2.1 listed
      · rename_i e read
        refine .of_update found rfl (fun k => ?_) (fun k => ?_) (by rw [parsed, read]; rfl) <;>
          split <;> rfl
    · rename_i ended
      refine ⟨k, found, fun stays => ?_⟩
      exact absurd (isOpen_iff.mp stays).1 ended
  · refine .of_same ?_ (if_neg own)
    rw [take_other line fun same => own same.symm]
    exact found

/-- No turn changes the subscription of a client but that of its reader. -/
theorem turn_notes (t : Tasks) (turn : Turn) (found : t.server.connection? client = some k) :
    Notes client turn k (t.turn turn).server := by
  cases turn with
  | connect info => exact .of_same (connection?_connect t.server info found) rfl
  | take other line => exact take_notes line found
  | keep other bytes => exact .of_update found rfl (fun _ => rfl) (fun _ => rfl) rfl
  | submit other =>
    refine .of_same ?_ rfl
    show (t.submit other).server.connection? client = _
    unfold submit
    split <;> exact found
  | endReading other => exact .of_update found rfl (fun _ => rfl) (fun _ => rfl) rfl
  | leave other =>
    show Notes client (.leave other) k (t.leave other).server
    unfold leave
    split
    · exact .of_update found rfl (fun _ => rfl) (fun _ => rfl) rfl
    · exact .of_same found rfl
  | report other =>
    refine .of_same ?_ rfl
    show (t.report other).server.connection? client = _
    unfold report
    split <;> exact found
  | handle host =>
    show Notes client (.handle host) k (t.server.handleNext host)
    unfold handleNext
    split
    · exact .of_same found rfl
    · rename_i message queue _
      obtain same | ⟨receiver, request, line, -, sent⟩ :=
        connections_handle host message { t.server with queue }
      · refine .of_same ?_ rfl
        unfold connection? at found ⊢
        rw [same]
        exact found
      · refine .of_update found sent (fun k => ?_) (fun k => ?_) rfl <;> split <;> rfl
  | forward =>
    show Notes client .forward k t.server.forwardNext
    unfold forwardNext
    split
    · exact .of_same found rfl
    · refine .of_update found rfl (fun k => ?_) (fun k => ?_) rfl <;> split <;> rfl
  | publish =>
    refine .of_same ?_ rfl
    show t.server.publishNext.connection? client = _
    unfold publishNext
    split <;> exact found
  | write other =>
    refine .of_update found rfl (fun k => ?_) (fun k => ?_) rfl <;> split <;> rfl
  | relay other =>
    refine .of_update found (congrArg Server.connections (relayNext_eq other t.server))
      (fun k => ?_) (fun k => ?_) rfl
    all_goals
      obtain ⟨seen, payloads, same⟩ := relayed_eq t.server.broadcasts k
      rw [same]
  | _ => exact .of_same found rfl

/-! ## Along a run -/

lemma connection?_of_connected (connected : t.isConnected client = true) :
    ∃ k, t.server.connection? client = some k ∧ k.isOpen = true := by
  unfold isConnected at connected
  cases found : t.server.connection? client with
  | none =>
    rw [found] at connected
    cases connected
  | some k =>
    rw [found] at connected
    exact ⟨k, rfl, connected⟩

/-- A client that is connected after a turn and was known before it was connected before it. -/
lemma isConnected_of_turn (known : (t.server.connection? client).isSome)
    (stays : (t.turn turn).isConnected client = true) : t.isConnected client = true := by
  obtain ⟨k, found⟩ := Option.isSome_iff_exists.mp known
  obtain ⟨k', still, fades⟩ := turn_connection t turn found
  unfold isConnected at stays ⊢
  rw [still] at stays
  rw [found]
  exact fades.isOpen stays

lemma known_turn (turn : Turn) (known : (t.server.connection? client).isSome) :
    ((t.turn turn).server.connection? client).isSome := by
  obtain ⟨k, found⟩ := Option.isSome_iff_exists.mp known
  obtain ⟨k', still, -⟩ := turn_connection t turn found
  exact Option.isSome_iff_exists.mpr ⟨k', still⟩

lemma known_run (turns : List Turn) (known : (t.server.connection? client).isSome) :
    ((t.run turns).server.connection? client).isSome := by
  induction turns generalizing t with
  | nil => exact known
  | cons turn turns ih => exact ih (known_turn turn known)

lemma isConnected_of_run (turns : List Turn) (known : (t.server.connection? client).isSome)
    (stays : (t.run turns).isConnected client = true) : t.isConnected client = true := by
  induction turns generalizing t with
  | nil => exact stays
  | cons turn turns ih => exact isConnected_of_turn known (ih (known_turn turn known) stays)

lemma turn_isSubscribed (known : (t.server.connection? client).isSome)
    (stays : (t.turn turn).isConnected client = true) :
    (t.turn turn).isSubscribed client =
      lastWish (requests (turn.reads client).toList) (t.isSubscribed client) := by
  obtain ⟨k, found⟩ := Option.isSome_iff_exists.mp known
  obtain ⟨k', still, notes⟩ := turn_notes t turn found
  unfold isConnected at stays
  unfold isSubscribed
  rw [still] at stays ⊢
  rw [found]
  exact notes stays

lemma requests_cons (turn : Turn) (turns : List Turn) :
    requests ((turn :: turns).filterMap (Turn.reads client)) =
      requests (turn.reads client).toList ++ requests (turns.filterMap (Turn.reads client)) := by
  unfold requests
  rw [← List.filterMap_append, List.filterMap_cons]
  cases turn.reads client <;> rfl

/-- A client that stays connected is subscribed if the last request about it that has been read says
so, whatever it has been answered. -/
theorem run_isSubscribed (turns : List Turn) (known : (t.server.connection? client).isSome)
    (stays : (t.run turns).isConnected client = true) :
    (t.run turns).isSubscribed client =
      lastWish (requests (turns.filterMap (Turn.reads client))) (t.isSubscribed client) := by
  induction turns generalizing t with
  | nil => rfl
  | cons turn turns ih =>
    have known' := known_turn turn known
    have here : (t.turn turn).isConnected client = true := isConnected_of_run turns known' stays
    rw [requests_cons, lastWish_append, ← turn_isSubscribed known here]
    exact ih known' stays

/-- The requests of a client that stays connected are handled in the order in which they have been
read. -/
lemma run_pending (turns : List Turn) (known : (t.server.connection? client).isSome)
    (stays : (t.run turns).isConnected client = true) :
    t.pending client ++ requests (turns.filterMap (Turn.reads client)) =
      handled client t turns ++ (t.run turns).pending client := by
  induction turns generalizing t with
  | nil => exact List.append_nil _
  | cons turn turns ih =>
    obtain ⟨k, found, isOpen⟩ :=
      connection?_of_connected (isConnected_of_run (turn :: turns) known stays)
    have reading : (t.server.connection? client).any Connection.reading = true := by
      rw [found, Option.any_some]
      exact (isOpen_iff.mp isOpen).1
    have pending := turn_pending client t turn
    rw [if_pos reading] at pending
    have rest := ih (known_turn turn known) stays
    show _ = ((serves client t turn).toList ++ handled client (t.turn turn) turns) ++
      ((t.turn turn).run turns).pending client
    rw [requests_cons, ← List.append_assoc, pending, List.append_assoc, rest, List.append_assoc]

/-! ## The daemon refuses -/

lemma respond_wish (host : Host) (info : ClientInfo) {d : Daemon}
    (wants : asked.command.wish?.isSome) : (d.respond host info asked).1.isError = false := by
  unfold Daemon.respond Daemon.handle
  rw [refusal?_of_wish wants]
  cases asked with
  | mk requestId version command =>
    cases command with
    | subscribeEvents => rfl
    | unsubscribeEvents => rfl
    | _ => cases wants

/-- A request about the subscription is refused exactly if the client has spent its budget. -/
lemma handle_wish (host : Host) (wants : asked.command.wish?.isSome)
    (listed : (s.client? client).isSome) :
    ∃ answer, answer.requestId = asked.requestId ∧
      (answer.isError = true ↔ (s.limiter.check client host.now).1 = false) ∧
      (s.handle host (.request client asked)).connections =
        (s.send client (.response answer)).connections := by
  unfold handle
  dsimp only
  split
  · rename_i allowed
    split
    · rename_i none
      have none : s.client? client = Option.none := none
      rw [none] at listed
      cases listed
    · rename_i info _
      obtain ⟨named, -⟩ := respond_fst host info asked s.daemon
      refine ⟨_, named, ?_, rfl⟩
      rw [allowed, respond_wish host info wants]
      exact iff_of_false Bool.noConfusion Bool.noConfusion
  · rename_i denied
    refine ⟨_, rfl, ?_, rfl⟩
    exact iff_of_true rfl (Bool.eq_false_iff.mpr denied)

/-- The daemon handles a request about the subscription of a client. -/
lemma turn_handle_wish (host : Host) (found : t.server.connection? client = some k)
    (listed : k.listed = true) (wants : asked.command.wish?.isSome)
    (next : serves client t (.handle host) = some asked) :
    ∃ answer, (t.turn (.handle host)).answers client = t.answers client ++ [answer] ∧
      answer.requestId = asked.requestId ∧
      (answer.isError = true ↔ (t.server.limiter.check client host.now).1 = false) := by
  have next : t.server.queue.head?.bind (Message.from? client) = some asked := next
  obtain ⟨message, first, own⟩ := Option.bind_eq_some_iff.mp next
  obtain rfl := from?_eq_some own
  obtain ⟨queue, waits⟩ := List.head?_eq_some_iff.mp first
  have found' : ({ t.server with queue } : Server).connection? client = some k := found
  obtain ⟨answer, named, refused, sent⟩ :=
    handle_wish (s := { t.server with queue }) host wants (client?_of_listed found' listed)
  refine ⟨answer, ?_, named, refused⟩
  have answered : (t.turn (.handle host)).server.connection? client =
      some { k with outbox := k.outbox ++ [.response answer] } := by
    rw [← send_listed (.response answer) found' listed]
    show (t.server.handleNext host).connection? client = _
    unfold handleNext connection?
    rw [waits]
    dsimp only
    rw [sent]
  unfold answers
  rw [answered, found]
  exact answers_push k (.response answer)

/-- A writer sends the next broadcast if its client is subscribed. -/
lemma relay_sentTo (connected : t.isConnected client = true) :
    (t.turn (.relay client)).sentTo client = t.sentTo client ++
      if t.isSubscribed client then (t.nextNews? client).toList.map .event else [] := by
  obtain ⟨k, found, stays⟩ := connection?_of_connected connected
  obtain ⟨-, listed, writes⟩ := isOpen_iff.mp stays
  have relayed : (t.turn (.relay client)).server.connection? client =
      some (relayed t.server.broadcasts k) := by
    show (t.server.relayNext client).connection? client = _
    rw [relayNext_eq, connection?_update, if_pos rfl, found]
    · rfl
    · intro k
      obtain ⟨seen, payloads, same⟩ := relayed_eq t.server.broadcasts k
      rw [same]
  unfold sentTo isSubscribed nextNews?
  rw [relayed, found, Option.any_some, Option.bind_some, Option.map_some, Option.map_some,
    Option.getD_some, Option.getD_some]
  unfold Tasks.relayed
  rw [if_pos writes]
  by_cases behind : k.seen + backlog < t.server.broadcasts.length
  · rw [if_pos behind, if_pos behind]
    exact ((congrArg _ (ite_self _)).trans (List.append_nil _)).symm
  · rw [if_neg behind, if_neg behind]
    cases t.server.broadcasts[k.seen]? with
    -- nothing new has been broadcast, so nothing is sent whatever the subscription
    | none => exact ((congrArg _ (ite_self _)).trans (List.append_nil _)).symm
    | some payload =>
      cases wanted : k.subscribed with
      | true => exact if_pos ⟨listed, rfl⟩
      | false => exact (if_neg fun both => Bool.noConfusion both.2).trans (List.append_nil _).symm

/-- A client asks for a change of its subscription; when all that it had asked for before has been
handled, this request comes next. The client gets an error exactly if it has spent its budget, and
then its subscription is what it was before exactly if the last request about it that has been read
by then asks for that. The writer goes by this request, too. -/
theorem subscription_kept_iff (t : Tasks) (client : ClientId) (line : String) (asked : Request)
    (middle : List Turn) (host : Host) (read : Request.parse line = some (.ok asked))
    (wants : asked.command.wish?.isSome) (connected : t.isConnected client = true)
    (stays : (t.run (.take client line :: middle ++ [.handle host])).isConnected client = true)
    (earlier : handled client t (.take client line :: middle) = t.pending client)
    (next : (serves client (t.run (.take client line :: middle)) (.handle host)).isSome) :
    let ready := t.run (.take client line :: middle)
    let done := ready.turn (.handle host)
    let latest := lastWish (asked :: requests (middle.filterMap (Turn.reads client)))
      (t.isSubscribed client)
    ∃ answer, done.answers client = ready.answers client ++ [answer] ∧
      answer.requestId = asked.requestId ∧
      (answer.isError = true ↔ (ready.server.limiter.check client host.now).1 = false) ∧
      (answer.isError = true →
        (done.isSubscribed client = t.isSubscribed client ↔ latest = t.isSubscribed client)) ∧
      (done.turn (.relay client)).sentTo client = done.sentTo client ++
        if latest then (done.nextNews? client).toList.map .event else [] := by
  intro ready done latest
  have known : (t.server.connection? client).isSome := by
    obtain ⟨k, found, -⟩ := connection?_of_connected connected
    exact Option.isSome_iff_exists.mpr ⟨k, found⟩
  have asks : requests ((Turn.take client line :: middle).filterMap (Turn.reads client)) =
      asked :: requests (middle.filterMap (Turn.reads client)) := by
    rw [requests_cons, show Turn.reads client (.take client line) = _ from if_pos rfl, read]
    rfl
  have known_ready := known_run (.take client line :: middle) known
  have split : t.run (.take client line :: middle ++ [.handle host]) = done := run_concat t _ _
  rw [split] at stays
  have ready_connected : ready.isConnected client = true := isConnected_of_turn known_ready stays
  -- the first request that is pending is the one that was read
  have waiting : ready.pending client =
      asked :: requests (middle.filterMap (Turn.reads client)) := by
    have all := run_pending (.take client line :: middle) known ready_connected
    rw [asks, earlier] at all
    exact (List.append_cancel_left all).symm
  have turn_comes : serves client ready (.handle host) = some asked := by
    obtain ⟨first, serves_first⟩ := Option.isSome_iff_exists.mp next
    have serves_first : serves client ready (.handle host) = some first := serves_first
    have here : ready.pending client = (serves client ready (.handle host)).toList ++ _ :=
      handle_pending host ready
    rw [waiting, serves_first] at here
    rw [serves_first, (List.cons.inj here).1]
  -- the flag goes by what has been read, and nothing more is read when the request is handled
  have flag : done.isSubscribed client = latest := by
    have flag := run_isSubscribed (.take client line :: middle ++ [.handle host]) known
      (by rw [split]; exact stays)
    rw [split, List.filterMap_append] at flag
    rw [flag]
    show lastWish (requests (_ ++ [])) _ = _
    rw [List.append_nil, asks]
  obtain ⟨k, found, isOpen⟩ := connection?_of_connected ready_connected
  obtain ⟨answer, answered, named, refused⟩ :=
    turn_handle_wish host found (isOpen_iff.mp isOpen).2.1 wants turn_comes
  refine ⟨answer, answered, named, refused, fun _ => by rw [flag], ?_⟩
  rw [relay_sentTo stays, flag]

/-- A shell asks for events. -/
def subscribing : Request := ⟨2, apiVersion, .subscribeEvents⟩

/-- A ping and its answer. -/
def exchange : List Turn :=
  [.take caller.clientId pinging.line, .submit caller.clientId, .handle .willing,
    .write caller.clientId]

/-- A shell spends its budget of thirty requests at once. -/
def pestering : List Turn := .connect caller :: (List.replicate 30 exchange).flatten

/-- Then it subscribes. -/
def overstepping : List Turn :=
  [.take caller.clientId subscribing.line, .submit caller.clientId]

/-- An application starts, and clients are told. -/
def announcement : List Turn :=
  [.processEvent .willing (.starting ⟨"clock"⟩), .publish, .relay caller.clientId]

lemma run_flatten (n : Nat) (turns : List Turn) (t : Tasks) :
    t.run (List.replicate n turns).flatten = (fun t => t.run turns)^[n] t := by
  induction n generalizing t with
  | zero => rfl
  | succ n ih =>
    rw [List.replicate_succ, List.flatten_cons, run_append, ih]
    rfl

/-- What a ping and its answer do to the server. -/
def exchanged (t : Tasks) : Tasks :=
  (((t.note caller.clientId (some (.ok pinging))).submit caller.clientId).turn
    (.handle .willing)).turn (.write caller.clientId)

/-- The server when the shell has spent its budget. -/
def pestered : Tasks :=
  exchanged^[30] ((settled (.start (.new 30 (.ofSeconds 1)) (.start .standard .standard))).turn
    (.connect caller))

lemma run_exchange (t : Tasks) : t.run exchange = exchanged t := by
  have pings : Request.parse pinging.line = some (.ok pinging) :=
    Request.parse_line (by decide +kernel)
  show ((((t.take caller.clientId pinging.line).submit caller.clientId).turn
    (.handle .willing)).turn (.write caller.clientId)) = _
  unfold take
  rw [pings]
  rfl

lemma after_pestering :
    after (.new 30 (.ofSeconds 1)) .standard .standard pestering = pestered := by
  have split : pestering = [.connect caller] ++ (List.replicate 30 exchange).flatten := rfl
  unfold after
  rw [split, run_append, run_flatten, funext run_exchange]
  exact congrArg exchanged^[30] rfl

lemma subscribing_read : Request.parse subscribing.line = some (.ok subscribing) :=
  Request.parse_line (by decide +kernel)

lemma run_overstepping (t : Tasks) : t.run overstepping =
    (t.note caller.clientId (some (.ok subscribing))).submit caller.clientId := by
  show (t.take caller.clientId subscribing.line).submit caller.clientId = _
  unfold take
  rw [subscribing_read]

/-- The shell that has spent its budget is refused, and its subscription changes all the same. -/
theorem subscription_of_pestering :
    let t := after (.new 30 (.ofSeconds 1)) .standard .standard pestering
    let done := (t.run overstepping).turn (.handle .willing)
    ∃ answer, done.answers caller.clientId =
        (t.run overstepping).answers caller.clientId ++ [answer] ∧
      answer.requestId = 2 ∧ answer.isError = true ∧
      ¬done.isSubscribed caller.clientId = t.isSubscribed caller.clientId := by
  intro t done
  have same : t = pestered := after_pestering
  clear_value t
  have connected : t.isConnected caller.clientId = true := by
    rw [same]
    decide +kernel
  have unsubscribed : t.isSubscribed caller.clientId = false := by
    rw [same]
    decide +kernel
  have stays : (t.run (overstepping ++ [.handle .willing])).isConnected caller.clientId = true := by
    rw [same, run_concat, run_overstepping]
    decide +kernel
  have earlier : handled caller.clientId t overstepping = t.pending caller.clientId := by
    show [] = t.pending caller.clientId
    rw [same]
    decide +kernel
  have next : (serves caller.clientId (t.run overstepping) (.handle .willing)).isSome := by
    rw [same, run_overstepping]
    decide +kernel
  have spent :
      ((t.run overstepping).server.limiter.check caller.clientId Host.willing.now).1 = false := by
    rw [same, run_overstepping]
    decide +kernel
  obtain ⟨answer, answered, named, refused, kept, -⟩ :=
    subscription_kept_iff t caller.clientId subscribing.line subscribing
      [.submit caller.clientId] .willing subscribing_read rfl connected stays earlier next
  refine ⟨answer, answered, named, refused.mpr spent, (kept (refused.mpr spent)).not.mpr ?_⟩
  rw [unsubscribed]
  decide

/-- The shell that has spent its budget is refused the events, and is told of them all the same. -/
theorem events_despite_refusal :
    let t := after (.new 30 (.ofSeconds 1)) .standard .standard pestering
    let done := t.run (overstepping ++ [.handle .willing])
    done.answers caller.clientId =
      t.answers caller.clientId ++ [.error 2 Refusal.rateLimited.info] ∧
    t.isSubscribed caller.clientId = false ∧ done.isSubscribed caller.clientId = true ∧
    (done.run announcement).sentTo caller.clientId =
      done.sentTo caller.clientId ++ [.event (.applicationAdded 0 ⟨"clock"⟩)] := by
  intro t done
  have before : t = pestered := after_pestering
  have refused : done = ((pestered.note caller.clientId (some (.ok subscribing))).submit
      caller.clientId).turn (.handle .willing) := by
    show t.run _ = _
    rw [before, run_concat, run_overstepping]
  rw [before, refused]
  decide +kernel

end Tasks

end Server

end AppLifecycle
