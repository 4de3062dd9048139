import AppLifecycle.Proofs.Daemon.Service
import AppLifecycle.Proofs.Server.Pending

/-!
# Every line is answered once

A request passes from a reader to the queue, and from the queue to the outbox of its client; a line
that is no request goes to the outbox at once. As long as a client stays connected, what it has been
answered and what is still pending are together what it has asked for, in the same order, whatever
turns are taken in between; and what is pending is answered when its turn comes
(`answered_in_order`).
-/

namespace AppLifecycle

def Outgoing.response? : Outgoing → Option Response
  | .response answer => some answer
  | .event _ => none

/-- The answer to a line that is no request. -/
def Response.isInvalid (r : Response) : Bool :=
  match r.result with
  | .ok _ => false
  | .err e => e.code = .invalidRequest

/-- The answers that a client has been sent or is going to be sent, oldest first. -/
def Connection.answers (k : Connection) : List Response :=
  (k.sent ++ k.outbox).filterMap Outgoing.response?

/-- The client has neither closed its end nor been given up. -/
def Connection.isOpen (k : Connection) : Bool := k.reading && k.listed && k.writing

/-- What went wrong with the lines that are no requests. -/
def failures (lines : List (Except Json.Failure Request)) : List Json.Failure :=
  lines.filterMap fun
    | .ok _ => none
    | .error e => some e

namespace Server

namespace Tasks

variable {s : Server} {t : Tasks} {client other : ClientId} {k k' : Connection} {turn : Turn}
variable {lines : List (Except Json.Failure Request)} {new : List Response} {info : ClientInfo}
variable {limiter : RateLimiter ClientId} {lifecycle : LifecyclePolicy}
variable {authorization : AuthorizationPolicy}

def isConnected (client : ClientId) (t : Tasks) : Bool :=
  (t.server.connection? client).any Connection.isOpen

def answers (client : ClientId) (t : Tasks) : List Response :=
  ((t.server.connection? client).map Connection.answers).getD []

lemma isOpen_iff :
    k.isOpen = true ↔ k.reading = true ∧ k.listed = true ∧ k.writing = true := by
  unfold Connection.isOpen
  rw [Bool.and_eq_true, Bool.and_eq_true, and_assoc]

lemma Fades.isOpen (fades : Fades k k') (stays : k'.isOpen = true) : k.isOpen = true := by
  obtain ⟨reads, listed, writes⟩ := isOpen_iff.mp stays
  exact isOpen_iff.mpr ⟨fades.reading reads, fades.listed listed, fades.writing writes⟩

lemma closed_of_ended (ended : ¬k.reading = true ∨ ¬k.writing = true) : k.isOpen = false := by
  refine Bool.eq_false_iff.mpr fun stays => ?_
  obtain ⟨reads, -, writes⟩ := isOpen_iff.mp stays
  exact ended.elim (absurd reads) (absurd writes)

/-! ## What a turn answers -/

/-- What a client is answered in a turn: that a line is no request, or the request that the daemon
handles. -/
structure Replies (client : ClientId) (t : Tasks) (turn : Turn) (new : List Response) : Prop where
  failed : new.filter Response.isInvalid =
    (failures (turn.reads client).toList).map invalidRequest
  served : (new.filter (!·.isInvalid)).map Response.requestId =
    (serves client t turn).toList.map Request.requestId

lemma Replies.nothing (reads : failures (turn.reads client).toList = [])
    (waits : serves client t turn = none) : Replies client t turn [] where
  failed := by rw [reads]; rfl
  served := by rw [waits]; rfl

/-- What becomes of the connection of a client in a turn. -/
def Progress (client : ClientId) (t : Tasks) (turn : Turn) (k : Connection) (s : Server) : Prop :=
  ∃ k', s.connection? client = some k' ∧ (k'.isOpen = true →
    ∃ new, k'.answers = k.answers ++ new ∧ Replies client t turn new)

lemma Progress.of_same (same : s.connection? client = some k) (idle : Replies client t turn []) :
    Progress client t turn k s :=
  ⟨k, same, fun _ => ⟨[], (List.append_nil _).symm, idle⟩⟩

/-- A change of the connection of some client that gives no answers. -/
lemma Progress.of_update {f : Connection → Connection}
    (found : t.server.connection? client = some k)
    (same : s.connections = (t.server.update other f).connections)
    (named : ∀ k, (f k).info = k.info)
    (answers : ∀ k, (f k).answers = k.answers) (idle : Replies client t turn []) :
    Progress client t turn k s := by
  have changed := connection?_of_update found same named
  split at changed
  · refine ⟨f k, changed, fun _ => ⟨[], ?_, idle⟩⟩
    rw [answers, List.append_nil]
  · exact .of_same changed idle

/-- Nothing is told of the answers of a client that has closed its end or been given up. -/
lemma Progress.of_closed (found : s.connection? client = some k') (closed : k'.isOpen = false) :
    Progress client t turn k s :=
  ⟨k', found, fun stays => absurd (stays.symm.trans closed) (by decide)⟩

lemma Progress.of_closing {f : Connection → Connection}
    (found : t.server.connection? client = some k)
    (same : s.connections = (t.server.update other f).connections)
    (named : ∀ k, (f k).info = k.info)
    (closes : ∀ k, (f k).isOpen = false) (idle : Replies client t turn []) :
    Progress client t turn k s := by
  have changed := connection?_of_update found same named
  split at changed
  · exact .of_closed changed (closes k)
  · exact .of_same changed idle

lemma answers_push (k : Connection) (line : Outgoing) :
    ({ k with outbox := k.outbox ++ [line] } : Connection).answers =
      k.answers ++ line.response?.toList := by
  show (k.sent ++ (k.outbox ++ [line])).filterMap _ = _
  rw [← List.append_assoc, List.filterMap_append]
  cases line <;> rfl

lemma respond_fst (host : Host) (info : ClientInfo) (request : Request) (d : Daemon) :
    (d.respond host info request).1.requestId = request.requestId ∧
      (d.respond host info request).1.isInvalid = false := by
  unfold Daemon.respond
  split
  · exact ⟨rfl, rfl⟩
  · rename_i e _ failed
    refine ⟨rfl, decide_eq_false ?_⟩
    have failed : (d.handle host info request.command).1 = .error e := by rw [failed]
    exact (Daemon.handle_explains failed).code

/-- A request of a client on the list is answered, even if there are too many of them. -/
lemma handle_request (host : Host) (request : Request) (listed : (s.client? client).isSome) :
    ∃ response, response.requestId = request.requestId ∧ response.isInvalid = false ∧
      (s.handle host (.request client request)).connections =
        (s.send client (.response response)).connections := by
  unfold handle
  dsimp only
  split
  · split
    · rename_i none
      have none : s.client? client = Option.none := none
      rw [none] at listed
      cases listed
    · rename_i info _
      obtain ⟨named, valid⟩ := respond_fst host info request s.daemon
      exact ⟨_, named, valid, rfl⟩
  · exact ⟨_, rfl, rfl, rfl⟩

lemma handle_other (host : Host) {message : Message} (found : s.connection? client = some k)
    (others : message.from? client = none) :
    (s.handle host message).connection? client = some k := by
  obtain same | ⟨receiver, request, line, rfl, sent⟩ := connections_handle host message s
  · unfold connection? at found ⊢
    rw [same]
    exact found
  · have different : client ≠ receiver := by
      rintro rfl
      rw [from?_own] at others
      cases others
    rw [connection?_of_update found sent fun k => by split <;> rfl, if_neg different]

lemma send_listed (line : Outgoing) (found : s.connection? client = some k)
    (listed : k.listed = true) :
    (s.send client line).connection? client = some { k with outbox := k.outbox ++ [line] } := by
  unfold send
  rw [connection?_update, if_pos rfl, found, Option.map_some, if_pos listed]
  intro k
  split <;> rfl

lemma client?_of_listed (found : s.connection? client = some k) (listed : k.listed = true) :
    (s.client? client).isSome := by
  unfold client?
  rw [found, Option.filter_some_pos listed]
  rfl

lemma handle_progress (host : Host) (found : t.server.connection? client = some k) :
    Progress client t (.handle host) k (t.server.handleNext host) := by
  have idle (waits : serves client t (.handle host) = none) :
      Replies client t (.handle host) [] := .nothing rfl waits
  unfold handleNext
  split
  · rename_i empty
    refine .of_same found (idle ?_)
    show t.server.queue.head?.bind _ = none
    rw [empty]
    rfl
  · rename_i message queue next
    have head : serves client t (.handle host) = message.from? client := by
      show t.server.queue.head?.bind _ = _
      rw [next]
      rfl
    have found' : ({ t.server with queue } : Server).connection? client = some k := found
    cases own : message.from? client with
    | none => exact .of_same (handle_other host found' own) (idle (head.trans own))
    | some asked =>
      obtain rfl := from?_eq_some own
      cases listed : k.listed with
      | true =>
        obtain ⟨response, named, valid, sent⟩ :=
          handle_request host asked (client?_of_listed found' listed)
        refine ⟨{ k with outbox := k.outbox ++ [.response response] }, ?_, fun _ =>
          ⟨[response], answers_push k (.response response), ?_, ?_⟩⟩
        · rw [← send_listed (.response response) found' listed]
          unfold connection?
          rw [sent]
        · rw [List.filter_singleton, valid]
          rfl
        · rw [List.filter_singleton, valid, head, own]
          show [response.requestId] = [asked.requestId]
          rw [named]
      | false =>
        -- the client has closed its end, and the request is dropped
        obtain ⟨k', still, fades⟩ := turn_connection t (.handle host) found
        have still : (t.server.handleNext host).connection? client = some k' := still
        unfold handleNext at still
        rw [next] at still
        refine ⟨k', still, fun stays => ?_⟩
        exact absurd ((isOpen_iff.mp (fades.isOpen stays)).2.1.symm.trans listed) (by decide)

lemma take_other (line : String) (different : client ≠ other) :
    (t.take other line).server.connection? client = t.server.connection? client := by
  have kept {f : Connection → Connection} (named : ∀ k, (f k).info = k.info) :
      (t.server.update other f).connection? client = t.server.connection? client := by
    rw [connection?_update _ _ _ named, if_neg different]
  unfold take note
  split
  · split
    · rfl
    · exact kept fun k => by split <;> rfl
    · exact kept fun k => by split <;> rfl
  · rfl

lemma take_progress (line : String) (found : t.server.connection? client = some k) :
    Progress client t (.take other line) k (t.take other line).server := by
  by_cases own : other = client
  · subst own
    have parsed : Turn.reads other (.take other line) = Request.parse line := if_pos rfl
    unfold take note
    rw [found, Option.any_some]
    split
    · split
      · rename_i read
        exact .of_same found (.nothing (by rw [parsed, read]; rfl) rfl)
      · rename_i asked read
        refine .of_update found rfl (fun k => ?_) (fun k => ?_)
          (.nothing (by rw [parsed, read]; rfl) rfl) <;> split <;> rfl
      · rename_i e read
        have changed := connection?_update t.server (f := fun c =>
          if c.writing then { c with outbox := c.outbox ++ [.response (invalidRequest e)] } else c)
          other other (fun k => by split <;> rfl)
        rw [if_pos rfl, found, Option.map_some] at changed
        by_cases writes : k.writing = true
        · rw [if_pos writes] at changed
          refine ⟨_, changed, fun _ => ⟨[invalidRequest e], answers_push k _, ?_, rfl⟩⟩
          rw [parsed, read]
          rfl
        · rw [if_neg writes] at changed
          exact .of_closed changed (closed_of_ended (.inr writes))
    · rename_i ended
      exact .of_closed found (closed_of_ended (.inl ended))
  · have idle : Replies client t (.take other line) [] := by
      refine .nothing ?_ rfl
      rw [show Turn.reads client (.take other line) = none from if_neg own]
      rfl
    refine .of_same ?_ idle
    rw [take_other line fun same => own same.symm]
    exact found

lemma write_answers (k : Connection) :
    (match k.writing, k.outbox with
      | true, line :: outbox => { k with outbox, sent := k.sent ++ [line] }
      | _, _ => k : Connection).answers = k.answers := by
  split
  · rename_i line outbox _ waits
    show ((k.sent ++ [line]) ++ outbox).filterMap _ = (k.sent ++ k.outbox).filterMap _
    rw [waits, List.append_assoc, List.singleton_append]
  · rfl

/-- What becomes of a connection when its writer looks at the next broadcast. -/
def relayed (broadcasts : List EventPayload) (k : Connection) : Connection :=
  if k.writing then
    if k.seen + backlog < broadcasts.length then
      { k with seen := broadcasts.length - backlog }
    else
      match broadcasts[k.seen]? with
      | none => k
      | some payload =>
        let sent := if k.listed ∧ k.subscribed then k.sent ++ [.event payload] else k.sent
        { k with seen := k.seen + 1, sent }
  else k

lemma relayNext_eq (client : ClientId) (s : Server) :
    s.relayNext client = s.update client (relayed s.broadcasts) := rfl

/-- Nothing but events is sent to a client in this way. -/
lemma relayed_eq (broadcasts : List EventPayload) (k : Connection) :
    ∃ (seen : Nat) (payloads : List EventPayload),
      relayed broadcasts k = { k with seen, sent := k.sent ++ payloads.map .event } := by
  have same : ∃ (seen : Nat) (payloads : List EventPayload),
      k = { k with seen, sent := k.sent ++ payloads.map .event } :=
    ⟨k.seen, [], by rw [List.map_nil, List.append_nil]⟩
  unfold relayed
  by_cases writes : k.writing = true
  · rw [if_pos writes]
    by_cases behind : k.seen + backlog < broadcasts.length
    · rw [if_pos behind]
      exact ⟨_, [], by rw [List.map_nil, List.append_nil]⟩
    · rw [if_neg behind]
      cases broadcasts[k.seen]? with
      | none => exact same
      | some payload =>
        by_cases wants : k.listed ∧ k.subscribed
        · exact ⟨k.seen + 1, [payload], by simp only [if_pos wants]; rfl⟩
        · exact ⟨k.seen + 1, [], by simp only [if_neg wants, List.map_nil, List.append_nil]⟩
  · rw [if_neg writes]
    exact same

lemma response?_events (payloads : List EventPayload) :
    (payloads.map Outgoing.event).filterMap Outgoing.response? = [] := by
  rw [List.filterMap_map]
  exact List.filterMap_eq_nil_iff.mpr fun _ _ => rfl

lemma relayed_answers (broadcasts : List EventPayload) (k : Connection) :
    (relayed broadcasts k).answers = k.answers := by
  obtain ⟨seen, payloads, same⟩ := relayed_eq broadcasts k
  rw [same]
  unfold Connection.answers
  rw [List.append_assoc, List.filterMap_append, List.filterMap_append, response?_events,
    List.nil_append, ← List.filterMap_append]

/-- In any turn, a client is answered what is due in the turn and nothing else. -/
theorem turn_progress (t : Tasks) (turn : Turn) (found : t.server.connection? client = some k) :
    Progress client t turn k (t.turn turn).server := by
  cases turn with
  | connect info =>
    exact .of_same (connection?_connect t.server info found) (.nothing rfl rfl)
  | take other line => exact take_progress line found
  | keep other bytes =>
    exact .of_update found rfl (fun _ => rfl) (fun _ => rfl) (.nothing rfl rfl)
  | submit other =>
    refine .of_same ?_ (.nothing rfl rfl)
    show (t.submit other).server.connection? client = _
    unfold submit
    split <;> exact found
  | endReading other =>
    exact .of_closing found rfl (fun _ => rfl) (fun _ => rfl) (.nothing rfl rfl)
  | leave other =>
    show Progress client t (.leave other) k (t.leave other).server
    unfold leave
    split
    · refine .of_closing found rfl (fun _ => rfl) (fun k => ?_) (.nothing rfl rfl)
      exact closed_of_ended (.inr Bool.false_ne_true)
    · exact .of_same found (.nothing rfl rfl)
  | report other =>
    refine .of_same ?_ (.nothing rfl rfl)
    show (t.report other).server.connection? client = _
    unfold report
    split <;> exact found
  | handle host => exact handle_progress host found
  | forward =>
    show Progress client t .forward k t.server.forwardNext
    unfold forwardNext
    split
    · exact .of_same found (.nothing rfl rfl)
    · refine .of_update found rfl (fun k => ?_) (fun k => ?_) (.nothing rfl rfl)
      · split <;> rfl
      · split
        · rw [answers_push]
          exact List.append_nil _
        · rfl
  | publish =>
    refine .of_same ?_ (.nothing rfl rfl)
    show t.server.publishNext.connection? client = _
    unfold publishNext
    split <;> exact found
  | write other =>
    refine .of_update found rfl (fun k => ?_) write_answers (.nothing rfl rfl)
    split <;> rfl
  | relay other =>
    refine .of_update found (congrArg Server.connections (relayNext_eq other t.server))
      (fun k => ?_) (relayed_answers _) (.nothing rfl rfl)
    obtain ⟨seen, payloads, same⟩ := relayed_eq t.server.broadcasts k
    rw [same]
  | _ => exact .of_same found (.nothing rfl rfl)

/-! ## The account of a client -/

/-- A client has read the lines since it connected. If it is connected, it has been answered what is
no request, and the requests that are not pending. -/
structure Accounts (client : ClientId) (lines : List (Except Json.Failure Request)) (t : Tasks) :
    Prop where
  known : (t.server.connection? client).isSome
  failed : t.isConnected client = true →
    (t.answers client).filter Response.isInvalid = (failures lines).map invalidRequest
  served : t.isConnected client = true →
    ((t.answers client).filter (!·.isInvalid)).map Response.requestId ++
      (t.pending client).map Request.requestId = (requests lines).map Request.requestId

lemma Accounts.after_turn (accounts : Accounts client lines t) (turn : Turn) :
    Accounts client (lines ++ (turn.reads client).toList) (t.turn turn) := by
  obtain ⟨k, found⟩ := Option.isSome_iff_exists.mp accounts.known
  obtain ⟨k', still, fades⟩ := turn_connection t turn found
  obtain ⟨k'', same, told⟩ := turn_progress t turn found
  obtain rfl : k'' = k' := Option.some_inj.mp (same.symm.trans still)
  have before : t.answers client = k.answers := by
    unfold answers
    rw [found]
    rfl
  have after : (t.turn turn).answers client = k''.answers := by
    unfold answers
    rw [still]
    rfl
  have stays : (t.turn turn).isConnected client = true → k''.isOpen = true := by
    unfold isConnected
    rw [still, Option.any_some]
    exact id
  have stayed : (t.turn turn).isConnected client = true → t.isConnected client = true := by
    intro connected
    unfold isConnected
    rw [found, Option.any_some]
    exact fades.isOpen (stays connected)
  refine ⟨Option.isSome_iff_exists.mpr ⟨k'', still⟩, fun connected => ?_, fun connected => ?_⟩
  · obtain ⟨new, more, replies⟩ := told (stays connected)
    rw [after, more, ← before, List.filter_append, accounts.failed (stayed connected),
      replies.failed, ← List.map_append]
    unfold failures
    rw [← List.filterMap_append]
  · -- what the turn serves is the head of what was pending, and what it reads is added at the end
    obtain ⟨new, more, replies⟩ := told (stays connected)
    have reading : (t.server.connection? client).any Connection.reading = true := by
      rw [found, Option.any_some]
      exact (isOpen_iff.mp (fades.isOpen (stays connected))).1
    have pending := turn_pending client t turn
    rw [if_pos reading] at pending
    have pending := congrArg (List.map Request.requestId) pending
    rw [List.map_append, List.map_append] at pending
    have split : requests (lines ++ (turn.reads client).toList) =
        requests lines ++ requests (turn.reads client).toList := List.filterMap_append
    rw [after, more, ← before, List.filter_append, List.map_append, replies.served,
      List.append_assoc, ← pending, ← List.append_assoc, accounts.served (stayed connected), split,
      List.map_append]

lemma Accounts.run (accounts : Accounts client lines t) (turns : List Turn) :
    Accounts client (lines ++ turns.filterMap (Turn.reads client)) (t.run turns) := by
  induction turns generalizing lines t with
  | nil =>
    rw [List.filterMap_nil, List.append_nil]
    exact accounts
  | cons turn turns ih =>
    have rest := ih (accounts.after_turn turn)
    rw [List.append_assoc] at rest
    have split : (turn :: turns).filterMap (Turn.reads client) =
        (turn.reads client).toList ++ turns.filterMap (Turn.reads client) := by
      rw [List.filterMap_cons]
      cases turn.reads client <;> rfl
    rw [split]
    exact rest

/-- A shell that looks in. -/
def caller : ClientInfo := ⟨⟨⟨List.replicate 32 ⟨1, by decide⟩, rfl⟩⟩, .shell, none, none⟩

def pinging : Request := ⟨1, apiVersion, .ping⟩

end Tasks

end Server

end AppLifecycle
