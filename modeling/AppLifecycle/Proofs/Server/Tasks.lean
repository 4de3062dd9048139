import AppLifecycle.Proofs.Daemon.Run
import AppLifecycle.Server.Basic

/-!
# Readers and writers, change by change

A reader notes a change of its client's subscription before it passes the request on, and a writer
takes its client off the list before it reports that the client has gone. `Tasks` is a server where
others may take their turns in between. A step of the server is some turns in a row (`step_turns`),
so what holds after any turns holds after any steps.
-/

namespace AppLifecycle

/-- What a reader makes of a line; nothing of a blank one. -/
def Request.parse (line : String) : Option (Except Json.Failure Request) :=
  match Text.trim line.toList with
  | [] => none
  | text => some (Request.ofLine (String.ofList text))

/-- `Request.ofLine` for characters. -/
def Request.ofChars (text : List Char) : Except Json.Failure Request := do
  let (node, rest) := Json.Node.ofChars text
  let request ← Request.decoder ⟨Json.maxDepth, false, false⟩ node
  match rest.map Json.skipBlanks with
  | some [] => return request
  | _ => Json.failFault .malformed

/-- `Request.parse` for characters. -/
def Request.parseChars (line : List Char) : Option (Except Json.Failure Request) :=
  match Text.trim line with
  | [] => none
  | text => some (Request.ofChars text)

lemma Request.ofLine_ofList (text : List Char) :
    Request.ofLine (String.ofList text) = Request.ofChars text := by
  have chars : Request.ofLine (String.ofList text) =
      Request.ofChars (String.ofList text).toList := rfl
  rw [chars, String.toList_ofList]

lemma Request.parse_ofList (line : List Char) :
    Request.parse (String.ofList line) = Request.parseChars line := by
  unfold Request.parse Request.parseChars
  rw [String.toList_ofList]
  cases Text.trim line with
  | nil => rfl
  | cons c text => exact congrArg some (Request.ofLine_ofList (c :: text))

/-- The line of a request is read as the request if its characters are. -/
lemma Request.parse_line {request : Request}
    (read : (Request.parseChars (request.toJson.write [])).bind Except.toOption = some request) :
    Request.parse request.line = some (.ok request) := by
  obtain ⟨parsed, found, ok⟩ := Option.bind_eq_some_iff.mp read
  rw [show request.line = String.ofList (request.toJson.write []) from rfl, Request.parse_ofList,
    found]
  cases parsed with
  | error e => cases ok
  | ok other =>
    cases ok
    rfl

namespace Server

/-- A server, and what its readers and writers have begun. A reader has one request in hand at most;
nothing here depends on that. -/
structure Tasks where
  server : Server
  /-- The requests that have been read and not passed on yet, oldest first. -/
  inHand : List (ClientId × Request)
  /-- The clients whose writers have ended and have not reported that yet. -/
  leaving : List ClientId

/-- A turn of one of the tasks. -/
inductive Turn where
  | connect (info : ClientInfo)
  /-- The reader takes a line. -/
  | take (client : ClientId) (line : String)
  /-- The reader keeps the beginning of a line. -/
  | keep (client : ClientId) (bytes : List UInt8)
  /-- The reader passes on the oldest request that it has in hand. -/
  | submit (client : ClientId)
  | endReading (client : ClientId)
  /-- The writer ends, and takes its client off the list. -/
  | leave (client : ClientId)
  /-- The writer reports that its client has gone. -/
  | report (client : ClientId)
  | handle (host : Host)
  | drain (host : Host)
  | processEvent (host : Host) (event : ProcessEvent)
  | tick (host : Host)
  | shutdown (host : Host)
  | publish
  | forward
  | write (client : ClientId)
  | relay (client : ClientId)

namespace Tasks

def onServer (f : Server → Server) (t : Tasks) : Tasks := { t with server := f t.server }

/-- The reader notes what it has read. -/
def note (client : ClientId) (read : Option (Except Json.Failure Request)) (t : Tasks) : Tasks :=
  if (t.server.connection? client).any Connection.reading then
    match read with
    | none => t
    | some (.ok request) => { t with
        server := t.server.update client fun c =>
          if c.listed then { c with subscribed := subscription request.command c.subscribed } else c
        inHand := t.inHand ++ [(client, request)] }
    | some (.error e) => t.onServer (update client fun c =>
        if c.writing then { c with outbox := c.outbox ++ [.response (invalidRequest e)] } else c)
  else t

def take (client : ClientId) (line : String) (t : Tasks) : Tasks :=
  t.note client (Request.parse line)

def submit (client : ClientId) (t : Tasks) : Tasks :=
  match t.inHand.find? (·.1 = client) with
  | none => t
  | some (_, request) => { t with
      server := { t.server with queue := t.server.queue ++ [.request client request] }
      inHand := t.inHand.eraseP (·.1 = client) }

def leave (client : ClientId) (t : Tasks) : Tasks :=
  if (t.server.connection? client).any Connection.writing then
    { t with
      server := t.server.update client fun c => { c with writing := false, listed := false }
      leaving := t.leaving ++ [client] }
  else t

def report (client : ClientId) (t : Tasks) : Tasks :=
  if client ∈ t.leaving then
    { t with
      server := { t.server with queue := t.server.queue ++ [.disconnected client] }
      leaving := t.leaving.erase client }
  else t

/-- Takes a turn. -/
def turn (t : Tasks) : Turn → Tasks
  | .connect info => t.onServer (Server.connect info)
  | .take client line => t.take client line
  | .keep client bytes => t.onServer (update client fun c => { c with unfinished := bytes })
  | .submit client => t.submit client
  | .endReading client => t.onServer (Server.endReading client)
  | .leave client => t.leave client
  | .report client => t.report client
  | .handle host => t.onServer (handleNext host)
  | .drain host => t.onServer (Server.drain host)
  | .processEvent host event => t.onServer (onDaemon (Daemon.onProcessEvent host event))
  | .tick host => t.onServer (onDaemon (Daemon.tick host))
  | .shutdown host => t.onServer fun s => (s.withDaemon (Daemon.shutdown host)).2
  | .publish => t.onServer publishNext
  | .forward => t.onServer forwardNext
  | .write client => t.onServer (writeNext client)
  | .relay client => t.onServer (relayNext client)

def run (t : Tasks) (turns : List Turn) : Tasks := turns.foldl turn t

/-- A server that has just started, after some turns. -/
def after (limiter : RateLimiter ClientId) (lifecycle : LifecyclePolicy)
    (authorization : AuthorizationPolicy) (turns : List Turn) : Tasks :=
  run ⟨Server.start limiter (.start lifecycle authorization), [], []⟩ turns

variable {s : Server} {t : Tasks} {client other : ClientId} {k k' : Connection}
variable {limiter : RateLimiter ClientId} {lifecycle : LifecyclePolicy}
variable {authorization : AuthorizationPolicy}

lemma run_append (t : Tasks) (turns turns' : List Turn) :
    t.run (turns ++ turns') = (t.run turns).run turns' := List.foldl_append

lemma after_concat (limiter : RateLimiter ClientId) (lifecycle : LifecyclePolicy)
    (authorization : AuthorizationPolicy) (turns : List Turn) (turn : Turn) :
    after limiter lifecycle authorization (turns ++ [turn]) =
      (after limiter lifecycle authorization turns).turn turn := List.foldl_append

/-! ## Steps of the server are turns -/

/-- A server without anything begun. -/
def settled (s : Server) : Tasks := ⟨s, [], []⟩

/-- Some turns take a server without anything begun to another one. -/
def Leads (s s' : Server) : Prop := ∃ turns, (settled s).run turns = settled s'

lemma Leads.refl (s : Server) : Leads s s := ⟨[], rfl⟩

lemma Leads.trans {s s' s'' : Server} (h : Leads s s') (h' : Leads s' s'') : Leads s s'' := by
  obtain ⟨turns, first⟩ := h
  obtain ⟨turns', second⟩ := h'
  exact ⟨turns ++ turns', by rw [run_append, first, second]⟩

lemma Leads.single {s' : Server} (turn : Turn) (h : (settled s).turn turn = settled s') :
    Leads s s' := ⟨[turn], h⟩

lemma leads_readLine (client : ClientId) (line : String)
    (reading : (s.connection? client).any Connection.reading = true) :
    Leads s (s.readLine client line) := by
  refine ⟨[.take client line, .submit client], ?_⟩
  show ((settled s).take client line).submit client = settled (s.readLine client line)
  unfold take note readLine Request.parse
  rw [show ((settled s).server.connection? client).any Connection.reading = true from reading,
    if_pos rfl]
  cases Text.trim line.toList with
  | nil => rfl
  | cons c text =>
    dsimp only
    cases Request.ofLine (String.ofList (c :: text)) with
    | error e => rfl
    | ok request => simp [submit, settled]

lemma leads_readBytes (client : ClientId) (s : Server) (line : List UInt8) :
    Leads s (s.readBytes client line) := by
  unfold readBytes
  split
  · rename_i reading
    split
    · exact leads_readLine client _ reading
    · exact .single (.endReading client) rfl
  · exact .refl s

/-- What a server does in a step is done by tasks that take turns. -/
theorem step_turns (s : Server) (step : Step) : Leads s (s.step step) := by
  cases step with
  | connect info => exact .single (.connect info) rfl
  | receive client bytes =>
    show Leads s (s.receive client bytes)
    unfold receive
    split
    · exact .refl s
    · dsimp only
      have lines : ∀ (lines : List (List UInt8)) (s : Server),
          Leads s (lines.foldl (readBytes client) s) := by
        intro lines
        induction lines with
        | nil => exact Leads.refl
        | cons line lines ih => exact fun s => (leads_readBytes client s line).trans (ih _)
      exact (lines _ s).trans (.single (.keep client _) rfl)
  | hangUp client =>
    show Leads s (s.hangUp client)
    unfold hangUp
    split
    · exact .refl s
    · rename_i c _
      have rest :
          Leads s (if c.unfinished.isEmpty then s else s.readBytes client c.unfinished) := by
        split
        · exact .refl s
        · exact leads_readBytes client s _
      exact rest.trans (.single (.endReading client) rfl)
  | handle host => exact .single (.handle host) rfl
  | drain host => exact .single (.drain host) rfl
  | processEvent host event => exact .single (.processEvent host event) rfl
  | publish => exact .single .publish rfl
  | forward => exact .single .forward rfl
  | write client => exact .single (.write client) rfl
  | relay client => exact .single (.relay client) rfl
  | endWriting client =>
    refine ⟨[.leave client, .report client], ?_⟩
    show ((settled s).leave client).report client = settled (s.endWriting client)
    unfold leave endWriting
    rw [show (settled s).server = s from rfl]
    split
    · simp [report, settled]
    · rfl

/-! ## What turns do to connections -/

lemma connection?_update (s : Server) {f : Connection → Connection} (client other : ClientId)
    (named : ∀ k, (f k).info = k.info) :
    (s.update other f).connection? client =
      if client = other then (s.connection? client).map f else s.connection? client := by
  have kept : ∀ k : Connection, (if k.info.clientId = other then f k else k).info = k.info := by
    intro k
    split
    · exact named k
    · rfl
  unfold connection? update
  rw [List.find?_map]
  simp only [Function.comp_def, kept]
  cases found : s.connections.find? fun k => k.info.clientId = client with
  | none => split <;> rfl
  | some k =>
    have own := List.find?_some found
    have own : k.info.clientId = client := of_decide_eq_true own
    show some (if k.info.clientId = other then f k else k) = _
    rw [own]
    split <;> rfl

lemma connection?_of_update {f : Connection → Connection} {s' : Server}
    (found : s.connection? client = some k) (same : s'.connections = (s.update other f).connections)
    (named : ∀ k, (f k).info = k.info) :
    s'.connection? client = if client = other then some (f k) else some k := by
  have changed : s'.connection? client = (s.update other f).connection? client := by
    unfold connection?
    rw [same]
  rw [changed, connection?_update _ _ _ named, found]
  rfl

lemma connection?_connect (s : Server) (info : ClientInfo) (found : s.connection? client = some k) :
    (s.connect info).connection? client = some k := by
  unfold connection? connect
  rw [List.find?_append]
  unfold connection? at found
  rw [found]
  rfl

lemma connection?_clientId (found : s.connection? client = some k) : k.info.clientId = client := by
  have own := List.find?_some found
  exact of_decide_eq_true own

/-- A connection is that of the same client later on, and what has ended has not begun again. -/
structure Fades (k k' : Connection) : Prop where
  info : k'.info = k.info
  listed : k'.listed = true → k.listed = true
  reading : k'.reading = true → k.reading = true
  writing : k'.writing = true → k.writing = true

namespace Fades

lemma refl (k : Connection) : Fades k k := ⟨rfl, id, id, id⟩

lemma of_same (info : k'.info = k.info) (listed : k'.listed = k.listed)
    (reading : k'.reading = k.reading) (writing : k'.writing = k.writing) : Fades k k' :=
  ⟨info, fun h => listed ▸ h, fun h => reading ▸ h, fun h => writing ▸ h⟩

lemma ite {p : Prop} [Decidable p] (h : Fades k k') : Fades k (if p then k' else k) := by
  split
  · exact h
  · exact refl k

end Fades

/-- What a turn does to the connections: it adds one, or it changes those of a client so that they
fade. -/
inductive Reshapes (s s' : Server) : Prop where
  | adds (k : Connection) (connections : s'.connections = s.connections ++ [k])
  | changes (client : ClientId) (f : Connection → Connection) (fades : ∀ k, Fades k (f k))
      (connections : s'.connections = (s.update client f).connections)

lemma Reshapes.of_same {s s' : Server} (same : s'.connections = s.connections) : Reshapes s s' := by
  refine .changes ⟨⟨List.replicate 32 0, rfl⟩⟩ id Fades.refl ?_
  rw [same]
  unfold update
  simp

/-- A message changes the outbox of the client that makes a request, if any. -/
lemma connections_handle (host : Host) (message : Message) (s : Server) :
    (s.handle host message).connections = s.connections ∨
      ∃ client request line, message = .request client request ∧
        (s.handle host message).connections = (s.send client line).connections := by
  unfold handle
  cases message with
  | disconnected client => exact .inl rfl
  | request client request =>
    dsimp only
    split
    · split
      · exact .inl rfl
      · exact .inr ⟨client, request, _, rfl, rfl⟩
    · exact .inr ⟨client, request, _, rfl, rfl⟩

lemma fades_send (client : ClientId) (line : Outgoing) {s s' : Server}
    (connections : s'.connections = (s.send client line).connections) : Reshapes s s' := by
  refine .changes client _ (fun k => ?_) connections
  exact Fades.ite (.of_same rfl rfl rfl rfl)

theorem turn_reshapes (t : Tasks) (turn : Turn) : Reshapes t.server (t.turn turn).server := by
  cases turn with
  | connect info => exact .adds _ rfl
  | take client line =>
    show Reshapes t.server (t.take client line).server
    unfold take note
    split
    · split
      · exact .of_same rfl
      · refine .changes client _ (fun k => ?_) rfl
        exact Fades.ite (.of_same rfl rfl rfl rfl)
      · refine .changes client _ (fun k => ?_) rfl
        exact Fades.ite (.of_same rfl rfl rfl rfl)
    · exact .of_same rfl
  | keep client bytes =>
    refine .changes client _ (fun k => ?_) rfl
    exact .of_same rfl rfl rfl rfl
  | submit client =>
    show Reshapes t.server (t.submit client).server
    unfold submit
    split <;> exact .of_same rfl
  | endReading client =>
    refine .changes client _ (fun k => ?_) rfl
    exact ⟨rfl, Bool.noConfusion, Bool.noConfusion, id⟩
  | leave client =>
    show Reshapes t.server (t.leave client).server
    unfold leave
    split
    · refine .changes client _ (fun k => ?_) rfl
      exact ⟨rfl, Bool.noConfusion, id, Bool.noConfusion⟩
    · exact .of_same rfl
  | report client =>
    show Reshapes t.server (t.report client).server
    unfold report
    split <;> exact .of_same rfl
  | handle host =>
    show Reshapes t.server (t.server.handleNext host)
    unfold handleNext
    split
    · exact .of_same rfl
    · rename_i message queue _
      obtain same | ⟨client, _, line, -, sent⟩ :=
        connections_handle host message { t.server with queue }
      · exact .of_same same
      · exact fades_send client line sent
  | drain host => exact .of_same rfl
  | processEvent host event => exact .of_same rfl
  | tick host => exact .of_same rfl
  | shutdown host => exact .of_same rfl
  | publish =>
    show Reshapes t.server t.server.publishNext
    unfold publishNext
    split <;> exact .of_same rfl
  | forward =>
    show Reshapes t.server t.server.forwardNext
    unfold forwardNext
    split
    · exact .of_same rfl
    · exact fades_send _ _ rfl
  | write client =>
    refine .changes client _ (fun k => ?_) rfl
    split
    · exact .of_same rfl rfl rfl rfl
    · exact .refl k
  | relay client =>
    refine .changes client _ (fun k => ?_) rfl
    refine Fades.ite ?_
    split
    · exact .of_same rfl rfl rfl rfl
    · split
      · exact .refl k
      · exact .of_same rfl rfl rfl rfl

/-- The connection of a client stays, and fades. -/
lemma turn_connection (t : Tasks) (turn : Turn) (found : t.server.connection? client = some k) :
    ∃ k', (t.turn turn).server.connection? client = some k' ∧ Fades k k' := by
  cases turn_reshapes t turn with
  | adds added connections =>
    refine ⟨k, ?_, .refl k⟩
    unfold connection? at found ⊢
    rw [connections, List.find?_append, found]
    rfl
  | changes other f fades connections =>
    have changed := connection?_of_update found connections fun k => (fades k).info
    split at changed
    · exact ⟨f k, changed, fades k⟩
    · exact ⟨k, changed, .refl k⟩

/-! ## What turns do to what waits -/

lemma handle_queue (host : Host) (message : Message) (s : Server) :
    (s.handle host message).queue = s.queue := by
  unfold handle
  cases message with
  | disconnected client => rfl
  | request client request =>
    dsimp only
    split
    · split <;> rfl
    · rfl

lemma handleNext_queue (host : Host) (s : Server) : (s.handleNext host).queue = s.queue.tail := by
  unfold handleNext
  cases queued : s.queue with
  | nil => exact queued
  | cons message queue => exact handle_queue host message { s with queue }

/-- The messages for the daemon come from readers that pass on requests and from writers that report
that they have ended. -/
lemma turn_queue (t : Tasks) (turn : Turn) : (t.turn turn).server.queue =
    match turn with
    | .submit client => t.server.queue ++
        ((t.inHand.find? (·.1 = client)).map fun p => Message.request client p.2).toList
    | .report client => t.server.queue ++ if client ∈ t.leaving then [.disconnected client] else []
    | .handle _ => t.server.queue.tail
    | _ => t.server.queue := by
  cases turn with
  | take client line =>
    show (t.take client line).server.queue = _
    unfold take note
    split
    · split <;> rfl
    · rfl
  | submit client =>
    show (t.submit client).server.queue = _
    unfold submit
    dsimp only
    cases t.inHand.find? (·.1 = client) with
    | none => exact (List.append_nil _).symm
    | some p => rfl
  | leave client =>
    show (t.leave client).server.queue = _
    unfold leave
    split <;> rfl
  | report client =>
    show (t.report client).server.queue = _
    unfold report
    dsimp only
    split
    · rfl
    · exact (List.append_nil _).symm
  | handle host => exact handleNext_queue host t.server
  | publish =>
    show t.server.publishNext.queue = _
    unfold publishNext
    split <;> rfl
  | forward =>
    show t.server.forwardNext.queue = _
    unfold forwardNext
    split <;> rfl
  | _ => rfl

lemma turn_inHand (t : Tasks) (turn : Turn) : (t.turn turn).inHand =
    match turn with
    | .take client line =>
        if (t.server.connection? client).any Connection.reading then
          match Request.parse line with
          | some (.ok request) => t.inHand ++ [(client, request)]
          | _ => t.inHand
        else t.inHand
    | .submit client => t.inHand.eraseP (·.1 = client)
    | _ => t.inHand := by
  cases turn with
  | take client line =>
    show (t.take client line).inHand = _
    unfold take note
    dsimp only
    split
    · cases Request.parse line with
      | none => rfl
      | some parsed => cases parsed <;> rfl
    · rfl
  | submit client =>
    show (t.submit client).inHand = _
    unfold submit
    dsimp only
    split
    · rename_i none
      refine (List.eraseP_of_forall_not fun p hp => ?_).symm
      exact List.find?_eq_none.mp none p hp
    · rfl
  | leave client =>
    show (t.leave client).inHand = _
    unfold leave
    split <;> rfl
  | report client =>
    show (t.report client).inHand = _
    unfold report
    split <;> rfl
  | _ => rfl

lemma turn_leaving (t : Tasks) (turn : Turn) : (t.turn turn).leaving =
    match turn with
    | .leave client => t.leaving ++
        if (t.server.connection? client).any Connection.writing then [client] else []
    | .report client => t.leaving.erase client
    | _ => t.leaving := by
  cases turn with
  | take client line =>
    show (t.take client line).leaving = _
    unfold take note
    split
    · split <;> rfl
    · rfl
  | submit client =>
    show (t.submit client).leaving = _
    unfold submit
    split <;> rfl
  | leave client =>
    show (t.leave client).leaving = _
    unfold leave
    dsimp only
    split
    · rfl
    · exact (List.append_nil _).symm
  | report client =>
    show (t.report client).leaving = _
    unfold report
    dsimp only
    split
    · rfl
    · rename_i stays
      exact (List.erase_of_not_mem stays).symm
  | _ => rfl

/-! ## What turns do to the daemon -/

/-- The daemon when its events and effects have been taken. -/
def collected (d : Daemon) : Daemon := d.takeEvents.2.takeEffects.2

lemma client?_clientId {info : ClientInfo} (found : s.client? client = some info) :
    info.clientId = client := by
  obtain ⟨k, listed, rfl⟩ := Option.map_eq_some_iff.mp found
  exact connection?_clientId (Option.filter_eq_some_iff.mp listed).1

lemma client?_of_unlisted (found : s.connection? client = some k) (gone : k.listed = false) :
    s.client? client = none := by
  unfold client?
  rw [found, Option.filter_some_neg (by simp [gone])]
  rfl

lemma respond_snd (host : Host) (info : ClientInfo) (request : Request) (d : Daemon) :
    (d.respond host info request).2 = (d.handle host info request.command).2 := by
  unfold Daemon.respond
  split <;> rename_i answered <;> rw [answered]

/-- Something happens to the daemon of a server, and what has gathered is taken over. A command is
one of a client on the list. -/
structure Occurs (s : Server) (host : Host) (h : Daemon.Happening) (d : Daemon) : Prop where
  listed : ∀ info command, h = .command info command → s.client? info.clientId = some info
  daemon : d = collected (s.daemon.happen host h)

/-- What a message does to the daemon, if anything. -/
lemma handle_daemon (host : Host) (message : Message) (s : Server) :
    (s.handle host message).daemon = s.daemon ∨
      ∃ h, Occurs s host h (s.handle host message).daemon := by
  unfold handle
  cases message with
  | disconnected client =>
    exact .inr ⟨.disconnect client, fun _ _ no => (by cases no), rfl⟩
  | request client request =>
    dsimp only
    split
    · split
      · exact .inl rfl
      · rename_i info found
        have found : s.client? client = some info := found
        refine .inr ⟨.command info request.command, fun _ _ same => ?_, ?_⟩
        · cases same
          rw [client?_clientId found]
          exact found
        · show collected (s.daemon.respond host info request).2 = _
          rw [respond_snd]
          rfl
    · exact .inl rfl

/-- What a turn does to the daemon, if anything. -/
theorem turn_daemon (t : Tasks) (turn : Turn) : (t.turn turn).server.daemon = t.server.daemon ∨
    ∃ host h, Occurs t.server host h (t.turn turn).server.daemon := by
  cases turn with
  | take client line =>
    refine .inl ?_
    show (t.take client line).server.daemon = _
    unfold take note
    split
    · split <;> rfl
    · rfl
  | submit client =>
    refine .inl ?_
    show (t.submit client).server.daemon = _
    unfold submit
    split <;> rfl
  | leave client =>
    refine .inl ?_
    show (t.leave client).server.daemon = _
    unfold leave
    split <;> rfl
  | report client =>
    refine .inl ?_
    show (t.report client).server.daemon = _
    unfold report
    split <;> rfl
  | handle host =>
    show (t.server.handleNext host).daemon = _ ∨
      ∃ host' h, Occurs t.server host' h (t.server.handleNext host).daemon
    unfold handleNext
    split
    · exact .inl rfl
    · rename_i message queue _
      exact (handle_daemon host message { t.server with queue }).imp_right fun ⟨h, listed, done⟩ =>
        ⟨host, h, listed, done⟩
  | drain host => exact .inr ⟨host, .drain, fun _ _ no => (by cases no), rfl⟩
  | processEvent host event =>
    exact .inr ⟨host, .process event, fun _ _ no => (by cases no), rfl⟩
  | tick host => exact .inr ⟨host, .tick, fun _ _ no => (by cases no), rfl⟩
  | shutdown host => exact .inr ⟨host, .shutdown, fun _ _ no => (by cases no), rfl⟩
  | publish =>
    refine .inl ?_
    show t.server.publishNext.daemon = _
    unfold publishNext
    split <;> rfl
  | forward =>
    refine .inl ?_
    show t.server.forwardNext.daemon = _
    unfold forwardNext
    split <;> rfl
  | _ => exact .inl rfl

end Tasks

end Server

end AppLifecycle
