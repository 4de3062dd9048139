import AppLifecycle.Daemon.Basic
import AppLifecycle.Protocol.Wire
import AppLifecycle.RateLimiter
import AppLifecycle.Server.Endpoint
import AppLifecycle.Text.Blank
import AppLifecycle.Text.Utf8

/-!
# The server

Clients connect to the daemon through sockets and send one request a line. Each connection has a
reader, which turns lines into messages for the daemon, and a writer, which sends what is in the
connection's outbox and, to those who have subscribed, every broadcast event. Readers, writers and
the daemon take turns in any order, so each of their steps is a function of its own here.

A reader that ends takes its client off the list of clients; a writer that ends does so too, and is
the one to report that the client has gone. Requests of a client that is not on the list any more
are dropped.
-/

namespace AppLifecycle

/-- What is sent to a client. -/
inductive Outgoing where
  | response (response : Response)
  | event (payload : EventPayload)
deriving DecidableEq

structure Connection where
  info : ClientInfo
  /-- The client is on the list of clients. -/
  listed : Bool
  /-- Broadcast events are sent to the client. -/
  subscribed : Bool
  /-- The reader runs. -/
  reading : Bool
  /-- The writer runs. -/
  writing : Bool
  /-- The beginning of a line whose end has not come. -/
  unfinished : List UInt8
  /-- What waits to be sent, oldest first. -/
  outbox : List Outgoing
  /-- How many broadcasts the writer has looked at or missed. -/
  seen : Nat
  /-- What has been sent since it was last taken. -/
  sent : List Outgoing

/-- What readers and writers tell the daemon. -/
inductive Message where
  | request (client : ClientId) (request : Request)
  | disconnected (client : ClientId)
deriving DecidableEq

structure Server where
  connections : List Connection
  /-- The messages for the daemon, oldest first. -/
  queue : List Message
  /-- Everything that was ever broadcast, oldest first. -/
  broadcasts : List EventPayload
  /-- What has yet to be broadcast. -/
  news : List EventPayload
  /-- What has yet to be passed on to compositors. -/
  orders : List (Session × SessionAction)
  limiter : RateLimiter ClientId
  daemon : Daemon
  /-- What was asked of the machine since it was last taken. -/
  effects : List Effect

namespace Server

/-- How many broadcasts are kept for a writer that falls behind. -/
def backlog : Nat := 256

def start (limiter : RateLimiter ClientId) (daemon : Daemon) : Server :=
  ⟨[], [], [], [], [], limiter, daemon, []⟩

/-! ## Connections -/

def connection? (s : Server) (client : ClientId) : Option Connection :=
  s.connections.find? (·.info.clientId = client)

/-- The client on the list. -/
def client? (s : Server) (client : ClientId) : Option ClientInfo :=
  ((s.connection? client).filter Connection.listed).map Connection.info

/-- The number of clients on the list. -/
def clientCount (s : Server) : Nat := s.connections.countP Connection.listed

def update (client : ClientId) (f : Connection → Connection) (s : Server) : Server :=
  { s with connections := s.connections.map fun c => if c.info.clientId = client then f c else c }

/-- A client connects. -/
def connect (info : ClientInfo) (s : Server) : Server :=
  let connection : Connection := {
    info, listed := true, subscribed := false, reading := true, writing := true, unfinished := []
    outbox := [], seen := s.broadcasts.length, sent := [] }
  { s with connections := s.connections ++ [connection] }

/-- Puts something into the outbox of a client on the list. -/
def send (client : ClientId) (line : Outgoing) (s : Server) : Server :=
  s.update client fun c => if c.listed then { c with outbox := c.outbox ++ [line] } else c

/-- `send` with the error that a client who is not on the list makes. -/
def trySend (client : ClientId) (line : Outgoing) (s : Server) : Except ConnectionError Server :=
  if (s.client? client).isSome then .ok (s.send client line) else .error .closed

/-! ## Readers -/

/-- The answer to a line that is no request. -/
def invalidRequest (e : Json.Failure) : Response :=
  .error 0 ⟨.invalidRequest, e.message⟩

/-- What a command does to the subscription of its client. -/
def subscription : Command → Bool → Bool
  | .subscribeEvents, _ => true
  | .unsubscribeEvents, _ => false
  | _, subscribed => subscribed

/-- The reader takes a line. Blank lines are passed over. -/
def readLine (client : ClientId) (line : String) (s : Server) : Server :=
  match Text.trim line.toList with
  | [] => s
  | text =>
    match Request.ofLine (String.ofList text) with
    | .ok request =>
      let s := s.update client fun c =>
        if c.listed then { c with subscribed := subscription request.command c.subscribed } else c
      { s with queue := s.queue ++ [.request client request] }
    | .error e => s.update client fun c =>
      if c.writing then { c with outbox := c.outbox ++ [.response (invalidRequest e)] } else c

/-- The reader ends. -/
def endReading (client : ClientId) (s : Server) : Server :=
  s.update client fun c => { c with reading := false, listed := false }

/-- The reader takes the bytes of a line; if they are no text, it ends. -/
def readBytes (client : ClientId) (s : Server) (line : List UInt8) : Server :=
  if (s.connection? client).any Connection.reading then
    match Text.decode? line with
    | some text => s.readLine client text
    | none => s.endReading client
  else s

/-- The lines that are complete, and the beginning of the next one. -/
def splitLines : List UInt8 → List (List UInt8) × List UInt8
  | [] => ([], [])
  | b :: rest =>
    let (lines, last) := splitLines rest
    if b = 10 then ([] :: lines, last)
    else
      match lines with
      | [] => ([], b :: last)
      | line :: lines => ((b :: line) :: lines, last)

/-- Bytes come from a client. -/
def receive (client : ClientId) (bytes : List UInt8) (s : Server) : Server :=
  match s.connection? client with
  | none => s
  | some c =>
    let (lines, last) := splitLines (c.unfinished ++ bytes)
    (lines.foldl (readBytes client) s).update client fun c => { c with unfinished := last }

/-- A client closes its end. What it sent last counts as a line. -/
def hangUp (client : ClientId) (s : Server) : Server :=
  match s.connection? client with
  | none => s
  | some c =>
    let s := if c.unfinished.isEmpty then s else s.readBytes client c.unfinished
    s.endReading client

/-! ## The daemon -/

/-- What is asked of a session. -/
def order? : Effect → Option (Session × SessionAction)
  | .ask session action => some (session, action)
  | _ => none

/-- Takes over what the daemon has to say. -/
def collect (s : Server) : Server :=
  let (events, daemon) := s.daemon.takeEvents
  let (effects, daemon) := daemon.takeEffects
  { s with
    daemon
    news := s.news ++ events
    orders := s.orders ++ effects.filterMap order?
    effects := s.effects ++ effects }

/-- The daemon does something. -/
def withDaemon {α : Type} (f : Daemon → α × Daemon) (s : Server) : α × Server :=
  let (a, daemon) := f s.daemon
  (a, ({ s with daemon }).collect)

/-- `withDaemon` for something without a result. -/
def onDaemon (f : Daemon → Daemon) (s : Server) : Server :=
  (s.withDaemon fun d => ((), f d)).2

/-- The daemon handles a message. -/
def handle (host : Host) (message : Message) (s : Server) : Server :=
  match message with
  | .request client request =>
    let (allowed, limiter) := s.limiter.check client host.now
    let s := { s with limiter }
    if allowed then
      match s.client? client with
      | none => s
      | some info =>
        let (response, s) := s.withDaemon fun d => d.respond host info request
        s.send client (.response response)
    else s.send client (.response (.error request.requestId Refusal.rateLimited.info))
  | .disconnected client =>
    ({ s with limiter := s.limiter.remove client }).onDaemon (Daemon.disconnect client)

/-- The daemon handles the oldest message. -/
def handleNext (host : Host) (s : Server) : Server :=
  match s.queue with
  | [] => s
  | message :: queue => ({ s with queue }).handle host message

/-- The reports of sessions reach the registry. -/
def drain (host : Host) (s : Server) : Server := s.onDaemon (Daemon.drain host)

def broadcast (payload : EventPayload) (s : Server) : Server :=
  { s with broadcasts := s.broadcasts ++ [payload] }

/-- The oldest news is broadcast. -/
def publishNext (s : Server) : Server :=
  match s.news with
  | [] => s
  | payload :: news => ({ s with news }).broadcast payload

/-- What is asked of a session is passed on to its compositor. -/
def forwardNext (s : Server) : Server :=
  match s.orders with
  | [] => s
  | (session, action) :: orders =>
    ({ s with orders }).send session.compositor (.event (.sessionRequest session.id action))

/-! ## Writers -/

/-- The writer sends what is oldest in the outbox. -/
def writeNext (client : ClientId) (s : Server) : Server :=
  s.update client fun c =>
    match c.writing, c.outbox with
    | true, line :: outbox => { c with outbox, sent := c.sent ++ [line] }
    | _, _ => c

/-- The writer looks at the next broadcast, or at the oldest one that is kept. -/
def relayNext (client : ClientId) (s : Server) : Server :=
  s.update client fun c =>
    if c.writing then
      if c.seen + backlog < s.broadcasts.length then
        { c with seen := s.broadcasts.length - backlog }
      else
        match s.broadcasts[c.seen]? with
        | none => c
        | some payload =>
          let sent := if c.listed ∧ c.subscribed then c.sent ++ [.event payload] else c.sent
          { c with seen := c.seen + 1, sent }
    else c

/-- The writer ends, because it cannot write or because nothing will ever come. -/
def endWriting (client : ClientId) (s : Server) : Server :=
  if (s.connection? client).any Connection.writing then
    let s := s.update client fun c => { c with writing := false, listed := false }
    { s with queue := s.queue ++ [.disconnected client] }
  else s

/-- Nothing will ever come for the writer. -/
def isOver (c : Connection) : Bool := !c.reading && !c.listed && c.outbox.isEmpty

/-! ## Schedules -/

/-- A step of one of those who take turns. -/
inductive Step where
  | connect (info : ClientInfo)
  | receive (client : ClientId) (bytes : List UInt8)
  | hangUp (client : ClientId)
  | handle (host : Host)
  | drain (host : Host)
  | processEvent (host : Host) (event : ProcessEvent)
  | publish
  | forward
  | write (client : ClientId)
  | relay (client : ClientId)
  | endWriting (client : ClientId)

/-- Takes a step. -/
def step (s : Server) : Step → Server
  | .connect info => s.connect info
  | .receive client bytes => s.receive client bytes
  | .hangUp client => s.hangUp client
  | .handle host => s.handleNext host
  | .drain host => s.drain host
  | .processEvent host event => s.onDaemon (Daemon.onProcessEvent host event)
  | .publish => s.publishNext
  | .forward => s.forwardNext
  | .write client => s.writeNext client
  | .relay client => s.relayNext client
  | .endWriting client => s.endWriting client

/-- Takes a step so many times. -/
def repeated (n : Nat) (f : Server → Server) (s : Server) : Server := n.repeat f s

/-- The daemon does all there is to do. -/
def settleDaemon (host : Host) (s : Server) : Server :=
  let tell (s : Server) : Server :=
    let s := s.drain host
    let s := s.repeated s.news.length publishNext
    s.repeated s.orders.length forwardNext
  let s := tell s
  s.repeated s.queue.length fun s => tell (s.handleNext host)

/-- The writer of a connection does all there is to do. -/
def settleWriter (s : Server) (c : Connection) : Server :=
  let client := c.info.clientId
  let s := s.repeated c.outbox.length (writeNext client)
  let s := s.repeated (s.broadcasts.length + 1 - c.seen) (relayNext client)
  if (s.connection? client).any isOver then s.endWriting client else s

def settleWriters (s : Server) : Server := s.connections.foldl settleWriter s

/-- Lets all take turns until nothing is left to do. The writers that end give the daemon something
to do again. -/
def settle (host : Host) (s : Server) : Server :=
  ((s.settleDaemon host).settleWriters.settleDaemon host).settleWriters

/-! ## Taking what has gathered -/

/-- What was sent to a client since it was last taken. -/
def takeSent (client : ClientId) (s : Server) : List Outgoing × Server :=
  (((s.connection? client).map Connection.sent).getD [],
    s.update client fun c => { c with sent := [] })

/-- What was asked of the machine since it was last taken. -/
def takeEffects (s : Server) : List Effect × Server := (s.effects, { s with effects := [] })

end Server

end AppLifecycle
