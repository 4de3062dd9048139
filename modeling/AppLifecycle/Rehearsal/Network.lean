import AppLifecycle.Client
import AppLifecycle.Rehearsal.Steps
import AppLifecycle.Server.Basic

/-!
# Rehearsed connections

A server with clients that are known by labels. A client either writes bytes and shows all that it
is sent, or is one that calls and waits for the answer. After every step all take turns until
nothing is left to do.
-/

namespace AppLifecycle

open Json (Value Fields)
open Rehearsal

/-- A client that is connected. -/
structure Peer where
  label : String
  id : ClientId
  /-- The state of a client that calls. -/
  caller : Option Client
  /-- Lines that such a client has not read. -/
  unread : List String

structure Network where
  script : Script
  server : Server
  peers : List Peer
  /-- The labels of all clients there ever were, the newest first. -/
  names : List (ClientId × String)

/-- What a client got in a step. -/
structure Received where
  responses : List Value
  /-- How many lines were no requests. -/
  invalid : Nat
  events : List Value
  requests : List Value

namespace Received

def nothing : Received := ⟨[], 0, [], []⟩

def isNothing (r : Received) : Bool :=
  r.responses.isEmpty && r.invalid = 0 && r.events.isEmpty && r.requests.isEmpty

def addResponse (r : Received) (response : Response) : Received :=
  match response.requestId, response.result with
  | 0, .err ⟨.invalidRequest, _⟩ => { r with invalid := r.invalid + 1 }
  | _, _ => { r with responses := r.responses ++ [response.toJson] }

def addEvent (r : Received) (payload : EventPayload) : Received :=
  match payload.sessionTarget with
  | some _ => { r with requests := r.requests ++ [payload.toJson] }
  | none => { r with events := r.events ++ [payload.toJson] }

def addOutgoing (r : Received) : Outgoing → Received
  | .response response => r.addResponse response
  | .event payload => r.addEvent payload

def toJson (r : Received) : Value := .object [
  ("responses", .array r.responses), ("invalid", .nat r.invalid), ("events", .array r.events),
  ("requests", .array r.requests)]

end Received

/-- The line of what is sent; the time of an event is left open. -/
def Outgoing.line : Outgoing → String
  | .response r => r.line
  | .event payload => (Event.mk apiVersion "" payload).line

def ConnectionError.toJson (e : ConnectionError) : Value :=
  .object [("error", .string "ipc"), ("message", .string e.message)]

namespace Network

def start (script : Script) (server : Server) : Network := ⟨script, server, [], []⟩

def peer? (n : Network) (label : String) : Option Peer := n.peers.find? (·.label = label)

def updateServer (f : Server → Server) (n : Network) : Network :=
  { n with server := (f n.server).settle n.script.host }

def setPeer (n : Network) (p : Peer) : Network :=
  { n with peers := n.peers.map fun q => if q.label = p.label then p else q }

/-- A new client; its id is one that nothing else has. -/
def connect (n : Network) (label : String) (role : ClientRole) (calls : Bool) : Network :=
  let id := Script.clientId n.names.length
  let caller := if calls then some Client.start else none
  let n := n.updateServer (Server.connect ⟨id, role, none, none⟩)
  { n with peers := n.peers ++ [⟨label, id, caller, []⟩], names := (id, label) :: n.names }

/-- A client goes. -/
def disconnect (n : Network) (p : Peer) : Network :=
  { n.updateServer (Server.hangUp p.id) with peers := n.peers.filter (·.label ≠ p.label) }

/-- What was sent to a client and has not been read. -/
def takeLines (n : Network) (p : Peer) : List String × Network :=
  let (sent, server) := n.server.takeSent p.id
  (p.unread ++ sent.map Outgoing.line, { n with server })

/-- A client calls and waits for the answer. -/
def call (n : Network) (p : Peer) (command : Command) :
    Except ConnectionError Response × Network :=
  let (request, caller) := (p.caller.getD .start).request command
  let n := n.updateServer (Server.receive p.id (request.line ++ "\n").toUTF8.toList)
  let (lines, n) := n.takeLines p
  let (response, unread, caller) := caller.awaitResponse lines
  (response, n.setPeer { p with caller, unread })

/-- A client waits for an event. -/
def nextEvent (n : Network) (p : Peer) : Except ConnectionError Event × Network :=
  let (lines, n) := n.takeLines p
  let (event, unread, caller) := (p.caller.getD .start).nextEvent lines
  (event, n.setPeer { p with caller, unread })

/-- A client subscribes; one that is refused goes. -/
def subscribe (n : Network) (p : Peer) : Except ConnectionError Unit × Network :=
  let (response, n) := n.call p .subscribeEvents
  match response.bind Client.subscribed with
  | .ok () => (.ok (), n)
  | .error e => (.error e, n.disconnect p)

/-- All that a client who calls gets by waiting for events. -/
def readAll : Nat → Client → List String → Received → Received × Client
  | 0, caller, _, r => (r, caller)
  | fuel + 1, caller, lines, r =>
    match caller.nextEvent lines with
    | (.ok event, lines, caller) => readAll fuel caller lines (r.addEvent event.payload)
    | (.error .closed, _, caller) => (r, caller)
    | (.error e, lines, caller) =>
      readAll fuel caller lines { r with responses := r.responses ++ [e.toJson] }

/-- What a client got since that was last asked. -/
def collect (n : Network) (p : Peer) : Received × Network :=
  match p.caller with
  | none =>
    let (sent, server) := n.server.takeSent p.id
    (sent.foldl Received.addOutgoing .nothing, { n with server })
  | some caller =>
    let (lines, n) := n.takeLines p
    let (received, caller) :=
      readAll (lines.length + caller.pending.length + 1) caller lines .nothing
    (received, n.setPeer { p with caller := some caller, unread := [] })

mutual

/-- Shows the ids of clients by their labels. -/
def showLabels (n : Network) : Value → Value
  | .string s =>
    match n.names.find? (·.1.text = s) with
    | some (_, label) => .string ("client:" ++ label)
    | none => .string s
  | .array items => .array (showItems n items)
  | .object members => .object (showMembers n members)
  | v => v

def showItems (n : Network) : List Value → List Value
  | [] => []
  | v :: vs => showLabels n v :: showItems n vs

def showMembers (n : Network) : List (String × Value) → List (String × Value)
  | [] => []
  | (k, v) :: ms => (k, showLabels n v) :: showMembers n ms

end

/-! ## Steps -/

/-- A client that there is. -/
def peerField (n : Network) : Fields Peer := Fields.required "client" fun site node => do
  match n.peer? (← Json.text site node) with
  | some p => return p
  | none => Json.fail (.invalidText "no such client")

def clientField : Fields String := Fields.required "client" Json.text

/-- A member that may be left out where it is false. -/
def flagField (name : String) : Fields Bool := Fields.defaulted name false Json.boolean

/-- The role of those who connect at a place. -/
def endpointField : Fields ClientRole :=
  Fields.required "endpoint" (Json.name [("shell", .shell), ("compositor", .compositor)])

/-- A result that is an error, or the value of something. -/
def outcome {α : Type} (f : α → Value) : Except ConnectionError α × Network → Value × Network
  | (.ok a, n) => (f a, n)
  | (.error e, n) => (e.toJson, n)

def sendTo (p : Peer) (line : Outgoing) (n : Network) : Network :=
  n.updateServer (Server.send p.id line)

/-- Broadcasts events at one go. -/
def broadcastAll (n : Network) (payloads : List EventPayload) : Network :=
  n.updateServer fun s => payloads.foldl (fun s payload => s.broadcast payload) s

/-- Subscribes; then an event may be broadcast and waited for. -/
def subscribeStep (n : Network) (p : Peer) (waits : Bool) : Value × Network :=
  let (result, n) := n.subscribe p
  match result, waits, n.peer? p.label with
  | .error e, _, _ => (e.toJson, n)
  | .ok (), true, some p =>
    outcome (fun e => e.payload.toJson) ((n.broadcastAll [.countChanged 7]).nextEvent p)
  | .ok (), _, _ => (.string "subscribed", n)

/-- What a step results in. -/
def step? (n : Network) (v : Value) : Option (Value × Network) :=
  let silent (n : Network) : Value × Network := (.null, n)
  let refused (r : Except ConnectionError Unit) : Value × Network := outcome (fun _ => .null) (r, n)
  (Json.step? "do" [
    ("connect", Json.step
      ((fun label role calls => (role.toJson, n.connect label role calls)) <$> clientField
        <*> endpointField <*> flagField "typed")),
    ("disconnect", Json.step ((fun p => silent (n.disconnect p)) <$> n.peerField)),
    ("send", Json.step
      ((fun p text => silent (n.updateServer (Server.receive p.id text.toUTF8.toList)))
        <$> n.peerField <*> Fields.required "text" Json.text)),
    ("send_bytes", Json.step
      ((fun p bytes => silent (n.updateServer (Server.receive p.id (bytes.map Nat.toUInt8))))
        <$> n.peerField <*> Fields.required "bytes" (Json.list Json.word32))),
    ("call", Json.step
      ((fun p command first =>
          let n := if first then n.sendTo p (.event .shutdown) else n
          outcome Response.toJson (n.call p command))
        <$> n.peerField <*> Fields.required "command" Command.decoder <*> flagField "event_first")),
    ("subscribe", Json.step (n.subscribeStep <$> n.peerField <*> flagField "next")),
    ("push_response", Json.step
      ((fun p requestId => silent (n.sendTo p (.response (.success requestId .pong))))
        <$> n.peerField <*> Fields.required "request_id" Json.word64)),
    ("broadcast_counts", Json.step
      ((fun count => silent (n.broadcastAll ((List.range count).map .countChanged)))
        <$> Fields.required "count" Json.word64)),
    ("broadcast_shutdown", .bare (silent (n.broadcastAll [.shutdown]))),
    ("run_unbound", .bare (refused (Listening.unbound.run.map fun _ => ()))),
    ("run_again", .bare (refused (Listening.running.run.map fun _ => ()))),
    ("send_to_nobody", .bare (refused
      ((n.server.trySend ⟨Script.numbered 0⟩ (.response (.success 0 .pong))).map fun _ => ())))]
    v).or <|
  ((ProcessEvent.ofStep? v).map fun event => silent <| n.updateServer fun s =>
      s.step (.processEvent n.script.host event)).or <|
  (n.script.change? v).map fun script => silent { n with script }

/-- What all clients got in a step, and what else it has led to. -/
def report (n : Network) : List (String × Value) × Network :=
  let (received, n) := n.peers.foldl (fun (all, n) p =>
    let (r, n) := n.collect p
    (if r.isNothing then all else all ++ [(p.label, r.toJson)], n)) ([], n)
  let (effects, server) := n.server.takeEffects
  ([("received", .object received), ("calls", Effect.calls effects),
    ("clients", .nat server.clientCount), ("sessions", .nat server.daemon.sessions.size)],
    { n with server })

/-- A step and all that it has led to. -/
def answer? (n : Network) (v : Value) : Option (Value × Network) := do
  let (result, n) ← n.step? v
  let (members, n) := n.report
  return (n.showLabels (.object (("result", result) :: members)), n)

end Network

end AppLifecycle
