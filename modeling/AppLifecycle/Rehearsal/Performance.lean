import AppLifecycle.Rehearsal.Network
import AppLifecycle.Rehearsal.Service

/-!
# Rehearsed runs of the daemon

A run of the whole daemon with clients that are known by labels and processes that are given names.
Numbers of processes and ids of clients differ from run to run, so names stand for them in what is
sent and in what is shown.
-/

namespace AppLifecycle

open Json (Value Fields)
open Rehearsal

/-- A client, and what it has got and not looked at. -/
structure Spectator where
  label : String
  id : ClientId
  received : Received

structure Performance where
  service : Service
  clients : List Spectator
  /-- The ids of all clients there ever were. -/
  ids : List ClientId
  /-- The processes that have names. -/
  names : List (String × Nat)

namespace Performance

/-- The program that watches the daemon. -/
def watcher : Nat := ProcessRehearsal.self

def start (service : Service) : Performance := ⟨service, [], [], []⟩

/-! ## Names -/

/-- A name between marks. -/
def mark (name : String) : String := "@" ++ name ++ "@"

/-- Puts the numbers of processes in the place of their names. -/
def fillIn (p : Performance) (text : String) : String :=
  p.names.foldl (fun s (name, pid) => s.replace (mark name) (toString pid)) text

/-- Puts the names of processes in the place of their numbers. -/
def hide (p : Performance) (text : String) : String :=
  p.names.foldl (fun s (name, pid) => s.replace (toString pid) (mark name)) text

/-- The name of a process as it is shown. -/
def named (p : Performance) (v : Value) : Value :=
  match p.names.find? fun (_, pid) => toString pid = v.text with
  | some (name, _) => .string (mark name)
  | none => v

/-- Whether a member says that a line was no request. -/
def saysInvalid : String × Value → Bool
  | ("code", .string code) => code = ErrorCode.invalidRequest.name
  | _ => false

mutual

/-- Shows names for the numbers of processes and the ids of clients; `key` is the name of the member
that a value stands in. The texts about lines that are no requests are left out. -/
def conceal (p : Performance) (key : String) : Value → Value
  | .string s =>
    if p.ids.any (·.text = s) then .string (mark "client")
    else if key = "message" then .string (p.hide s)
    else .string s
  | .array items => .array (concealItems p items)
  | .object members =>
    .object (concealMembers p (members.any saysInvalid) members)
  | v => if key = "pid" then p.named v else v

def concealItems (p : Performance) : List Value → List Value
  | [] => []
  | v :: vs => conceal p "" v :: concealItems p vs

def concealMembers (p : Performance) (silent : Bool) : List (String × Value) → List (String × Value)
  | [] => []
  | (k, v) :: ms =>
    (k, if silent && k = "message" then .null else conceal p k v) :: concealMembers p silent ms

end

/-! ## Clients -/

/-- What has been sent since it was last looked at. -/
def gather (p : Performance) : Performance :=
  let (service, clients) := p.clients.foldl (fun ((s : Service), clients) c =>
    let (sent, server) := s.server.takeSent c.id
    let add (r : Received) : Outgoing → Received
      | .response response => { r with responses := r.responses ++ [response.toJson] }
      | .event payload => r.addEvent payload
    ({ s with server }, clients ++ [{ c with received := sent.foldl add c.received }]))
    (p.service, [])
  { p with service, clients }

def updateService (p : Performance) (f : Service → Service) : Performance :=
  { p with service := f p.service }.gather

/-- The server gets something from a client. -/
def deliver (p : Performance) (f : Server → Server) : Performance :=
  p.updateService fun s => Service.settle { s with server := f s.server }

def client? (p : Performance) (label : String) : Option Spectator :=
  p.clients.find? (·.label = label)

def setReceived (p : Performance) (label : String) (received : Received) : Performance :=
  { p with clients := p.clients.map fun c => if c.label = label then { c with received } else c }

/-- Lets time pass until a client has got something. -/
def waitFor (label : String) (holds : Received → Bool) : Nat → Performance → Performance
  | 0, p => p
  | fuel + 1, p =>
    if (p.client? label).any fun c => holds c.received then p
    else waitFor label holds fuel (p.updateService Service.passOn)

/-- Takes the oldest of what a client has got, as soon as there is enough. -/
def take (p : Performance) (label : String) (count : Nat) (part : Received → List Value)
    (rest : Received → List Value → Received) : Value × Performance :=
  let p := waitFor label (fun r => count ≤ (part r).length) Machine.longWait p
  match p.client? label with
  | none => (.null, p)
  | some c =>
    let all := part c.received
    let p := p.setReceived label (rest c.received (all.drop count))
    (.array ((all.take count).map (p.conceal "")), p)

def takeResponses (p : Performance) (label : String) (count : Nat) : Value × Performance :=
  p.take label count Received.responses fun r responses => { r with responses }

/-- A client connects to a socket. -/
def connect (p : Performance) (label path : String) : Performance :=
  let found := p.service.endpoints.reverse.find? fun (socket, _) =>
    Disk.place socket.text = Disk.place path
  match found with
  | none => p
  | some (_, role) =>
    let id := Script.clientId p.ids.length
    let p := p.deliver (Server.connect ⟨id, role, none, none⟩)
    { p with clients := p.clients ++ [⟨label, id, .nothing⟩], ids := id :: p.ids }

def disconnect (p : Performance) (label : String) : Performance :=
  match p.client? label with
  | none => p
  | some c => { p.deliver (Server.hangUp c.id) with
      clients := p.clients.filter (·.label ≠ label) }

/-- A client sends a text. -/
def send (p : Performance) (label text : String) : Performance :=
  match p.client? label with
  | none => p
  | some c => p.deliver (Server.receive c.id (p.fillIn text).toUTF8.toList)

/-- A client sends a text and waits for the answers. -/
def sendStep (p : Performance) (label text : String) (answers : Nat) : Value × Performance :=
  (p.send label text).takeResponses label answers

/-- A member of an object. -/
def member? (key : String) : Value → Option Value
  | .object members => members.lookup key
  | _ => none

/-- The member of the payload in an answer that is no refusal. -/
def payloadMember? (field : String) (answer : Value) : Option Value := do
  member? field (← member? "ok" (← member? "result" answer))

/-- Sends a text again and again until the answer has some member. -/
def sendUntil (label text field : String) (value : Value) : Nat → Performance → Value × Performance
  | 0, p => (.null, p)
  | fuel + 1, p =>
    match p.sendStep label text 1 with
    | (.array [answer], p) =>
      if (payloadMember? field answer).any (·.text = value.text) then (.array [answer], p)
      else sendUntil label text field value fuel (p.updateService Service.passOn)
    | (_, p) => sendUntil label text field value fuel (p.updateService Service.passOn)

/-! ## Processes -/

def pid? (p : Performance) (name : String) : Option Nat := p.names.lookup name

/-- Gives a process a name. -/
def name (p : Performance) (name : String) (pid : Nat) : Performance :=
  { p with names := (name, pid) :: p.names }

/-- Lets time pass until something holds of the machine. -/
def waitForMachine (p : Performance) (holds : Machine → Bool) : Performance :=
  p.updateService (Service.waitFor (fun s => holds s.workshop.machine) Machine.longWait)

def machine (p : Performance) : Machine := p.service.workshop.machine

/-- Waits for a child of the daemon and gives it a name. -/
def findChild (p : Performance) (name line : String) : Value × Performance :=
  let child? (m : Machine) : Option Nat := m.childWith? Service.self line
  let p := p.waitForMachine fun m => (child? m).isSome
  match child? p.machine with
  | none => (.bool false, p)
  | some pid => (.bool true, p.name name pid)

/-- Starts a process that waits for input. -/
def addIdle (p : Performance) (name : String) (args : List String) : Performance :=
  let (pid, machine) := p.machine.addIdle watcher args
  (p.updateService fun s => s.updateMachine fun _ => machine).name name pid

/-- Waits for a process to end; its input may be closed before. -/
def endIdle (p : Performance) (name : String) (closes : Bool) : Value × Performance :=
  let pid := (p.pid? name).getD Machine.nobody
  let p := if closes then p.updateService (Service.updateMachine (·.closeInput pid)) else p
  let p := p.waitForMachine (·.isGone pid)
  match p.machine.collect? pid with
  | none => (.object [("ended", .bool false), ("signal", .null)], p)
  | some (exit, machine) =>
    (.object [("ended", .bool true),
      ("signal", .option (fun s => .nat s.number) exit.signal?)],
      p.updateService fun s => s.updateMachine fun _ => machine)

def kill (p : Performance) (name signal : String) : Performance :=
  let pid := (p.pid? name).getD Machine.nobody
  p.updateService <| Service.updateMachine fun m =>
    (m.signalProcess ((Signal.ofName? signal).getD ⟨0⟩) pid).settle

/-- Whether a process reaches a state. -/
def reaches (p : Performance) (name want : String) : Value × Performance :=
  let pid := (p.pid? name).getD Machine.nobody
  let p := p.waitForMachine fun m => m.stateName pid = want
  (.bool (p.machine.stateName pid = want), p)

/-- Ends the daemon by a signal. -/
def stop (p : Performance) (signal : String) (sockets : List String) : Value × Performance :=
  let p := p.updateService (Service.signalled ((Signal.ofName? signal).getD ⟨0⟩))
  let ended : Value :=
    match p.service.ended with
    | none => .null
    | some exit => .object [("exit", .option Value.nat exit.code?),
        ("signal", .option (fun s => .nat s.number) exit.signal?)]
  (.object [("ended", ended), ("sockets_left", .strings (sockets.filter p.service.disk.has))], p)

/-! ## Steps -/

def textField (name : String) : Fields String := Fields.required name Json.text

def countField (name : String) : Fields Nat := Fields.required name Json.word64

/-- What a step results in. -/
def step? (p : Performance) (v : Value) : Option (Value × Performance) :=
  let silent (p : Performance) : Value × Performance := (.null, p)
  let wanted := (member? "value" v).getD .null
  Json.step? "do" [
    ("connect", Json.step
      ((fun label path => silent (p.connect label path)) <$> labelled <*> textField "path")),
    ("disconnect", Json.step ((fun label => silent (p.disconnect label)) <$> labelled)),
    ("send", Json.step (p.sendStep <$> labelled <*> textField "text"
      <*> Fields.defaulted "answers" 0 Json.word64)),
    ("send_until", Json.step
      ((fun label text field => sendUntil label text field wanted Machine.longWait p)
        <$> labelled <*> textField "text" <*> textField "field")),
    ("events", Json.step
      ((fun label count => p.take label count Received.events fun r events => { r with events })
        <$> labelled <*> countField "count")),
    ("requests", Json.step
      ((fun label count =>
          p.take label count Received.requests fun r requests => { r with requests })
        <$> labelled <*> countField "count")),
    ("find_child", Json.step (p.findChild <$> textField "name" <*> textField "command")),
    ("idle_process", Json.step
      ((fun name args => silent (p.addIdle name args)) <$> textField "name" <*> argsField)),
    ("end_idle", Json.step
      (p.endIdle <$> textField "name" <*> Fields.defaulted "close" true Json.boolean)),
    ("kill", Json.step
      ((fun name signal => silent (p.kill name signal))
        <$> textField "name" <*> textField "signal")),
    ("state", Json.step (p.reaches <$> textField "name" <*> textField "want")),
    ("stop_daemon", Json.step (p.stop <$> textField "signal"
      <*> Fields.defaulted "sockets" [] (Json.list Json.text)))] v
where
  labelled : Fields String := textField "client"

end Performance

end AppLifecycle
