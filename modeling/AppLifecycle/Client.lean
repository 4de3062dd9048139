import AppLifecycle.Server.Endpoint
import AppLifecycle.Text.Blank

/-!
# The client

A client writes one request at a time and reads lines until the answer comes. Events that come
before it are kept for later. A line with a `result` is an answer, any other is an event.
-/

namespace AppLifecycle

/-- A line that a client reads. -/
inductive Incoming where
  | response (response : Response)
  | event (event : Event)
deriving DecidableEq

namespace Incoming

/-- Whether a value is that of an answer. -/
def isResponse : Json.Value → Bool
  | .object members => members.any (·.1 = "result")
  | _ => false

/-- Reads a line. -/
def ofLine (line : String) : Except ConnectionError Incoming :=
  match Json.Value.parse (String.ofList (Text.trim line.toList)) with
  | .error fault => .error (.json (.fault fault))
  | .ok value =>
    if isResponse value then
      match Json.decodeValue Response.decoder value with
      | .ok r => .ok (.response r)
      | .error failure => .error (.json failure)
    else
      match Json.decodeValue Event.decoder value with
      | .ok e => .ok (.event e)
      | .error failure => .error (.json failure)

/-- The line of an answer or an event, without its end. -/
def line : Incoming → String
  | .response r => r.line
  | .event e => e.line

end Incoming

structure Client where
  nextId : Nat
  /-- Events that came while an answer was awaited, oldest first. -/
  pending : List Event

namespace Client

def start : Client := ⟨1, []⟩

/-- The request for a command. -/
def request (c : Client) (command : Command) : Request × Client :=
  (⟨c.nextId, apiVersion, command⟩, { c with nextId := c.nextId + 1 })

/-- Reads lines up to an answer. When the lines end, so does the connection. -/
def awaitResponse (c : Client) :
    List String → Except ConnectionError Response × List String × Client
  | [] => (.error .closed, [], c)
  | line :: lines =>
    match Incoming.ofLine line with
    | .error e => (.error e, lines, c)
    | .ok (.response response) => (.ok response, lines, c)
    | .ok (.event event) =>
      ({ c with pending := c.pending ++ [event] } : Client).awaitResponse lines

/-- The next event, one that is kept or a fresh one. An answer that nobody waits for is an error. -/
def nextEvent (c : Client) (lines : List String) :
    Except ConnectionError Event × List String × Client :=
  match c.pending, lines with
  | event :: pending, lines => (.ok event, lines, { c with pending })
  | [], [] => (.error .closed, [], c)
  | [], line :: lines =>
    match Incoming.ofLine line with
    | .error e => (.error e, lines, c)
    | .ok (.event event) => (.ok event, lines, c)
    | .ok (.response response) => (.error (.unexpectedResponse response.requestId), lines, c)

/-- What a client makes of the answer to its subscription. -/
def subscribed (response : Response) : Except ConnectionError Unit :=
  match response.result with
  | .ok _ => .ok ()
  | .err e => .error (.server e.message)

end Client

end AppLifecycle
