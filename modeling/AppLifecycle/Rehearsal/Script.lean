import AppLifecycle.Host
import AppLifecycle.Protocol.Wire

/-!
# Scripted surroundings

Parts of the daemon can be rehearsed in surroundings that answer as they are told: applications that
are known, processes and command lines that are declared, failures that are switched on, and
sessions with a label that report the state they are given. The steps of a rehearsal are written as
JSON; the member `do` says what is done.
-/

namespace AppLifecycle

open Json (Value Decoder Fields Body)

/-! ## Steps -/

namespace Json

/-- A number, or a text of one. -/
def decimal : Decoder Nat
  | _, .string token => do
    match (← ofRead token.read).toNat? with
    | some n => return n
    | none => fail (.invalidText "no number")
  | site, node => word64 site node

/-- A step out of a table of what can be done. -/
def step? {α : Type} (key : String) (table : List (String × Body α)) (v : Value) : Option α :=
  (decodeValue (taggedBy key "a step" table) v).toOption

/-- A step with further members. -/
def step {α : Type} (fields : Fields α) : Body α := .fields "a step" fields

end Json

namespace Rehearsal

def idField : Fields AppId := Fields.required "id" AppId.decoder

def pidField : Fields Nat := Fields.required "pid" Json.word32

def argsField : Fields (List String) := Fields.defaulted "args" [] (Json.list Json.text)

def labelField : Fields String := Fields.required "session" Json.text

def onField : Fields Bool := Fields.required "on" Json.boolean

def sessionStateField : Fields SessionState := Fields.required "state" SessionState.decoder

/-- A time since the beginning. -/
def instantField (name : String) : Fields Instant :=
  (fun n => ⟨(Duration.ofMillis n).nanos⟩) <$> Fields.required name Json.decimal

end Rehearsal

open Rehearsal

/-- A process event, named by the member `event`. -/
def ProcessEvent.ofStep? : Value → Option ProcessEvent := Json.step? "event" [
  ("starting", Json.step (.starting <$> idField)),
  ("stopped", Json.step (.stopped <$> idField)),
  ("failed", Json.step
    (.failed <$> idField <*> Fields.defaulted "during_startup" false Json.boolean)),
  ("suspended", Json.step (.suspended <$> idField)),
  ("focus_requested", Json.step (.focusRequested <$> idField)),
  ("resume_requested", Json.step (.resumeRequested <$> idField))]

/-! ## Scripts -/

/-- A session that does as it is told. -/
structure ScriptedSession where
  label : String
  session : Session
  /-- The state that it reports. -/
  state : SessionState

/-- What the surroundings have been told. -/
structure Script where
  /-- Of several applications with one id the last one counts. -/
  catalog : List Descriptor
  /-- The newest declaration for an id comes first. -/
  processes : List (AppId × Nat)
  /-- The newest declaration for a process comes first. -/
  lines : List (Nat × CommandLine)
  failStart : Bool
  failStop : Bool
  failWakelock : Bool
  /-- The newest session of a label comes first. -/
  sessions : List ScriptedSession

namespace Script

def start (catalog : List Descriptor) : Script := ⟨catalog, [], [], false, false, false, []⟩

/-- The cause of a wakelock that was told to fail. -/
def wakelockRefusal : HostError := .wakelockUnavailable "Mock wakelock failure"

def find (s : Script) (id : AppId) : Option Descriptor := s.catalog.reverse.find? (·.id = id)

/-- The surroundings as an operation meets them. -/
def host (s : Script) : Host where
  now := ⟨0⟩
  findMetadata := s.find
  start _ _ := if s.failStart then .error (.launchFailed "Mock launch failure") else .ok ()
  stop _ := if s.failStop then .error (.stopFailed "Mock stop failure") else .ok ()
  terminate _ := .ok ()
  hasProcess id pid := s.processes.lookup id = some pid
  commandLine pid :=
    match s.lines.lookup pid with
    | some line => .ok line
    | none => .error (.noSuchProcess pid)
  sessionState id := ((s.sessions.find? (·.session.id = id)).map (·.state)).getD .stopped
  grants _ := !s.failWakelock

/-- The newest session of a label. -/
def session? (s : Script) (label : String) : Option Session :=
  (s.sessions.find? (·.label = label)).map (·.session)

/-- The label of a session. -/
def label (s : Script) (id : SessionId) : String :=
  ((s.sessions.find? (·.session.id = id)).map (·.label)).getD "?"

/-- The newest session of a label reports a state from now on. -/
def report (label : String) (state : SessionState) (s : Script) : Script :=
  match s.session? label with
  | none => s
  | some session =>
    { s with sessions := s.sessions.map fun x =>
        if x.session.id = session.id then { x with state } else x }

/-- An id by its number. -/
def numbered (n : Nat) : Uuid :=
  (Uuid.ofChars? (List.leftpad 32 '0' (Nat.toDigits 16 n))).getD .zero

/-- The id of a client by its number. No session that is numbered has it. -/
def clientId (n : Nat) : ClientId := ⟨numbered (Nat.pow 2 120 + n)⟩

/-- A new session of a label, with an id that no other one has. -/
def addSession (label : String) (pid : Nat) (s : Script) : Script :=
  let session : Session := ⟨⟨numbered (s.sessions.length + 1)⟩, pid, ⟨numbered 0⟩⟩
  { s with sessions := ⟨label, session, .starting⟩ :: s.sessions }

/-- The script after a step that is about the surroundings alone. -/
def change? (s : Script) : Value → Option Script := Json.step? "do" [
  ("set_process", Json.step
    ((fun id pid => { s with processes := (id, pid) :: s.processes }) <$> idField <*> pidField)),
  ("set_command_line", Json.step
    ((fun pid args => { s with lines := (pid, ⟨args⟩) :: s.lines }) <$> pidField <*> argsField)),
  ("fail_start", Json.step ((fun on => { s with failStart := on }) <$> onField)),
  ("fail_stop", Json.step ((fun on => { s with failStop := on }) <$> onField)),
  ("fail_wakelock", Json.step ((fun on => { s with failWakelock := on }) <$> onField)),
  ("new_session", Json.step
    ((fun label pid => s.addSession label pid) <$> labelField <*> pidField)),
  ("report", Json.step
    ((fun label state => s.report label state) <$> labelField <*> sessionStateField))]

/-- A label of a session that there is. -/
def sessionField (s : Script) : Fields Session := Fields.required "session" fun site node => do
  match s.session? (← Json.text site node) with
  | some session => return session
  | none => Json.fail (.invalidText "no such session")

end Script

end AppLifecycle
