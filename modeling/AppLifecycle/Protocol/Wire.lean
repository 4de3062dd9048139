import AppLifecycle.Json.Decode
import AppLifecycle.Protocol.Event
import AppLifecycle.Protocol.Response

/-!
# The wire form of messages

Every message has one written form, a compact JSON text with its members in a fixed order, and is
read with the freedoms of `Json.Decode`. For each type `T` there are `T.toJson` and `T.decoder`.
-/

namespace AppLifecycle

open Json (Value Decoder Fields)

/-! ## Names -/

/-- The names of an enumeration, for reading. -/
def namesOf {α : Type} (all : List α) (name : α → String) : List (String × α) :=
  all.map fun a => (name a, a)

def Stage.toJson (s : Stage) : Value := .string s.name
def Stage.decoder : Decoder Stage := Json.name (namesOf Stage.all Stage.name)

def Orientation.toJson (o : Orientation) : Value := .string o.name
def Orientation.decoder : Decoder Orientation :=
  Json.name (namesOf Orientation.all Orientation.name)

def InternalState.toJson (s : InternalState) : Value := .string s.name
def InternalState.decoder : Decoder InternalState :=
  Json.name (namesOf InternalState.all InternalState.name)

def PublicState.toJson (s : PublicState) : Value := .string s.name
def PublicState.decoder : Decoder PublicState :=
  Json.name (namesOf PublicState.all PublicState.name)

def RequestedState.toJson (s : RequestedState) : Value := .string s.name
def RequestedState.decoder : Decoder RequestedState :=
  Json.name (namesOf RequestedState.all RequestedState.name)

def ProcessState.toJson (s : ProcessState) : Value := .string s.name
def ProcessState.decoder : Decoder ProcessState :=
  Json.name (namesOf ProcessState.all ProcessState.name)

def SessionState.toJson (s : SessionState) : Value := .string s.name
def SessionState.decoder : Decoder SessionState :=
  Json.name (namesOf SessionState.all SessionState.name)

def SessionAction.toJson (a : SessionAction) : Value := .string a.name
def SessionAction.decoder : Decoder SessionAction :=
  Json.name (namesOf SessionAction.all SessionAction.name)

def ModelField.toJson (f : ModelField) : Value := .string f.name
def ModelField.decoder : Decoder ModelField := Json.name (namesOf ModelField.all ModelField.name)

def ClientRole.toJson (r : ClientRole) : Value := .string r.name
def ClientRole.decoder : Decoder ClientRole := Json.name (namesOf ClientRole.all ClientRole.name)

def ErrorCode.toJson (c : ErrorCode) : Value := .string c.name
def ErrorCode.decoder : Decoder ErrorCode := Json.name (namesOf ErrorCode.all ErrorCode.name)

/-! ## Ids -/

def AppId.toJson (id : AppId) : Value := .string id.text
def AppId.decoder : Decoder AppId := fun site node => AppId.mk <$> Json.text site node

def Uuid.toJson (u : Uuid) : Value := .string u.text

def Uuid.decoder : Decoder Uuid
  | _, .string token => do
    let chars := (← Json.ofRead token.read).toList
    match Uuid.ofChars? chars with
    | some u => .ok u
    | none =>
      let reason := (Uuid.defect chars).message
      Json.fail (.invalidText s!"UUID parsing failed: {reason}")
  | _, node => Json.wrongType "a formatted UUID string" node

def SessionId.toJson (id : SessionId) : Value := id.uuid.toJson
def SessionId.decoder : Decoder SessionId := fun site node =>
  SessionId.mk <$> Uuid.decoder site node

def ClientId.toJson (id : ClientId) : Value := id.uuid.toJson
def ClientId.decoder : Decoder ClientId := fun site node => ClientId.mk <$> Uuid.decoder site node

/-! ## Requests -/

namespace Command

/-- A value tagged with its type. -/
def tag (name : String) (members : List (String × Value)) : Value :=
  .object (("type", .string name) :: members)

def toJson : Command → Value
  | .listApplications => tag "list_applications" []
  | .getApplication id => tag "get_application" [("app_id", id.toJson)]
  | .startApplication id args =>
    tag "start_application" [("app_id", id.toJson), ("args", .strings args)]
  | .stopApplication id => tag "stop_application" [("app_id", id.toJson)]
  | .focusApplication id => tag "focus_application" [("app_id", id.toJson)]
  | .suspendApplication id => tag "suspend_application" [("app_id", id.toJson)]
  | .resumeApplication id => tag "resume_application" [("app_id", id.toJson)]
  | .setExemptFromLifecycle id exempt =>
    tag "set_exempt_from_lifecycle" [("app_id", id.toJson), ("exempt", .bool exempt)]
  | .setStage id stage => tag "set_stage" [("app_id", id.toJson), ("stage", stage.toJson)]
  | .updateScreenshot id => tag "update_screenshot" [("app_id", id.toJson)]
  | .subscribeEvents => tag "subscribe_events" []
  | .unsubscribeEvents => tag "unsubscribe_events" []
  | .getHealth => tag "get_health" []
  | .authorizeSession pid => tag "authorize_session" [("pid", .nat pid)]
  | .sessionStarting session pid =>
    tag "session_starting" [("session_id", session.toJson), ("pid", .nat pid)]
  | .sessionStateChanged session state =>
    tag "session_state_changed" [("session_id", session.toJson), ("state", state.toJson)]
  | .sessionCloseCompleted session =>
    tag "session_close_completed" [("session_id", session.toJson)]
  | .ping => tag "ping" []

/-- The field that names an application. -/
def idField : Fields AppId := Fields.required "app_id" AppId.decoder

/-- The field that names a session. -/
def sessionField : Fields SessionId := Fields.required "session_id" SessionId.decoder

def pidField : Fields Nat := Fields.required "pid" Json.word32

/-- The body of each command, in the order in which they are listed. -/
def bodies : List (String × Json.Body Command) := [
  ("list_applications", .bare .listApplications),
  ("get_application", .fields "struct variant Command::GetApplication"
    (.getApplication <$> idField)),
  ("start_application", .fields "struct variant Command::StartApplication"
    (.startApplication <$> idField <*> Fields.defaulted "args" [] (Json.list Json.text))),
  ("stop_application", .fields "struct variant Command::StopApplication"
    (.stopApplication <$> idField)),
  ("focus_application", .fields "struct variant Command::FocusApplication"
    (.focusApplication <$> idField)),
  ("suspend_application", .fields "struct variant Command::SuspendApplication"
    (.suspendApplication <$> idField)),
  ("resume_application", .fields "struct variant Command::ResumeApplication"
    (.resumeApplication <$> idField)),
  ("set_exempt_from_lifecycle", .fields "struct variant Command::SetExemptFromLifecycle"
    (.setExemptFromLifecycle <$> idField <*> Fields.required "exempt" Json.boolean)),
  ("set_stage", .fields "struct variant Command::SetStage"
    (.setStage <$> idField <*> Fields.required "stage" Stage.decoder)),
  ("update_screenshot", .fields "struct variant Command::UpdateScreenshot"
    (.updateScreenshot <$> idField)),
  ("subscribe_events", .bare .subscribeEvents),
  ("unsubscribe_events", .bare .unsubscribeEvents),
  ("get_health", .bare .getHealth),
  ("authorize_session", .fields "struct variant Command::AuthorizeSession"
    (.authorizeSession <$> pidField)),
  ("session_starting", .fields "struct variant Command::SessionStarting"
    (.sessionStarting <$> sessionField <*> pidField)),
  ("session_state_changed", .fields "struct variant Command::SessionStateChanged"
    (.sessionStateChanged <$> sessionField <*> Fields.required "state" SessionState.decoder)),
  ("session_close_completed", .fields "struct variant Command::SessionCloseCompleted"
    (.sessionCloseCompleted <$> sessionField)),
  ("ping", .bare .ping)]

def decoder : Decoder Command := Json.tagged "internally tagged enum Command" bodies

end Command

namespace Request

def toJson (r : Request) : Value := .object [
  ("request_id", .nat r.requestId), ("api_version", .nat r.apiVersion),
  ("command", r.command.toJson)]

def decoder : Decoder Request := Json.record "struct Request"
  (Request.mk <$> Fields.required "request_id" Json.word64
    <*> Fields.required "api_version" Json.word32
    <*> Fields.required "command" Command.decoder)

/-- The line of a request, without its end. -/
def line (r : Request) : String := r.toJson.text

/-- Reads the line of a request. -/
def ofLine (s : String) : Except Json.Failure Request := Json.decodeText decoder s

end Request

/-! ## Responses -/

namespace ApplicationView

/-- The members of a view, which stand beside the tag where a payload is a view. -/
def members (v : ApplicationView) : List (String × Value) := [
  ("app_id", v.id.toJson), ("name", .string v.name),
  ("comment", .option .string v.comment), ("icon", .option .string v.icon),
  ("state", v.state.toJson), ("internal_state", v.internal.toJson),
  ("requested_state", v.requested.toJson), ("process_state", v.process.toJson),
  ("pid", .nat v.pid), ("focused", .bool v.focused), ("stage", v.stage.toJson),
  ("supported_stages", .array (v.stages.map Stage.toJson)),
  ("supported_orientations", .array (v.orientations.map Orientation.toJson)),
  ("exempt_from_lifecycle", .bool v.exempt), ("can_be_resumed", .bool v.canBeResumed),
  ("screenshot_generation", .nat v.screenshot)]

def toJson (v : ApplicationView) : Value := .object v.members

def fields : Fields ApplicationView :=
  ApplicationView.mk <$> Fields.required "app_id" AppId.decoder
    <*> Fields.required "name" Json.text
    <*> Fields.optional "comment" Json.text
    <*> Fields.optional "icon" Json.text
    <*> Fields.required "state" PublicState.decoder
    <*> Fields.required "internal_state" InternalState.decoder
    <*> Fields.required "requested_state" RequestedState.decoder
    <*> Fields.required "process_state" ProcessState.decoder
    <*> Fields.required "pid" Json.word32
    <*> Fields.required "focused" Json.boolean
    <*> Fields.required "stage" Stage.decoder
    <*> Fields.required "supported_stages" (Json.list Stage.decoder)
    <*> Fields.defaulted "supported_orientations" [] (Json.list Orientation.decoder)
    <*> Fields.required "exempt_from_lifecycle" Json.boolean
    <*> Fields.required "can_be_resumed" Json.boolean
    <*> Fields.required "screenshot_generation" Json.word64

/-- What a view is called in a mismatch. -/
def expected : String := "struct ApplicationView"

def decoder : Decoder ApplicationView := Json.record expected fields

end ApplicationView

namespace HealthStatus

def members (h : HealthStatus) : List (String × Value) := [
  ("live", .bool h.live), ("ready", .bool h.ready),
  ("application_count", .nat h.applicationCount), ("wakelock_held", .bool h.wakelockHeld)]

def toJson (h : HealthStatus) : Value := .object h.members

def fields : Fields HealthStatus :=
  HealthStatus.mk <$> Fields.required "live" Json.boolean
    <*> Fields.required "ready" Json.boolean
    <*> Fields.required "application_count" Json.count
    <*> Fields.required "wakelock_held" Json.boolean

/-- What a health status is called in a mismatch. -/
def expected : String := "struct HealthStatus"

def decoder : Decoder HealthStatus := Json.record expected fields

end HealthStatus

namespace ErrorInfo

def toJson (e : ErrorInfo) : Value :=
  .object [("code", e.code.toJson), ("message", .string e.message)]

def decoder : Decoder ErrorInfo := Json.record "struct ErrorInfo"
  (ErrorInfo.mk <$> Fields.required "code" ErrorCode.decoder
    <*> Fields.required "message" Json.text)

end ErrorInfo

namespace ResponsePayload

def toJson : ResponsePayload → Value
  | .applications views =>
    Command.tag "applications" [("applications", .array (views.map ApplicationView.toJson))]
  | .application view => Command.tag "application" view.members
  | .started view => Command.tag "started" view.members
  | .accepted b => Command.tag "accepted" [("accepted", .bool b)]
  | .authorization b => Command.tag "authorization" [("approved", .bool b)]
  | .sessionAttached id => Command.tag "session_attached" [("app_id", id.toJson)]
  | .subscribed client => Command.tag "subscribed" [("client_id", client.toJson)]
  | .unsubscribed => Command.tag "unsubscribed" []
  | .health status => Command.tag "health" status.members
  | .ack => Command.tag "ack" []
  | .pong => Command.tag "pong" []

def bodies : List (String × Json.Body ResponsePayload) := [
  ("applications", .fields "struct variant ResponsePayload::Applications"
    (.applications <$> Fields.required "applications" (Json.list ApplicationView.decoder))),
  ("application", .fields ApplicationView.expected (.application <$> ApplicationView.fields)),
  ("started", .fields ApplicationView.expected (.started <$> ApplicationView.fields)),
  ("accepted", .fields "struct variant ResponsePayload::Accepted"
    (.accepted <$> Fields.required "accepted" Json.boolean)),
  ("authorization", .fields "struct variant ResponsePayload::Authorization"
    (.authorization <$> Fields.required "approved" Json.boolean)),
  ("session_attached", .fields "struct variant ResponsePayload::SessionAttached"
    (.sessionAttached <$> Fields.required "app_id" AppId.decoder)),
  ("subscribed", .fields "struct variant ResponsePayload::Subscribed"
    (.subscribed <$> Fields.required "client_id" ClientId.decoder)),
  ("unsubscribed", .bare .unsubscribed),
  ("health", .fields HealthStatus.expected (.health <$> HealthStatus.fields)),
  ("ack", .bare .ack),
  ("pong", .bare .pong)]

def decoder : Decoder ResponsePayload :=
  Json.tagged "internally tagged enum ResponsePayload" bodies

end ResponsePayload

namespace Outcome

def toJson : Outcome → Value
  | .ok payload => .object [("ok", payload.toJson)]
  | .err error => .object [("err", error.toJson)]

def decoder : Decoder Outcome :=
  Json.variant [("ok", true), ("err", false)]
    (fun _ => Json.fail (.invalidType .bareName "newtype variant"))
    fun good site node =>
      if good then .ok <$> ResponsePayload.decoder site node
      else .err <$> ErrorInfo.decoder site node

end Outcome

namespace Response

def toJson (r : Response) : Value := .object [
  ("request_id", .nat r.requestId), ("api_version", .nat r.apiVersion),
  ("result", r.result.toJson)]

def decoder : Decoder Response := Json.record "struct Response"
  (Response.mk <$> Fields.required "request_id" Json.word64
    <*> Fields.required "api_version" Json.word32
    <*> Fields.required "result" Outcome.decoder)

/-- The line of a response, without its end. -/
def line (r : Response) : String := r.toJson.text

/-- Reads the line of a response. -/
def ofLine (s : String) : Except Json.Failure Response := Json.decodeText decoder s

end Response

/-! ## Events -/

namespace EventPayload

def toJson : EventPayload → Value
  | .applicationAdded index id =>
    Command.tag "application_added" [("index", .nat index), ("app_id", id.toJson)]
  | .applicationRemoved index id =>
    Command.tag "application_removed" [("index", .nat index), ("app_id", id.toJson)]
  | .applicationMoved source target =>
    Command.tag "application_moved" [("from", .nat source), ("to", .nat target)]
  | .countChanged count => Command.tag "count_changed" [("count", .nat count)]
  | .focusChanged id => Command.tag "focus_changed" [("app_id", .option AppId.toJson id)]
  | .fieldChanged id field =>
    Command.tag "field_changed" [("app_id", id.toJson), ("field", field.toJson)]
  | .focusRequested id => Command.tag "focus_requested" [("app_id", id.toJson)]
  | .sessionRequest session action =>
    Command.tag "session_request" [("session_id", session.toJson), ("action", action.toJson)]
  | .shutdown => Command.tag "shutdown" []

def indexField : Fields Nat := Fields.required "index" Json.count

def bodies : List (String × Json.Body EventPayload) := [
  ("application_added", .fields "struct variant EventPayload::ApplicationAdded"
    (.applicationAdded <$> indexField <*> Command.idField)),
  ("application_removed", .fields "struct variant EventPayload::ApplicationRemoved"
    (.applicationRemoved <$> indexField <*> Command.idField)),
  ("application_moved", .fields "struct variant EventPayload::ApplicationMoved"
    (.applicationMoved <$> Fields.required "from" Json.count
      <*> Fields.required "to" Json.count)),
  ("count_changed", .fields "struct variant EventPayload::CountChanged"
    (.countChanged <$> Fields.required "count" Json.count)),
  ("focus_changed", .fields "struct variant EventPayload::FocusChanged"
    (.focusChanged <$> Fields.optional "app_id" AppId.decoder)),
  ("field_changed", .fields "struct variant EventPayload::FieldChanged"
    (.fieldChanged <$> Command.idField <*> Fields.required "field" ModelField.decoder)),
  ("focus_requested", .fields "struct variant EventPayload::FocusRequested"
    (.focusRequested <$> Command.idField)),
  ("session_request", .fields "struct variant EventPayload::SessionRequest"
    (.sessionRequest <$> Command.sessionField
      <*> Fields.required "action" SessionAction.decoder)),
  ("shutdown", .bare .shutdown)]

def decoder : Decoder EventPayload := Json.tagged "internally tagged enum EventPayload" bodies

end EventPayload

namespace Event

def toJson (e : Event) : Value := .object [
  ("api_version", .nat e.apiVersion), ("timestamp", .string e.timestamp),
  ("payload", e.payload.toJson)]

def decoder : Decoder Event := Json.record "struct Event"
  (Event.mk <$> Fields.required "api_version" Json.word32
    <*> Fields.required "timestamp" Json.text
    <*> Fields.required "payload" EventPayload.decoder)

/-- The line of an event, without its end. -/
def line (e : Event) : String := e.toJson.text

end Event

/-! ## Clients -/

namespace ClientInfo

def toJson (c : ClientInfo) : Value := .object [
  ("client_id", c.clientId.toJson), ("role", c.role.toJson),
  ("uid", .option .nat c.uid), ("pid", .option .nat c.pid)]

def decoder : Decoder ClientInfo := Json.record "struct ClientInfo"
  (ClientInfo.mk <$> Fields.required "client_id" ClientId.decoder
    <*> Fields.required "role" ClientRole.decoder
    <*> Fields.optional "uid" Json.word32
    <*> Fields.optional "pid" Json.word32)

end ClientInfo

end AppLifecycle
