import AppLifecycle.Policy.Json
import AppLifecycle.Registry.Json
import AppLifecycle.Registry.Operation
import AppLifecycle.Rehearsal.Script

/-!
# Rehearsed operations

The operations of records and registries as steps of a rehearsal.
-/

namespace AppLifecycle

open Json (Value Fields)
open Rehearsal

/-- The operation of a record that a step stands for. -/
def RecordOperation.ofStep? (s : Script) : Value → Option RecordOperation := Json.step? "do" [
  ("set_pid", Json.step (.setPid <$> pidField)),
  ("request", Json.step (.request <$> Fields.required "state" RequestedState.decoder)),
  ("process", Json.step (.process <$> Fields.required "state" ProcessState.decoder)),
  ("session_event", Json.step (.session <$> sessionStateField)),
  ("attach", Json.step (.attach <$> s.sessionField)),
  ("detach", .bare .detach),
  ("set_exempt", Json.step (.setExempt <$> Fields.required "exempt" Json.boolean)),
  ("set_stage", Json.step (.setStage <$> Fields.required "stage" Stage.decoder)),
  ("screenshot", .bare .updateScreenshot),
  ("close", .bare .close),
  ("tick", Json.step (.tick <$> instantField "ms"))]

/-- The operation of a registry that a step stands for. -/
def Operation.ofStep? (s : Script) (v : Value) : Option Operation :=
  (Json.step? "do" [
    ("start", Json.step (.start <$> idField <*> argsField)),
    ("stop", Json.step (.stop <$> idField)),
    ("focus", Json.step (.focus <$> idField)),
    ("suspend", Json.step (.suspend <$> idField)),
    ("resume", Json.step (.resume <$> idField)),
    ("set_exempt", Json.step (.setExempt <$> idField <*> Fields.required "exempt" Json.boolean)),
    ("set_stage", Json.step (.setStage <$> idField <*> Fields.required "stage" Stage.decoder)),
    ("screenshot", Json.step (.updateScreenshot <$> idField)),
    ("tick", Json.step (.tick <$> instantField "ms")),
    ("authorize", Json.step (.authorize <$> pidField)),
    ("session_starting", Json.step (.sessionStarting <$> s.sessionField)),
    ("session_state", Json.step
      ((fun x state => .sessionState x.id state) <$> s.sessionField <*> sessionStateField)),
    ("session_closed", Json.step ((fun x => .sessionClosed x.id) <$> s.sessionField))] v).or
  ((ProcessEvent.ofStep? v).map .process)

/-- A step in which a session also begins to report the state that the registry is told. -/
def Script.reported (s : Script) (v : Value) : Script :=
  (Json.step? "do" [("session_state", Json.step
    ((fun label state report => if report then s.report label state else s) <$> labelField
      <*> sessionStateField <*> Fields.defaulted "report" true Json.boolean))] v).getD s

def LifecycleError.toJson (e : LifecycleError) : Value :=
  .object [("error", .string e.kind), ("message", .string e.message)]

def OperationResult.toJson : OperationResult → Value
  | .silent => .null
  | .verdict yes => .bool yes
  | .outcome (.ok ()) => .string "ok"
  | .started (.ok view) => view.toJson
  | .attached (.ok id) => .object [("attached", .option AppId.toJson id)]
  | .outcome (.error e) => e.toJson
  | .started (.error e) => e.toJson
  | .attached (.error e) => e.toJson

/-- What the effects of a step are shown as. -/
def Effect.members (s : Script) (journal : List Effect) : List (String × Value) :=
  [("calls", Effect.calls journal), ("actions", Effect.actions s.label journal),
    ("errors", Effect.incidents journal)]

end AppLifecycle
