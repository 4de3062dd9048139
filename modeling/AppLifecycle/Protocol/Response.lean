import AppLifecycle.Protocol.Command

/-!
# Responses

What the daemon answers: a payload, or an error with a code and a message.
-/

namespace AppLifecycle

/-- An application as shells and observers see it. -/
structure ApplicationView where
  id : AppId
  name : String
  comment : Option String
  icon : Option String
  state : PublicState
  internal : InternalState
  requested : RequestedState
  process : ProcessState
  pid : Nat
  focused : Bool
  stage : Stage
  stages : List Stage
  orientations : List Orientation
  exempt : Bool
  canBeResumed : Bool
  screenshot : Nat
deriving DecidableEq

/-- How the daemon fares. -/
structure HealthStatus where
  live : Bool
  ready : Bool
  applicationCount : Nat
  wakelockHeld : Bool
deriving DecidableEq

inductive ErrorCode where
  | invalidRequest
  | alreadyRunning
  | launchFailed
  | invalidMetadata
  | notFound
  | unauthorized
  | unsupportedStage
  | permissionDenied
  | rateLimited
  | internalError
deriving DecidableEq, Repr

namespace ErrorCode

def all : List ErrorCode :=
  [.invalidRequest, .alreadyRunning, .launchFailed, .invalidMetadata, .notFound, .unauthorized,
    .unsupportedStage, .permissionDenied, .rateLimited, .internalError]

def name : ErrorCode → String
  | .invalidRequest => "invalid_request"
  | .alreadyRunning => "already_running"
  | .launchFailed => "launch_failed"
  | .invalidMetadata => "invalid_metadata"
  | .notFound => "not_found"
  | .unauthorized => "unauthorized"
  | .unsupportedStage => "unsupported_stage"
  | .permissionDenied => "permission_denied"
  | .rateLimited => "rate_limited"
  | .internalError => "internal_error"

end ErrorCode

structure ErrorInfo where
  code : ErrorCode
  message : String
deriving DecidableEq

inductive ResponsePayload where
  /-- The applications in focus order, front first. -/
  | applications (views : List ApplicationView)
  | application (view : ApplicationView)
  | started (view : ApplicationView)
  | accepted (accepted : Bool)
  | authorization (approved : Bool)
  | sessionAttached (id : AppId)
  | subscribed (client : ClientId)
  | unsubscribed
  | health (status : HealthStatus)
  | ack
  | pong
deriving DecidableEq

/-- What became of a request. -/
inductive Outcome where
  | ok (payload : ResponsePayload)
  | err (error : ErrorInfo)
deriving DecidableEq

structure Response where
  requestId : Nat
  apiVersion : Nat
  result : Outcome
deriving DecidableEq

namespace Response

def success (requestId : Nat) (payload : ResponsePayload) : Response :=
  ⟨requestId, AppLifecycle.apiVersion, .ok payload⟩

def error (requestId : Nat) (error : ErrorInfo) : Response :=
  ⟨requestId, AppLifecycle.apiVersion, .err error⟩

end Response

end AppLifecycle
