import AppLifecycle.Protocol.Wire

/-!
# Endpoints

A server listens on sockets. It runs once, and only if there is a socket to listen on.
-/

namespace AppLifecycle

/-- Why a client or a server gives up. -/
inductive ConnectionError where
  | inputOutput (reason : String)
  | json (failure : Json.Failure)
  | closed
  | unexpectedResponse (requestId : Nat)
  | server (reason : String)

/-- An error in words. -/
def ConnectionError.message : ConnectionError → String
  | .inputOutput reason => s!"IO error: {reason}"
  | .json failure => s!"JSON error: {failure.message}"
  | .closed => "Connection closed"
  | .unexpectedResponse requestId =>
    s!"Invalid message: Unexpected response to request {requestId}"
  | .server reason => s!"Server error: {reason}"

/-- How far a server has come. -/
inductive Listening where
  | unbound
  /-- There is a socket at least. -/
  | bound
  | running
deriving DecidableEq

/-- Begins to accept connections. -/
def Listening.run : Listening → Except ConnectionError Listening
  | .unbound => .error (.server "No endpoint bound")
  | .bound => .ok .running
  | .running => .error (.server "Server already running")

end AppLifecycle
