import AppLifecycle.AppId
import AppLifecycle.Stage
import AppLifecycle.State
import AppLifecycle.Uuid

/-!
# Commands and roles

What clients ask of the daemon, and which of them may ask for it.
-/

namespace AppLifecycle

/-- What a client may do. -/
inductive ClientRole where
  /-- Starts, stops and arranges applications. -/
  | shell
  /-- Owns graphical sessions. -/
  | compositor
  /-- Looks on. -/
  | observer
deriving DecidableEq, Repr

namespace ClientRole

def all : List ClientRole := [.shell, .compositor, .observer]

def name : ClientRole → String
  | .shell => "shell"
  | .compositor => "compositor"
  | .observer => "observer"

/-- The name in diagnostics. -/
def label : ClientRole → String
  | .shell => "Shell"
  | .compositor => "Compositor"
  | .observer => "Observer"

def canControl (r : ClientRole) : Bool := r = .shell

def canManageSessions (r : ClientRole) : Bool := r = .compositor

end ClientRole

inductive Command where
  | listApplications
  | getApplication (id : AppId)
  | startApplication (id : AppId) (args : List String)
  | stopApplication (id : AppId)
  | focusApplication (id : AppId)
  | suspendApplication (id : AppId)
  | resumeApplication (id : AppId)
  | setExemptFromLifecycle (id : AppId) (exempt : Bool)
  | setStage (id : AppId) (stage : Stage)
  | updateScreenshot (id : AppId)
  | subscribeEvents
  | unsubscribeEvents
  | getHealth
  /-- May the process open a session? -/
  | authorizeSession (pid : Nat)
  | sessionStarting (session : SessionId) (pid : Nat)
  | sessionStateChanged (session : SessionId) (state : SessionState)
  | sessionCloseCompleted (session : SessionId)
  | ping
deriving DecidableEq

namespace Command

/-- Commands about sessions, which are for compositors. -/
def isCompositorCommand : Command → Bool
  | .authorizeSession .. => true
  | .sessionStarting .. => true
  | .sessionStateChanged .. => true
  | .sessionCloseCompleted .. => true
  | _ => false

/-- Commands that change applications, which are for shells. -/
def isControlCommand : Command → Bool
  | .startApplication .. => true
  | .stopApplication .. => true
  | .focusApplication .. => true
  | .suspendApplication .. => true
  | .resumeApplication .. => true
  | .setExemptFromLifecycle .. => true
  | .setStage .. => true
  | .updateScreenshot .. => true
  | _ => false

end Command

/-- A command with the number under which its answer is expected. -/
structure Request where
  requestId : Nat
  apiVersion : Nat
  command : Command
deriving DecidableEq

/-- The version of the protocol. -/
def apiVersion : Nat := 1

/-- A client and what is known of it. -/
structure ClientInfo where
  clientId : ClientId
  role : ClientRole
  uid : Option Nat
  pid : Option Nat
deriving DecidableEq

end AppLifecycle
