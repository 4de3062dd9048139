import AppLifecycle.Registry.Basic

/-!
# Operations

Everything that can be done to a registry or to a record from outside, as data: a run is a list of
operations with the answers of the machine.
-/

namespace AppLifecycle

/-- An operation of a registry. -/
inductive Operation where
  | start (id : AppId) (args : List String)
  | stop (id : AppId)
  | focus (id : AppId)
  | suspend (id : AppId)
  | resume (id : AppId)
  | setExempt (id : AppId) (exempt : Bool)
  | setStage (id : AppId) (stage : Stage)
  | updateScreenshot (id : AppId)
  | tick (now : Instant)
  | process (event : ProcessEvent)
  | authorize (pid : Nat)
  | sessionStarting (session : Session)
  | sessionState (session : SessionId) (state : SessionState)
  | sessionClosed (session : SessionId)
deriving DecidableEq

/-- What an operation answers. -/
inductive OperationResult where
  | silent
  | verdict (yes : Bool)
  | outcome (result : Except LifecycleError Unit)
  | started (result : Except LifecycleError ApplicationView)
  | attached (result : Except LifecycleError (Option AppId))

namespace Registry

/-- An answer in its form as data. -/
def told {α : Type} (f : α → OperationResult) (r : α × Registry) : OperationResult × Registry :=
  (f r.1, r.2)

/-- Carries out an operation. -/
def perform (host : Host) (op : Operation) (reg : Registry) : OperationResult × Registry :=
  match op with
  | .start id args => told .started (reg.startApplication host id args)
  | .stop id => told .outcome (reg.stopApplication host id)
  | .focus id => told .outcome (reg.moveToFocusFront id)
  | .suspend id => told .verdict (reg.suspendApplication host id)
  | .resume id => told .verdict (reg.resumeApplication host id)
  | .setExempt id exempt => told .outcome (reg.setExemptFromLifecycle host id exempt)
  | .setStage id stage => told .outcome (reg.setStage id stage)
  | .updateScreenshot id => told .outcome (reg.updateScreenshot id)
  | .tick now => (.silent, reg.tick host now)
  | .process event => (.silent, reg.handleProcessEvent host event)
  | .authorize pid => told .verdict (reg.authorizeSession host pid)
  | .sessionStarting session => told .attached (reg.sessionStarting session)
  | .sessionState session state => (.silent, reg.sessionStateChanged host session state)
  | .sessionClosed session => (.silent, reg.sessionCloseCompleted host session)

/-- Carries out operations in turn, each with the answers it gets. -/
def performAll (reg : Registry) (ops : List (Host × Operation)) : Registry :=
  ops.foldl (fun reg (host, op) => (reg.perform host op).2) reg

end Registry

/-- An operation of a record. -/
inductive RecordOperation where
  | setPid (pid : Nat)
  | request (state : RequestedState)
  | process (state : ProcessState)
  | session (state : SessionState)
  | attach (session : Session)
  | detach
  | setExempt (exempt : Bool)
  | setStage (stage : Stage)
  | updateScreenshot
  | close
  | tick (now : Instant)
deriving DecidableEq

namespace Scene

/-- Carries out an operation; a verdict is given on a choice of stage and on a tick. -/
def perform (host : Host) (op : RecordOperation) (s : Scene) : Option Bool × Scene :=
  match op with
  | .setPid pid => (none, s.setPid pid)
  | .request state => (none, s.request host state)
  | .process state => (none, s.onProcess host state)
  | .session state => (none, s.onSession host state)
  | .attach session => (none, s.attach session)
  | .detach => (none, s.detach)
  | .setExempt exempt => (none, s.setExempt host exempt)
  | .setStage stage => Prod.map some id (s.setStage stage)
  | .updateScreenshot => (none, s.updateScreenshot)
  | .close => (none, s.close host)
  | .tick now => Prod.map some id (s.tick host now)

end Scene

end AppLifecycle
