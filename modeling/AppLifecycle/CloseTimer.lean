import AppLifecycle.Time

/-!
# The close timer

Bounds how long an application may take to close once its session has been asked to.
-/

namespace AppLifecycle

structure CloseTimer where
  timeout : Duration
  deadline : Option Instant
deriving DecidableEq, Repr

namespace CloseTimer

def new (timeout : Duration) : CloseTimer := ⟨timeout, none⟩

def isArmed (t : CloseTimer) : Bool := t.deadline.isSome

def arm (t : CloseTimer) (now : Instant) : CloseTimer :=
  { t with deadline := some (now.add t.timeout) }

def cancel (t : CloseTimer) : CloseTimer := { t with deadline := none }

/-- Whether the deadline has been reached; a timer that fires is disarmed. -/
def poll (t : CloseTimer) (now : Instant) : Bool × CloseTimer :=
  match t.deadline with
  | some deadline => if deadline ≤ now then (true, t.cancel) else (false, t)
  | none => (false, t)

/-- The time left, if the timer is armed. -/
def remaining (t : CloseTimer) (now : Instant) : Option Duration :=
  t.deadline.map fun deadline => deadline.since now

end CloseTimer

end AppLifecycle
