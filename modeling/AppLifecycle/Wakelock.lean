/-!
# The shared wakelock

The device is kept awake while at least one owner wants it. The system's lock is taken at the first
request and given back as soon as nobody wants it any more. The system may refuse; the next request
tries again.
-/

namespace AppLifecycle

/-- Who wants the device to stay awake. -/
structure WakelockOwner where
  number : Nat
deriving DecidableEq, Repr

/-- The system's answers: whether it grants the attempt of a number. -/
abbrev WakelockGrants := Nat → Bool

structure Wakelock where
  /-- Those who want it, each once. -/
  owners : List WakelockOwner
  /-- Whether the system's lock is held. -/
  held : Bool
  /-- How often the system was asked. -/
  attempts : Nat
  /-- How often it granted. -/
  grants : Nat
  /-- How often its lock was given back. -/
  releases : Nat
deriving DecidableEq, Repr

namespace Wakelock

/-- A wakelock that nobody wants yet. -/
def idle : Wakelock := ⟨[], false, 0, 0, 0⟩

/-- Asks the system for its lock, unless it is held. -/
def obtain (granted : WakelockGrants) (w : Wakelock) : Wakelock :=
  if w.held then w
  else if granted w.attempts then
    { w with held := true, attempts := w.attempts + 1, grants := w.grants + 1 }
  else { w with attempts := w.attempts + 1 }

/-- Gives the system's lock back, if it is held. -/
def relinquish (w : Wakelock) : Wakelock :=
  if w.held then { w with held := false, releases := w.releases + 1 } else w

/-- `owner` wants the device to stay awake. -/
def acquire (granted : WakelockGrants) (owner : WakelockOwner) (w : Wakelock) : Wakelock :=
  ({ w with owners := w.owners.insert owner }).obtain granted

/-- `owner` does not mind any more. -/
def release (owner : WakelockOwner) (w : Wakelock) : Wakelock :=
  if owner ∈ w.owners then
    let left := { w with owners := w.owners.erase owner }
    if left.owners.isEmpty then left.relinquish else left
  else w

def isOwner (w : Wakelock) (owner : WakelockOwner) : Bool := w.owners.contains owner

/-- The last one who shares the wakelock lets go of it. -/
def drop (w : Wakelock) : Wakelock := { w.relinquish with owners := [] }

/-- The wakelock in a diagnostic. -/
def describe (w : Wakelock) : String :=
  "SharedWakelock \x7b owners: " ++ toString w.owners.length ++ ", held: " ++ toString w.held ++
    " \x7d"

end Wakelock

end AppLifecycle
