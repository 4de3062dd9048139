import AppLifecycle.Host
import AppLifecycle.Process.Exit

/-!
# The process controller

The controller launches the applications of a catalog, at most one process for each, and reports
what becomes of them. A launch has two steps, the process is tracked and then its start is
announced, and so has a look at the processes: those that have ended are collected, and then their
ends are reported one by one. Other steps may come in between.
-/

namespace AppLifecycle

/-- A process of an application. -/
structure Tracked where
  id : AppId
  pid : Nat
  started : Instant
  /-- It was asked to end, so it does not fail any more. -/
  stopping : Bool
deriving DecidableEq

structure Controller where
  /-- Of several applications with one id the last one counts. -/
  catalog : List Descriptor
  /-- A process that fails before it is this old fails during startup. -/
  grace : Duration
  tracked : List Tracked
  /-- The processes whose start has not been announced, oldest first. -/
  unannounced : List AppId
  /-- The ends that have been collected and not been reported, oldest first. -/
  collected : List ProcessEvent
  /-- The events that were sent, oldest first. -/
  stream : List ProcessEvent

namespace Controller

def start (catalog : List Descriptor) (grace : Duration) : Controller :=
  ⟨catalog, grace, [], [], [], []⟩

def find (c : Controller) (id : AppId) : Option Descriptor := c.catalog.reverse.find? (·.id = id)

def tracked? (c : Controller) (id : AppId) : Option Tracked := c.tracked.find? (·.id = id)

/-! ## Launches -/

/-- The application that may be launched: it is known and has no process. -/
def launchable (c : Controller) (id : AppId) : Except HostError Descriptor :=
  match c.find id, c.tracked? id with
  | none, _ => .error (.unknownApplication id)
  | some _, some t => .error (.launchFailed s!"{id.text} already has process {t.pid}")
  | some d, none => .ok d

/-- A process that was launched is tracked from now on. -/
def track (c : Controller) (id : AppId) (pid : Nat) (now : Instant) : Controller :=
  { c with
    tracked := c.tracked ++ [⟨id, pid, now, false⟩]
    unannounced := c.unannounced ++ [id] }

/-- A start is announced. -/
def announce (c : Controller) (id : AppId) : Controller :=
  if id ∈ c.unannounced then
    { c with unannounced := c.unannounced.erase id, stream := c.stream ++ [.starting id] }
  else c

/-! ## Requests -/

/-- The process that is to be asked to end. -/
def stoppable (c : Controller) (id : AppId) : Except HostError Tracked :=
  match c.tracked? id with
  | none => .error (.stopFailed s!"No process for {id.text}")
  | some t => .ok t

/-- The process of an application is asked to end. -/
def markStopping (c : Controller) (id : AppId) : Controller :=
  { c with tracked := c.tracked.map fun t => if t.id = id then { t with stopping := true } else t }

/-- The process of an application, if there is one, has been suspended. -/
def suspended (c : Controller) (id : AppId) : Controller :=
  if (c.tracked? id).isSome then { c with stream := c.stream ++ [.suspended id] } else c

/-! ## Ends -/

/-- What the end of a process means. -/
def exitEvent (c : Controller) (now : Instant) (t : Tracked) (exit : ProcessExit) : ProcessEvent :=
  if t.stopping || exit.isSuccess then .stopped t.id
  else .failed t.id ((now.since t.started).nanos < c.grace.nanos)

/-- The processes that have ended are collected and not tracked any more. -/
def collect (c : Controller) (exits : Nat → Option ProcessExit) (now : Instant) : Controller :=
  { c with
    tracked := c.tracked.filter fun t => (exits t.pid).isNone
    collected := c.collected ++ c.tracked.filterMap fun t => (exits t.pid).map (c.exitEvent now t) }

/-- The oldest end that was collected is reported. -/
def reportNext (c : Controller) : Controller :=
  match c.collected with
  | [] => c
  | event :: collected => { c with collected, stream := c.stream ++ [event] }

/-! ## Schedules -/

/-- A step of one of those who take turns. -/
inductive Step where
  /-- A launch has succeeded; an application has one process at most. -/
  | track (id : AppId) (pid : Nat) (now : Instant)
  | announce (id : AppId)
  | stop (id : AppId)
  | suspend (id : AppId)
  | collect (exits : Nat → Option ProcessExit) (now : Instant)
  | report

/-- Takes a step. -/
def step (c : Controller) : Step → Controller
  | .track id pid now =>
    match c.launchable id with
    | .ok _ => c.track id pid now
    | .error _ => c
  | .announce id => c.announce id
  | .stop id => c.markStopping id
  | .suspend id => c.suspended id
  | .collect exits now => c.collect exits now
  | .report => c.reportNext

/-- The events since they were last taken. -/
def takeStream (c : Controller) : List ProcessEvent × Controller :=
  (c.stream, { c with stream := [] })

end Controller

end AppLifecycle
