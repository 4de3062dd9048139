import AppLifecycle.Host
import AppLifecycle.SystemError

/-!
# Asking a foreign process to end

A process that the daemon has not started is asked to end by a signal to its whole group, if it
leads one, and by a signal to itself otherwise. The system takes one signed number to say whom a
signal is for: a process by its number, a group by the number of its leader with a minus sign.
-/

namespace AppLifecycle

/-- Whom a signal is for, as the system is told. -/
abbrev Addressee := Int32

/-- The system's answers. -/
structure SignalAnswers where
  /-- The group of a process that there is. -/
  groupOf : Int32 → Option Int32
  /-- The outcome of the request to end. -/
  send : Addressee → Except SystemError Unit

/-- The requests to end that were sent, oldest first, and what came of them. -/
structure Termination where
  sent : List Addressee
  result : Except HostError Unit

namespace Termination

/-- Why a process could not be asked to end. -/
def refusal (pid : UInt32) : SystemError → HostError
  | .noSuchProcess => .noSuchProcess pid.toNat
  | .notPermitted => .permissionDenied s!"Not allowed to signal {pid}"
  | e => .stopFailed s!"Failed to send SIGTERM: {e.message}"

/-- Asks the process itself. -/
def ofProcess (answers : SignalAnswers) (pid : UInt32) : Termination :=
  ⟨[pid.toInt32], (answers.send pid.toInt32).mapError (refusal pid)⟩

/-- Asks the group of the process if it leads one, and the process itself if that fails. -/
def ofPid (answers : SignalAnswers) (pid : UInt32) : Termination :=
  if answers.groupOf pid.toInt32 = some pid.toInt32 then
    match answers.send (-pid.toInt32) with
    | .ok () => ⟨[-pid.toInt32], .ok ()⟩
    | .error _ =>
      let alone := ofProcess answers pid
      { alone with sent := -pid.toInt32 :: alone.sent }
  else ofProcess answers pid

end Termination

end AppLifecycle
