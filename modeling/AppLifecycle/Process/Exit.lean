import AppLifecycle.Json.Value
import AppLifecycle.Process.Signal

/-!
# How processes end

A process ends of itself, with a code, or it is ended by a signal.
-/

namespace AppLifecycle

open Json (Value)

inductive ProcessExit where
  | code (code : Nat)
  | signal (signal : Signal)
deriving DecidableEq, Repr

namespace ProcessExit

def code? : ProcessExit → Option Nat
  | .code n => some n
  | .signal _ => none

def signal? : ProcessExit → Option Signal
  | .code _ => none
  | .signal s => some s

def isSuccess (e : ProcessExit) : Bool := e = .code 0

/-- An optional number in a diagnostic. -/
def describeNumber : Option Nat → String
  | none => "None"
  | some n => s!"Some({n})"

/-- An end in a diagnostic. -/
def describe (e : ProcessExit) : String :=
  "ProcessExit \x7b code: " ++ describeNumber e.code? ++ ", signal: " ++
    describeNumber (e.signal?.map Signal.number) ++ " \x7d"

/-- The code and the signal; one of them is null. -/
def members (e : ProcessExit) : List (String × Value) :=
  [("code", .option Value.nat e.code?), ("signal", .option (fun s => .nat s.number) e.signal?)]

def toJson (e : ProcessExit) : Value :=
  .object (e.members ++ [("success", .bool e.isSuccess)])

end ProcessExit

end AppLifecycle
