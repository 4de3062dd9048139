/-!
# Signals

What one process can send another, by number and by name, and what a signal does to a process that
has made no provision for it.
-/

namespace AppLifecycle

structure Signal where
  number : Nat
deriving DecidableEq, Repr

/-- What a signal does. -/
inductive Disposition where
  | ends
  | stops
  | continues
  | ignored
deriving DecidableEq, Repr

namespace Signal

def interrupt : Signal := ⟨2⟩
def quit : Signal := ⟨3⟩
def kill : Signal := ⟨9⟩
def terminate : Signal := ⟨15⟩
def childEnded : Signal := ⟨17⟩
def continue_ : Signal := ⟨18⟩
def stop : Signal := ⟨19⟩
def urgent : Signal := ⟨23⟩
def resized : Signal := ⟨28⟩

/-- The names of the signals, from number 1 on. -/
def names : List String := [
  "HUP", "INT", "QUIT", "ILL", "TRAP", "ABRT", "BUS", "FPE", "KILL", "USR1", "SEGV", "USR2", "PIPE",
  "ALRM", "TERM", "STKFLT", "CHLD", "CONT", "STOP", "TSTP", "TTIN", "TTOU", "URG", "XCPU", "XFSZ",
  "VTALRM", "PROF", "WINCH", "IO", "PWR", "SYS"]

/-- The signal of a name. -/
def ofName? (name : String) : Option Signal := (names.idxOf? name).map fun i => ⟨i + 1⟩

/-- What a signal does to a process that has made no provision for it. -/
def disposition (s : Signal) : Disposition :=
  if s = continue_ then .continues
  else if stop.number ≤ s.number ∧ s.number ≤ 22 then .stops
  else if s = childEnded ∨ s = urgent ∨ s = resized then .ignored
  else .ends

/-- Whether a process can make provision for a signal. -/
def isMild (s : Signal) : Bool := s ≠ kill ∧ s ≠ stop

end Signal

end AppLifecycle
