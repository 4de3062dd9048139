/-!
# Durations and instants

Both are whole nanoseconds. A duration is shown in milliseconds below one second, in whole seconds
where there is no part of a second worth a millisecond, and otherwise in seconds with one decimal
place.
-/

namespace AppLifecycle

structure Duration where
  nanos : Nat
deriving DecidableEq, Repr

/-- A point in time, as the time since a fixed origin. -/
structure Instant where
  nanos : Nat
deriving DecidableEq, Repr

namespace Duration

def zero : Duration := ⟨0⟩

def ofMillis (n : Nat) : Duration := ⟨n * 1000000⟩

def ofSeconds (n : Nat) : Duration := ⟨n * 1000000000⟩

/-- Whole milliseconds. -/
def millis (d : Duration) : Nat := d.nanos / 1000000

/-- Whole seconds. -/
def seconds (d : Duration) : Nat := d.nanos / 1000000000

/-- The nanoseconds beside the whole seconds. -/
def subsecond (d : Duration) : Nat := d.nanos % 1000000000

instance : LE Duration := ⟨fun a b => a.nanos ≤ b.nanos⟩

instance (a b : Duration) : Decidable (a ≤ b) := inferInstanceAs (Decidable (a.nanos ≤ b.nanos))

/-! ## Seconds as a binary number

The decimal place is that of the seconds as a binary number with 53 significant digits, so a
duration halfway between two decimals may go either way.
-/

/-- `num / den` rounded to the nearest whole number, a half to the even one. -/
def roundHalfEven (num den : Nat) : Nat :=
  let below := num / den
  let rest := num % den
  if 2 * rest < den || (2 * rest = den && below % 2 = 0) then below else below + 1

/-- Binary numbers are counted in units of `2 ^ -128`. -/
def binaryOne : Nat := Nat.pow 2 128

/-- `num / den`, rounded to 53 significant binary digits. -/
def toBinary (num den : Nat) : Nat :=
  let units := num * binaryOne / den
  if units = 0 then 0
  else
    let step := Nat.pow 2 (Nat.log2 units - 52)
    roundHalfEven (num * binaryOne) (den * step) * step

/-- The seconds: the whole seconds and the part of a second are rounded, and then their sum. -/
def binarySeconds (d : Duration) : Nat :=
  toBinary (toBinary d.seconds 1 + toBinary d.subsecond 1000000000) binaryOne

/-- The duration in words. -/
def text (d : Duration) : String :=
  if d.seconds = 0 then s!"{d.millis}ms"
  else if d.subsecond / 1000000 = 0 then s!"{d.seconds}s"
  else
    let tenths := roundHalfEven (d.binarySeconds * 10) binaryOne
    s!"{tenths / 10}.{tenths % 10}s"

end Duration

namespace Instant

/-- Time passed from `earlier` to `now`, or none if `earlier` is not earlier. -/
def since (now earlier : Instant) : Duration := ⟨now.nanos - earlier.nanos⟩

def add (t : Instant) (d : Duration) : Instant := ⟨t.nanos + d.nanos⟩

instance : LE Instant := ⟨fun a b => a.nanos ≤ b.nanos⟩

instance (a b : Instant) : Decidable (a ≤ b) := inferInstanceAs (Decidable (a.nanos ≤ b.nanos))

instance : LT Instant := ⟨fun a b => a.nanos < b.nanos⟩

instance (a b : Instant) : Decidable (a < b) := inferInstanceAs (Decidable (a.nanos < b.nanos))

end Instant

end AppLifecycle
