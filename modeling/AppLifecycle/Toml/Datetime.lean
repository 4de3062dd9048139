import AppLifecycle.Toml.Scalar

/-!
# Dates and times of TOML documents

A date, a time of day, or both, with or without an offset. No setting is a date, so all that is kept
of one is its text in a fixed form.
-/

namespace AppLifecycle.Toml

structure Date where
  year : Nat
  month : Nat
  day : Nat

structure TimeOfDay where
  hour : Nat
  minute : Nat
  second : Nat
  /-- The digits behind the point, nine at most. -/
  fraction : List Char

/-- How far a clock is from the common time. -/
inductive Offset where
  | zero
  | minutes (negative : Bool) (count : Nat)

structure Datetime where
  date : Option Date
  time : Option TimeOfDay
  offset : Option Offset

namespace Datetime

/-! ## Reading -/

/-- The value of a digit. -/
def digit? (c : Char) : Option Nat := if c.isDigit then some (c.toNat - 48) else none

/-- Reads a number of so many digits behind another one. -/
def readDigits : Nat → Nat → List Char → Option (Nat × List Char)
  | 0, n, s => some (n, s)
  | _ + 1, _, [] => none
  | count + 1, n, c :: s => do readDigits count (n * 10 + (← digit? c)) s

/-- Reads a number of two digits within bounds. -/
def readPair (least greatest : Nat) (s : List Char) : Option (Nat × List Char) := do
  let (n, s) ← readDigits 2 0 s
  if least ≤ n ∧ n ≤ greatest then return (n, s) else none

/-- Reads one character. -/
def readMark (mark : Char) : List Char → Option (List Char)
  | c :: s => if c = mark then some s else none
  | [] => none

def isLeap (year : Nat) : Bool := year % 4 = 0 && (year % 100 ≠ 0 || year % 400 = 0)

/-- The length of a month. -/
def daysIn (year month : Nat) : Nat :=
  if month = 2 then (if isLeap year then 29 else 28)
  else if month = 4 ∨ month = 6 ∨ month = 9 ∨ month = 11 then 30
  else 31

def readDate (s : List Char) : Option (Date × List Char) := do
  let (year, s) ← readDigits 4 0 s
  let (month, s) ← readPair 1 12 (← readMark '-' s)
  let (day, s) ← readPair 1 31 (← readMark '-' s)
  if day ≤ daysIn year month then return (⟨year, month, day⟩, s) else none

/-- The digits of a fraction of a second, and the rest. -/
def readFraction : List Char → List Char × List Char
  | '.' :: c :: s =>
    if c.isDigit then (((c :: s).takeWhile Char.isDigit).take 9, s.dropWhile Char.isDigit)
    else ([], '.' :: c :: s)
  | s => ([], s)

def readTime (s : List Char) : Option (TimeOfDay × List Char) := do
  let (hour, s) ← readPair 0 23 s
  let (minute, s) ← readPair 0 59 (← readMark ':' s)
  let (second, s) ← readPair 0 60 (← readMark ':' s)
  let (fraction, s) := readFraction s
  return (⟨hour, minute, second, fraction⟩, s)

/-- Reads an offset, if there is one. -/
def readOffset : List Char → Option (Option Offset × List Char)
  | [] => some (none, [])
  | c :: s =>
    if c = 'Z' ∨ c = 'z' then some (some .zero, s)
    else if c = '+' ∨ c = '-' then do
      let (hours, s) ← readPair 0 23 s
      let (minutes, s) ← readPair 0 59 (← readMark ':' s)
      return (some (.minutes (c = '-') (hours * 60 + minutes)), s)
    else some (none, c :: s)

/-- Whether a text can only be read as a time. -/
def startsTime : List Char → Bool
  | a :: b :: ':' :: _ => a.isDigit && b.isDigit
  | _ => false

/-- Whether a text can only be read as a date. -/
def startsDate : List Char → Bool
  | a :: b :: c :: d :: '-' :: _ => [a, b, c, d].all Char.isDigit
  | _ => false

/-- Reads what follows a date: a time, if one begins there. -/
def readRest (date : Date) : List Char → Option (Datetime × List Char)
  | c :: s =>
    if (c = 'T' ∨ c = 't' ∨ c = ' ') ∧ startsTime s then do
      let (time, s) ← readTime s
      let (offset, s) ← readOffset s
      return (⟨date, time, offset⟩, s)
    else some (⟨date, none, none⟩, c :: s)
  | [] => some (⟨date, none, none⟩, [])

/-- Reads a date or a time. -/
def read (s : List Char) : Option (Datetime × List Char) :=
  if startsDate s then do
    let (date, s) ← readDate s
    readRest date s
  else do
    let (time, s) ← readTime s
    return (⟨none, time, none⟩, s)

/-! ## Writing -/

/-- A number with zeros before it. -/
def padded (width n : Nat) : String := String.ofList (List.leftpad width '0' (Nat.toDigits 10 n))

/-- The digits of a fraction up to the last one that is not zero. -/
def significant (digits : List Char) : List Char :=
  (digits.reverse.dropWhile (· = '0')).reverse

def dateText (d : Date) : String := s!"{padded 4 d.year}-{padded 2 d.month}-{padded 2 d.day}"

def timeText (t : TimeOfDay) : String :=
  let clock := s!"{padded 2 t.hour}:{padded 2 t.minute}:{padded 2 t.second}"
  match significant t.fraction with
  | [] => clock
  | digits => clock ++ "." ++ String.ofList digits

/-- An offset of zero is never negative. -/
def offsetText : Offset → String
  | .zero => "Z"
  | .minutes negative count =>
    let sign := if negative ∧ count ≠ 0 then "-" else "+"
    s!"{sign}{padded 2 (count / 60)}:{padded 2 (count % 60)}"

def text (d : Datetime) : String :=
  let date := (d.date.map dateText).getD ""
  let between := if d.date.isSome ∧ d.time.isSome then "T" else ""
  let time := (d.time.map timeText).getD ""
  let offset := (d.offset.map offsetText).getD ""
  date ++ between ++ time ++ offset

end Datetime

end AppLifecycle.Toml
