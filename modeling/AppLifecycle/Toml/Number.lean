import AppLifecycle.Toml.Scalar

/-!
# Numbers of TOML documents

Whole numbers have 64 bits and a base of ten, sixteen, eight or two; other numbers have a point, an
exponent or both. Between two digits there may be an underscore.
-/

namespace AppLifecycle.Toml

open Json (Number)

/-- The digits at the head of a text, an underscore between two of them being left out. -/
def moreDigits (isDigit : Char → Bool) : List Char → Option (List Char × List Char)
  | [] => some ([], [])
  | '_' :: [] => none
  | '_' :: c :: s => if isDigit c then prepend c (moreDigits isDigit s) else none
  | c :: s => if isDigit c then prepend c (moreDigits isDigit s) else some ([], c :: s)

/-- Reads digits, at least one. -/
def readDigits (isDigit : Char → Bool) : List Char → Option (List Char × List Char)
  | c :: s => if isDigit c then prepend c (moreDigits isDigit s) else none
  | [] => none

/-- Reads the digits of a whole number: a zero, or digits that do not begin with one. -/
def readWhole : List Char → Option (List Char × List Char)
  | '0' :: s => some (['0'], s)
  | s => readDigits Char.isDigit s

/-- The value of digits in a base. -/
def digitsValue (base : Nat) (digits : List Char) : Nat :=
  digits.foldl (fun n c => n * base + (Json.hexValue? c).getD 0) 0

/-- A whole number, if 64 bits hold it. -/
def integer? (negative : Bool) (magnitude : Nat) : Option Number :=
  if negative ∧ magnitude ≤ Nat.pow 2 63 then some (.integer (-(magnitude : Int)))
  else if magnitude < Nat.pow 2 63 then some (.integer magnitude)
  else none

/-- Reads the digits of a number behind the mark of its base. -/
def readInBase (base : Nat) (isDigit : Char → Bool) (s : List Char) :
    Option (Number × List Char) := do
  let (digits, s) ← readDigits isDigit s
  return (← integer? false (digitsValue base digits), s)

/-- `digits * 10 ^ e`, rounded. The size of a number is known before its value is computed. -/
def realValue (digits : List Char) (e : Int) : Float :=
  let digits := digits.dropWhile (· = '0')
  let size := (digits.length : Int) + e
  if digits.isEmpty ∨ size < -330 then 0
  else if size > 310 then 1 / 0
  else Float.ofScientific (digitsValue 10 digits) (decide (e < 0)) e.natAbs

/-- Reads an exponent, if there is one. -/
def readExponent : List Char → Option (Option Int × List Char)
  | c :: s =>
    if c = 'e' ∨ c = 'E' then do
      let (negative, s) :=
        match s with
        | '+' :: s => (false, s)
        | '-' :: s => (true, s)
        | s => (false, s)
      let (digits, s) ← readDigits Char.isDigit s
      let n := digitsValue 10 digits
      return (some (if negative then -(n : Int) else n), s)
    else some (none, c :: s)
  | [] => some (none, [])

/-- Reads the digits behind a point, if there is one. -/
def readPoint : List Char → Option (Option (List Char) × List Char)
  | '.' :: s => do
    let (digits, s) ← readDigits Char.isDigit s
    return (some digits, s)
  | s => some (none, s)

/-- Reads a number behind its sign. One beyond the range is refused unless it is negative. -/
def readDecimal (negative : Bool) (s : List Char) : Option (Number × List Char) := do
  let (whole, s) ← readWhole s
  let (point, s) ← readPoint s
  let (exponent, s) ← readExponent s
  if point.isNone ∧ exponent.isNone then
    return (← integer? negative (digitsValue 10 whole), s)
  let fraction := point.getD []
  let magnitude := realValue (whole ++ fraction) (exponent.getD 0 - fraction.length)
  if magnitude.isInf ∧ ¬ negative then none
  else return (.real (if negative then -magnitude else magnitude), s)

/-- Reads a number that has a name. -/
def readNamed (negative : Bool) : List Char → Option (Number × List Char)
  | 'i' :: 'n' :: 'f' :: s => some (.real (if negative then -(1 / 0) else 1 / 0), s)
  | 'n' :: 'a' :: 'n' :: s => some (.real (0 / 0), s)
  | _ => none

/-- Reads a number behind its sign, one with a name or one with digits. -/
def readSigned (negative : Bool) (s : List Char) : Option (Number × List Char) :=
  (readNamed negative s).or (readDecimal negative s)

/-- Reads a number. -/
def readNumber : List Char → Option (Number × List Char)
  | '0' :: 'x' :: s => readInBase 16 (fun c => (Json.hexValue? c).isSome) s
  | '0' :: 'o' :: s => readInBase 8 (fun c => '0' ≤ c && c ≤ '7') s
  | '0' :: 'b' :: s => readInBase 2 (fun c => c = '0' || c = '1') s
  | '+' :: s => readSigned false s
  | '-' :: s => readSigned true s
  | s => readSigned false s

end AppLifecycle.Toml
