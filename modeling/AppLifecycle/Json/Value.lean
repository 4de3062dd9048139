import AppLifecycle.Decimal.Shortest

/-!
# JSON values and their compact text
-/

namespace AppLifecycle.Json

/-- A number of a JSON text: whole numbers of 64 bits keep their value, all others are rounded. -/
inductive Number where
  | integer (n : Int)
  | real (x : Float)

inductive Value where
  | null
  | bool (b : Bool)
  | number (n : Number)
  | string (s : String)
  | array (items : List Value)
  /-- The members in the order of the text; a key may occur more than once. -/
  | object (members : List (String × Value))

namespace Value

/-- A whole number. -/
def nat (n : Nat) : Value := .number (.integer n)

/-- `null` for a missing value. -/
def option {α : Type} (f : α → Value) : Option α → Value
  | none => .null
  | some a => f a

/-- An array of strings. -/
def strings (texts : List String) : Value := .array (texts.map .string)

end Value

/-! ## Writing -/

/-- A digit of base sixteen, lower case. -/
def hexDigit (n : Nat) : Char := Nat.digitChar (n % 16)

/-- One character of a string: quotes, backslashes and controls are escaped. -/
def escape (c : Char) : List Char :=
  if c = '"' then ['\\', '"']
  else if c = '\\' then ['\\', '\\']
  else if c = '\x08' then ['\\', 'b']
  else if c = '\x0c' then ['\\', 'f']
  else if c = '\n' then ['\\', 'n']
  else if c = '\r' then ['\\', 'r']
  else if c = '\t' then ['\\', 't']
  else if c < ' ' then ['\\', 'u', '0', '0', hexDigit (c.toNat / 16), hexDigit c.toNat]
  else [c]

/-- Writes the characters of a string, the closing quote and then `rest`. -/
def writeChars : List Char → List Char → List Char
  | [], rest => '"' :: rest
  | c :: cs, rest => escape c ++ writeChars cs rest

/-- Writes a string and then `rest`. -/
def writeString (s : String) (rest : List Char) : List Char :=
  '"' :: writeChars s.toList rest

/-- The text of a number. -/
def Number.chars : Number → List Char
  | .integer n => if n < 0 then '-' :: Nat.toDigits 10 n.natAbs else Nat.toDigits 10 n.natAbs
  | .real x => (Decimal.floatText x).toList

mutual

/-- Writes a value without any blanks, and then `rest`. -/
def Value.write : Value → List Char → List Char
  | .null, rest => 'n' :: 'u' :: 'l' :: 'l' :: rest
  | .bool true, rest => 't' :: 'r' :: 'u' :: 'e' :: rest
  | .bool false, rest => 'f' :: 'a' :: 'l' :: 's' :: 'e' :: rest
  | .number n, rest => n.chars ++ rest
  | .string s, rest => writeString s rest
  | .array [], rest => '[' :: ']' :: rest
  | .array (v :: vs), rest => '[' :: v.write (writeItems vs rest)
  | .object [], rest => '\x7b' :: '\x7d' :: rest
  | .object ((k, v) :: ms), rest =>
    '\x7b' :: writeString k (':' :: v.write (writeMembers ms rest))

/-- Writes the items after the first one, and closes the array. -/
def writeItems : List Value → List Char → List Char
  | [], rest => ']' :: rest
  | v :: vs, rest => ',' :: v.write (writeItems vs rest)

/-- Writes the members after the first one, and closes the object. -/
def writeMembers : List (String × Value) → List Char → List Char
  | [], rest => '\x7d' :: rest
  | (k, v) :: ms, rest => ',' :: writeString k (':' :: v.write (writeMembers ms rest))

end

/-- The compact text of a value. -/
def Value.text (v : Value) : String := String.ofList (v.write [])

end AppLifecycle.Json
