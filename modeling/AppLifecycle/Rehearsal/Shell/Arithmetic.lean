/-!
# Arithmetic of a shell

An expression is made of whole numbers and parameters. Comparisons bind loosest and count as one or
zero; products bind tightest; operators of one kind are taken from the left.
-/

namespace AppLifecycle.Shell.Arithmetic

/-- A comparison as a number. -/
def truth (b : Bool) : Option Int := some (if b then 1 else 0)

/-- The operators of a level of binding, loosest first; what they make of two numbers. -/
def operators : Nat → List (List Char × (Int → Int → Option Int))
  | 0 => [
    (['=', '='], fun a b => truth (a == b)), (['!', '='], fun a b => truth (a != b)),
    (['<', '='], fun a b => truth (a ≤ b)), (['>', '='], fun a b => truth (a ≥ b)),
    (['<'], fun a b => truth (a < b)), (['>'], fun a b => truth (a > b))]
  | 1 => [(['+'], fun a b => some (a + b)), (['-'], fun a b => some (a - b))]
  | 2 => [
    (['*'], fun a b => some (a * b)),
    (['/'], fun a b => if b = 0 then none else some (Int.tdiv a b)),
    (['%'], fun a b => if b = 0 then none else some (Int.tmod a b))]
  | _ => []

/-- The level of operators that bind tightest. -/
def tightest : Nat := 2

def skipBlanks (s : List Char) : List Char := s.dropWhile Char.isWhitespace

def isNameChar (c : Char) : Bool := c.isAlphanum || c = '_'

/-- A number, or the value of a parameter, which may be marked by a dollar sign. -/
def operand (value : String → Int) (s : List Char) : Option (Int × List Char) :=
  let rest := s.dropWhile isNameChar
  let name := String.ofList (s.takeWhile isNameChar)
  match s with
  | '$' :: marked =>
    match marked.takeWhile isNameChar with
    | [] => none
    | name => some (value (String.ofList name), marked.dropWhile isNameChar)
  | _ =>
    if name.isEmpty then none
    else
      match name.toNat? with
      | some n => some (Int.ofNat n, rest)
      | none => some (value name, rest)

/-- What follows an operator, and what the operator does. -/
def operator? (level : Nat) (s : List Char) : Option ((Int → Int → Option Int) × List Char) :=
  (operators level).findSome? fun (op, f) =>
    if op.isPrefixOf s then some (f, s.drop op.length) else none

mutual

/-- Evaluates operators of a level and of those that bind tighter. -/
def level (value : String → Int) : Nat → Nat → List Char → Option (Int × List Char)
  | 0, _, _ => none
  | fuel + 1, n, s =>
    if tightest < n then single value fuel (skipBlanks s)
    else do
      let (a, s) ← level value fuel (n + 1) s
      more value fuel n a s

/-- Goes on from the left operand. -/
def more (value : String → Int) : Nat → Nat → Int → List Char → Option (Int × List Char)
  | 0, _, _, _ => none
  | fuel + 1, n, a, s =>
    match operator? n (skipBlanks s) with
    | some (f, s) => do
      let (b, s) ← level value fuel (n + 1) s
      more value fuel n (← f a b) s
    | none => some (a, s)

/-- Evaluates an operand with the signs before it. -/
def single (value : String → Int) : Nat → List Char → Option (Int × List Char)
  | 0, _ => none
  | fuel + 1, '-' :: s => (single value fuel (skipBlanks s)).map fun (a, s) => (-a, s)
  | fuel + 1, '+' :: s => single value fuel (skipBlanks s)
  | fuel + 1, '(' :: s => do
    match ← level value fuel 0 s with
    | (a, s) =>
      match skipBlanks s with
      | ')' :: s => return (a, s)
      | _ => none
  | _ + 1, s => operand value s

end

/-- The value of an expression, unless it has a fault. -/
def eval? (value : String → Int) (s : String) : Option Int :=
  match level value (8 * s.length + 8) 0 s.toList with
  | some (a, rest) => if (skipBlanks rest).isEmpty then some a else none
  | none => none

end AppLifecycle.Shell.Arithmetic
