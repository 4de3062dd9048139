/-!
# Shortest decimal text

The decimal with the fewest digits that lies closer to a binary number than to its neighbours; of
several, the nearest, and of two equally near the even one. A number is `m * 2 ^ q`, and all
arithmetic is exact.
-/

namespace AppLifecycle.Decimal

/-- A positive binary number `significand * 2 ^ exponent`. -/
structure Binary where
  significand : Nat
  exponent : Int
  /-- The number below it is half as far away as the number above it. -/
  narrowBelow : Bool
deriving Repr, DecidableEq

/-- `digits * 10 ^ exponent`. -/
structure Scaled where
  digits : Nat
  exponent : Int
deriving Repr, DecidableEq

/-- The finite number whose bits are `bits`, without its sign. -/
def Binary.ofBits (bits : UInt64) : Binary :=
  let fraction : Nat := bits.toNat % Nat.pow 2 52
  let biased : Nat := bits.toNat / Nat.pow 2 52 % Nat.pow 2 11
  if biased = 0 then ⟨fraction, -1074, false⟩
  else ⟨Nat.pow 2 52 + fraction, (biased : Int) - 1075, fraction = 0 && biased > 1⟩

/-- `n * 2 ^ e * 10 ^ f` as a quotient of natural numbers. -/
def quotient (n : Nat) (e f : Int) : Nat × Nat :=
  (n * Nat.pow 2 e.toNat * Nat.pow 10 f.toNat, Nat.pow 2 (-e).toNat * Nat.pow 10 (-f).toNat)

/-- The exponent of the leading decimal digit of `num / den`, found among the candidates from
`high` downwards. -/
def leadingExponent (num den : Nat) : Nat → Int → Int
  | 0, high => high
  | fuel + 1, high =>
    if den * Nat.pow 10 high.toNat ≤ num * Nat.pow 10 (-high).toNat then high
    else leadingExponent num den fuel (high - 1)

/-- Whether `digits * 10 ^ k` reads back as `b`: it lies between the midpoints to the neighbours,
which belong to `b` if its significand is even. -/
def Binary.covers (b : Binary) (digits : Nat) (k : Int) : Bool :=
  -- in units of a quarter of the spacing above
  let (num, den) := quotient digits (2 - b.exponent) k
  let low := 4 * b.significand - (if b.narrowBelow then 1 else 2)
  let high := 4 * b.significand + 2
  if b.significand % 2 = 0 then low * den ≤ num && num ≤ high * den
  else low * den < num && num < high * den

/-- The best decimal on the grid of multiples of `10 ^ k`, if one reads back as `b`. -/
def Binary.onGrid? (b : Binary) (k : Int) : Option Scaled :=
  let (num, den) := quotient b.significand b.exponent (-k)
  let below := num / den
  let rest := num % den
  let pick (n : Nat) : Option Scaled := if b.covers n k then some ⟨n, k⟩ else none
  let nearer := if 2 * rest < den || (2 * rest = den && below % 2 = 0) then below else below + 1
  let farther := if nearer = below then below + 1 else below
  (pick nearer).or (pick farther)

/-- Tries grids of one digit, of two, and so on. -/
def Binary.search (b : Binary) (top : Int) : Nat → Nat → Scaled
  | 0, count => (b.onGrid? (top - count)).getD ⟨0, 0⟩
  | fuel + 1, count => (b.onGrid? (top - count)).getD (b.search top fuel (count + 1))

/-- The shortest decimal that reads back as `b`. -/
def Binary.shortest (b : Binary) : Scaled :=
  let (num, den) := quotient b.significand b.exponent 0
  b.search (leadingExponent num den 640 309) 17 0

/-- Drops the zeros at the end of the digits. -/
def Scaled.stripZeros : Nat → Scaled → Scaled
  | 0, d => d
  | fuel + 1, d =>
    if d.digits ≠ 0 ∧ d.digits % 10 = 0 then stripZeros fuel ⟨d.digits / 10, d.exponent + 1⟩ else d

/-- How decimals are laid out: positionally while the leading digit's exponent is between -5 and 15,
always with a point, and otherwise with one digit before the point and a signed exponent. -/
def Scaled.text (d : Scaled) : String :=
  let d := stripZeros 400 d
  let digits := (Nat.toDigits 10 d.digits)
  let lead : Int := d.exponent + digits.length - 1
  let zeros (n : Nat) : List Char := List.replicate n '0'
  String.ofList <|
    if d.digits = 0 then ['0', '.', '0']
    else if 0 ≤ d.exponent ∧ lead ≤ 15 then digits ++ zeros d.exponent.toNat ++ ['.', '0']
    else if 0 ≤ lead ∧ lead ≤ 15 then
      digits.take (lead.toNat + 1) ++ ['.'] ++ digits.drop (lead.toNat + 1)
    else if -5 ≤ lead ∧ lead < 0 then
      ['0', '.'] ++ zeros (-lead - 1).toNat ++ digits
    else
      digits.take 1 ++ (if digits.length > 1 then ['.'] ++ digits.drop 1 else []) ++
        ['e', if lead < 0 then '-' else '+'] ++ Nat.toDigits 10 lead.natAbs

/-- The shortest text of a finite number. -/
def floatText (x : Float) : String :=
  let bits := x.toBits
  let magnitude := bits &&& 0x7fffffffffffffff
  let text := if magnitude = 0 then "0.0" else ((Binary.ofBits magnitude).shortest).text
  if bits = magnitude then text else "-" ++ text

end AppLifecycle.Decimal
