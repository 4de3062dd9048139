import AppLifecycle.Json.Value

/-!
# A JSON text as far as it can be read

A reader of messages meets the faults of a text in the order of the text: a member of the wrong type
before a missing brace is reported as the wrong type. `Node` is what a text holds up to its first
fault, with the fault kept in its place, so that decoding can be a walk over a tree.

Text that a message has no use for is passed over with weaker demands than text that is read: the
escapes of a skipped string need not pair up, and a skipped number may be too large. `Token` keeps
both outcomes.
-/

namespace AppLifecycle.Json

/-- How a text fails to be JSON. -/
inductive Fault where
  /-- It goes on in a way that no JSON text does. -/
  | malformed
  /-- It ends too early. -/
  | truncated
deriving DecidableEq, Repr

/-- A string or a number of the text. -/
structure Token (α : Type) where
  /-- Its value for a reader who wants it. -/
  read : Except Fault α
  /-- What stops a reader who passes over it. -/
  skip : Option Fault

namespace Token

/-- A token without faults. -/
def ok {α : Type} (a : α) : Token α := ⟨.ok a, none⟩

/-- A token at which the text stops. -/
def stop {α : Type} (read skip : Fault) : Token α := ⟨.error read, some skip⟩

end Token

inductive Node where
  /-- The text ends where a value should begin. -/
  | absent
  /-- No value begins here, or one begins and breaks off. -/
  | broken (fault : Fault)
  | null
  | bool (b : Bool)
  | number (token : Token Number)
  | string (token : Token String)
  /-- `ending` is the fault that stands in the place of the closing bracket, if any. -/
  | array (items : List Node) (ending : Option Fault)
  | object (members : List (Token String × Node)) (ending : Option Fault)
  /-- An object that begins with something other than a key. -/
  | keyless (first : Node)

/-- The rest of the text after something was read, or `none` where the text has stopped. -/
abbrev Rest := Option (List Char)

/-! ## Blanks and words -/

def isBlank (c : Char) : Bool := c = ' ' || c = '\n' || c = '\t' || c = '\r'

def skipBlanks (s : List Char) : List Char := s.dropWhile isBlank

/-- Reads a fixed word. -/
def readWord : List Char → List Char → Except Fault (List Char)
  | [], s => .ok s
  | _ :: _, [] => .error .truncated
  | w :: ws, c :: cs => if w = c then readWord ws cs else .error .malformed

/-! ## Strings -/

/-- The value of a hexadecimal digit. -/
def hexValue? (c : Char) : Option Nat :=
  if '0' ≤ c ∧ c ≤ '9' then some (c.toNat - 48)
  else if 'a' ≤ c ∧ c ≤ 'f' then some (c.toNat - 87)
  else if 'A' ≤ c ∧ c ≤ 'F' then some (c.toNat - 55)
  else none

/-- Whether `s` has at least `n` bytes. -/
def hasBytes : Nat → List Char → Bool
  | 0, _ => true
  | _ + 1, [] => false
  | n + 1, c :: cs => hasBytes (n + 1 - c.utf8Size) cs

/-- The four hexadecimal digits of an escape and what follows them. A text of fewer than four more
bytes is cut off, whatever the bytes are. -/
def hexEscape (s : List Char) : Except Fault (Nat × List Char) :=
  if hasBytes 4 s then
    match s with
    | a :: b :: c :: d :: rest =>
      match hexValue? a, hexValue? b, hexValue? c, hexValue? d with
      | some a, some b, some c, some d => .ok (((a * 16 + b) * 16 + c) * 16 + d, rest)
      | _, _, _, _ => .error .malformed
    | _ => .error .malformed
  else .error .truncated

/-- The second half of a character that needs two escapes. -/
def lowHalf (s : List Char) : Except Fault (Nat × List Char) :=
  match s with
  | [] => .error .truncated
  | ['\\'] => .error .truncated
  | '\\' :: 'u' :: rest => do
    let (low, rest) ← hexEscape rest
    if 0xDC00 ≤ low ∧ low ≤ 0xDFFF then .ok (low, rest) else .error .malformed
  | _ => .error .malformed

/-- The character that a one-letter escape stands for. -/
def shortEscape? : Char → Option Char
  | '"' => some '"'
  | '\\' => some '\\'
  | '/' => some '/'
  | 'b' => some '\x08'
  | 'f' => some '\x0c'
  | 'n' => some '\n'
  | 'r' => some '\r'
  | 't' => some '\t'
  | _ => none

/-- What one step through a string finds. -/
inductive StringStep where
  /-- The closing quote. -/
  | close (rest : List Char)
  /-- A character. -/
  | char (c : Char) (rest : List Char)
  /-- An escape without meaning, which can still be passed over. -/
  | odd (fault : Fault) (rest : List Char)
  /-- The string cannot be passed over. -/
  | stop (fault : Fault)

/-- The step at the head of `s`. -/
def stringStep : List Char → StringStep
  | [] => .stop .truncated
  | '"' :: rest => .close rest
  | ['\\'] => .stop .truncated
  | '\\' :: 'u' :: rest =>
    match hexEscape rest with
    | .error f => .stop f
    | .ok (n, rest) =>
      if 0xDC00 ≤ n ∧ n ≤ 0xDFFF then .odd .malformed rest
      else if 0xD800 ≤ n ∧ n ≤ 0xDBFF then
        match lowHalf rest with
        | .ok (low, rest) =>
          .char (Char.ofNat ((n - 0xD800) * 1024 + (low - 0xDC00) + 0x10000)) rest
        | .error f => .odd f rest
      else .char (Char.ofNat n) rest
  | '\\' :: c :: rest =>
    match shortEscape? c with
    | some c => .char c rest
    | none => .stop .malformed
  | c :: rest => if c < ' ' then .stop .malformed else .char c rest

/-- Reads the rest of a string, its opening quote being behind. -/
def readChars : Nat → List Char → Token (List Char) × Rest
  | 0, _ => (.stop .truncated .truncated, none)
  | fuel + 1, s =>
    match stringStep s with
    | .close rest => (.ok [], some rest)
    | .stop f => (.stop f f, none)
    | .char c rest =>
      let (token, rest) := readChars fuel rest
      ({ token with read := token.read.map (c :: ·) }, rest)
    | .odd f rest =>
      let (token, rest) := readChars fuel rest
      ({ token with read := .error f }, rest)

/-- Reads the rest of a string, its opening quote being behind. -/
def readString (s : List Char) : Token String × Rest :=
  let (token, rest) := readChars (s.length + 1) s
  (⟨token.read.map String.ofList, token.skip⟩, rest)

/-! ## Numbers -/

/-- Adds digits to a number while it fits 64 bits; the digits left over come second. -/
def absorb (n : Nat) : List Char → Nat × List Char
  | [] => (n, [])
  | d :: ds =>
    if n * 10 + (d.toNat - 48) < Nat.pow 2 64 then absorb (n * 10 + (d.toNat - 48)) ds
    else (n, d :: ds)

/-- `f / 10 ^ n`, in steps that the exponent range allows. -/
def scaleDown (f : Float) : Nat → Nat → Float
  | 0, _ => f
  | fuel + 1, n =>
    if n ≤ 308 then f / Float.ofScientific 1 false n
    else if f == 0 then f
    else scaleDown (f / Float.ofScientific 1 false 308) fuel (n - 308)

/-- `n * 10 ^ e`; a number beyond the range is malformed. -/
def scaled (n : Nat) (e : Int) : Except Fault Float :=
  let f := Float.ofNat n
  if e < 0 then .ok (scaleDown f 5 e.natAbs)
  else if e ≤ 308 then
    let g := f * Float.ofScientific 1 false e.toNat
    if g.isInf then .error .malformed else .ok g
  else if n = 0 then .ok f
  else .error .malformed

/-- The parts of a number's text. -/
structure Digits where
  negative : Bool
  whole : List Char
  fraction : Option (List Char)
  /-- Whether the exponent is negative, and its digits. -/
  exponent : Option (Bool × List Char)

/-- The value of a number's text. -/
def Digits.value (d : Digits) : Except Fault Number :=
  let (whole, dropped) := absorb 0 d.whole
  let isWhole := d.fraction.isNone && d.exponent.isNone && dropped.isEmpty
  if isWhole && !d.negative then .ok (.integer whole)
  else if isWhole && whole ≠ 0 && whole ≤ Nat.pow 2 63 then .ok (.integer (-(whole : Int)))
  else
    let fraction := d.fraction.getD []
    let (significand, unused) := absorb whole fraction
    let shift : Int := dropped.length - (fraction.length - unused.length)
    let (down, digits) := d.exponent.getD (false, [])
    let size : Nat := digits.foldl (fun n c => n * 10 + (c.toNat - 48)) 0
    let magnitude :=
      if size ≥ Nat.pow 2 31 then
        if significand ≠ 0 && !down then .error .malformed else .ok 0
      else scaled significand (if down then shift - (size : Int) else shift + (size : Int))
    magnitude.map fun x => .real (if d.negative then -x else x)

/-- Digits at the head of `s`, and the rest. -/
def splitDigits (s : List Char) : List Char × List Char :=
  (s.takeWhile Char.isDigit, s.dropWhile Char.isDigit)

/-- A number that breaks off before `s`: at the end of the text a reader calls it cut off, while one
who passes over it calls it malformed. -/
def brokenNumber (s : List Char) : Token Number × Rest :=
  (.stop (if s.isEmpty then .truncated else .malformed) .malformed, none)

/-- Finishes a number whose text is complete. -/
def finishNumber (d : Digits) (rest : List Char) : Token Number × Rest :=
  (⟨d.value, none⟩, some rest)

/-- Reads the exponent of a number, if it has one. -/
def readExponent (d : Digits) (s : List Char) : Token Number × Rest :=
  match s with
  | c :: rest =>
    if c = 'e' ∨ c = 'E' then
      let (down, rest) :=
        match rest with
        | '+' :: rest => (false, rest)
        | '-' :: rest => (true, rest)
        | rest => (false, rest)
      let (digits, rest) := splitDigits rest
      if digits.isEmpty then brokenNumber rest
      else finishNumber { d with exponent := some (down, digits) } rest
    else finishNumber d s
  | [] => finishNumber d []

/-- Reads what follows the whole part of a number. -/
def readFraction (negative : Bool) (whole s : List Char) : Token Number × Rest :=
  match s with
  | '.' :: rest =>
    let (digits, rest) := splitDigits rest
    if digits.isEmpty then brokenNumber rest
    else readExponent ⟨negative, whole, some digits, none⟩ rest
  | s => readExponent ⟨negative, whole, none, none⟩ s

/-- Reads a number after its sign. A whole part of several digits does not begin with a zero. -/
def readMagnitude (negative : Bool) (s : List Char) : Token Number × Rest :=
  let (digits, rest) := splitDigits s
  match digits with
  | [] => brokenNumber s
  | '0' :: _ :: _ => (.stop .malformed .malformed, none)
  | digits => readFraction negative digits rest

/-- Reads a number. -/
def readNumber : List Char → Token Number × Rest
  | '-' :: rest => readMagnitude true rest
  | s => readMagnitude false s

/-! ## Values -/

/-- A key at which the text stops. -/
def brokenKey (f : Fault) : List (Token String × Node) := [(.stop f f, .absent)]

mutual

/-- Reads a value, after any blanks. -/
def readNode : Nat → List Char → Node × Rest
  | 0, _ => (.absent, none)
  | fuel + 1, s =>
    match skipBlanks s with
    | [] => (.absent, none)
    | '"' :: rest =>
      let (token, rest) := readString rest
      (.string token, rest)
    | '[' :: rest =>
      let (items, ending, rest) := readItems fuel rest
      (.array items ending, rest)
    | '\x7b' :: rest =>
      match skipBlanks rest with
      | [] => (.object [] (some .truncated), none)
      | '\x7d' :: rest => (.object [] none, some rest)
      | '"' :: rest =>
        let (members, ending, rest) := readMember fuel rest
        (.object members ending, rest)
      | rest => (.keyless (readNode fuel rest).1, none)
    | 'n' :: rest => readKeyword .null ['u', 'l', 'l'] rest
    | 't' :: rest => readKeyword (.bool true) ['r', 'u', 'e'] rest
    | 'f' :: rest => readKeyword (.bool false) ['a', 'l', 's', 'e'] rest
    | c :: rest =>
      if c = '-' ∨ c.isDigit then
        let (token, rest) := readNumber (c :: rest)
        (.number token, rest)
      else (.broken .malformed, none)
where
  /-- Reads the rest of a word that stands for `node`. -/
  readKeyword (node : Node) (word s : List Char) : Node × Rest :=
    match readWord word s with
    | .ok rest => (node, some rest)
    | .error f => (.broken f, none)

/-- Reads the items of an array, its opening bracket being behind. -/
def readItems : Nat → List Char → List Node × Option Fault × Rest
  | 0, _ => ([], some .truncated, none)
  | fuel + 1, s =>
    match skipBlanks s with
    | [] => ([], some .truncated, none)
    | ']' :: rest => ([], none, some rest)
    | rest => readItem fuel rest

/-- Reads an item and all that follow it. -/
def readItem : Nat → List Char → List Node × Option Fault × Rest
  | 0, _ => ([], some .truncated, none)
  | fuel + 1, s =>
    match readNode fuel s with
    | (item, none) => ([item], none, none)
    | (item, some rest) =>
      match skipBlanks rest with
      | [] => ([item], some .truncated, none)
      | ']' :: rest => ([item], none, some rest)
      | ',' :: rest =>
        let (items, ending, rest) := readItem fuel rest
        (item :: items, ending, rest)
      | _ :: _ => ([item], some .malformed, none)

/-- Reads a member, the opening quote of its key being behind, and all that follow it. -/
def readMember : Nat → List Char → List (Token String × Node) × Option Fault × Rest
  | 0, _ => ([], some .truncated, none)
  | fuel + 1, s =>
    match readString s with
    | (key, none) => ([(key, .absent)], none, none)
    | (key, some rest) =>
      match skipBlanks rest with
      | [] => ([(key, .broken .truncated)], none, none)
      | ':' :: rest =>
        match readNode fuel rest with
        | (value, none) => ([(key, value)], none, none)
        | (value, some rest) =>
          match skipBlanks rest with
          | [] => ([(key, value)], some .truncated, none)
          | '\x7d' :: rest => ([(key, value)], none, some rest)
          | ',' :: rest =>
            match skipBlanks rest with
            | [] => ((key, value) :: brokenKey .truncated, none, none)
            | '"' :: rest =>
              let (members, ending, rest) := readMember fuel rest
              ((key, value) :: members, ending, rest)
            | _ :: _ => ((key, value) :: brokenKey .malformed, none, none)
          | _ :: _ => ([(key, value)], some .malformed, none)
      | _ :: _ => ([(key, .broken .malformed)], none, none)

end

/-- Reads a text: its value, and what stands behind it. -/
def Node.ofChars (s : List Char) : Node × Rest := readNode (2 * s.length + 2) s

/-! ## Passing over and reading through -/

mutual

/-- The fault that stops a reader who passes over a value. -/
def Node.skip : Node → Option Fault
  | .absent => some .truncated
  | .broken f => some f
  | .null => none
  | .bool _ => none
  | .number token => token.skip
  | .string token => token.skip
  | .array items ending => (skipItems items).or ending
  | .object members ending => (skipMembers members).or ending
  | .keyless _ => some .malformed

def skipItems : List Node → Option Fault
  | [] => none
  | n :: ns => n.skip.or (skipItems ns)

def skipMembers : List (Token String × Node) → Option Fault
  | [] => none
  | (key, value) :: ms => (key.skip.or value.skip).or (skipMembers ms)

end

/-- Reads on unless there is a fault. -/
def Fault.check : Option Fault → Except Fault Unit
  | none => .ok ()
  | some f => .error f

/-- One level of nesting fewer; deeper texts are refused. -/
def enter (depth : Nat) : Except Fault Nat :=
  if depth ≤ 1 then .error .malformed else .ok (depth - 1)

mutual

/-- The whole value, if less than `depth` levels are nested in it. -/
def Node.value : Node → Nat → Except Fault Value
  | .absent, _ => .error .truncated
  | .broken f, _ => .error f
  | .null, _ => .ok .null
  | .bool b, _ => .ok (.bool b)
  | .number token, _ => token.read.map .number
  | .string token, _ => token.read.map .string
  | .array items ending, depth => do
    let depth ← enter depth
    let items ← itemValues items depth
    Fault.check ending
    return .array items
  | .object members ending, depth => do
    let depth ← enter depth
    let members ← memberValues members depth
    Fault.check ending
    return .object members
  | .keyless _, depth => do
    let _ ← enter depth
    .error .malformed

def itemValues : List Node → Nat → Except Fault (List Value)
  | [], _ => .ok []
  | n :: ns, depth => do
    let v ← n.value depth
    let vs ← itemValues ns depth
    return v :: vs

def memberValues : List (Token String × Node) → Nat → Except Fault (List (String × Value))
  | [], _ => .ok []
  | (key, value) :: ms, depth => do
    let k ← key.read
    let v ← value.value depth
    let rest ← memberValues ms depth
    return (k, v) :: rest

end

mutual

/-- A value as a text without faults. -/
def Node.ofValue : Value → Node
  | .null => .null
  | .bool b => .bool b
  | .number n => .number (.ok n)
  | .string s => .string (.ok s)
  | .array items => .array (ofItems items) none
  | .object members => .object (ofMembers members) none

def ofItems : List Value → List Node
  | [] => []
  | v :: vs => Node.ofValue v :: ofItems vs

def ofMembers : List (String × Value) → List (Token String × Node)
  | [] => []
  | (k, v) :: ms => (.ok k, Node.ofValue v) :: ofMembers ms

end

/-- How deep the values of a message may be nested. -/
def maxDepth : Nat := 128

/-- Reads a text that holds one value and nothing else. -/
def Value.parse (s : String) : Except Fault Value := do
  let (node, rest) := Node.ofChars s.toList
  let value ← node.value maxDepth
  match rest.map skipBlanks with
  | some [] => return value
  | _ => .error .malformed

end AppLifecycle.Json
