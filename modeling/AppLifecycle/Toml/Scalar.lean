import AppLifecycle.Json.Node

/-!
# Strings and keys of TOML documents

Strings stand between quotes, on one line or, between three quotes, on several. Between double
quotes a backslash begins an escape; between single quotes every character stands for itself.
Everything that can go wrong in a document refuses the whole document, so a reading is optional.
-/

namespace AppLifecycle.Toml

/-! ## Characters -/

/-- A blank within a line. -/
def isBlank (c : Char) : Bool := c = ' ' || c = '\t'

/-- A character that may stand in a comment, and by itself in a string: a tab, or no control. -/
def isPlain (c : Char) : Bool := c = '\t' || (' ' ≤ c && c ≠ '\x7f')

def skipBlanks (s : List Char) : List Char := s.dropWhile isBlank

/-- The rest after a line end, if the text begins with one. -/
def dropNewline? : List Char → Option (List Char)
  | '\n' :: s => some s
  | '\r' :: '\n' :: s => some s
  | _ => none

/-- Skips blanks and line ends. -/
def skipSpace : List Char → List Char
  | ' ' :: s => skipSpace s
  | '\t' :: s => skipSpace s
  | '\n' :: s => skipSpace s
  | '\r' :: '\n' :: s => skipSpace s
  | s => s

/-! ## Escapes -/

/-- Reads hexadecimal digits behind a number. -/
def readHex : Nat → Nat → List Char → Option (Nat × List Char)
  | 0, n, s => some (n, s)
  | _ + 1, _, [] => none
  | count + 1, n, c :: s => do
    let digit ← Json.hexValue? c
    readHex count (n * 16 + digit) s

/-- Reads the number of a character, in so many digits. -/
def readScalar (digits : Nat) (s : List Char) : Option (Char × List Char) := do
  let (n, s) ← readHex digits 0 s
  if n < 0xD800 ∨ (0xE000 ≤ n ∧ n < 0x110000) then return (Char.ofNat n, s) else none

/-- Reads an escape behind its backslash. -/
def readEscape : List Char → Option (Char × List Char)
  | 'b' :: s => some ('\x08', s)
  | 't' :: s => some ('\t', s)
  | 'n' :: s => some ('\n', s)
  | 'f' :: s => some ('\x0c', s)
  | 'r' :: s => some ('\r', s)
  | '"' :: s => some ('"', s)
  | '\\' :: s => some ('\\', s)
  | 'u' :: s => readScalar 4 s
  | 'U' :: s => readScalar 8 s
  | _ => none

/-! ## Strings -/

/-- Puts a character in front of what is read next. -/
def prepend (c : Char) (reading : Option (List Char × List Char)) :
    Option (List Char × List Char) :=
  reading.map fun (cs, s) => (c :: cs, s)

/-- Reads the rest of a string on one line that ends with `quote`. -/
def readLine (quote : Char) : Nat → List Char → Option (List Char × List Char)
  | 0, _ => none
  | _ + 1, [] => none
  | fuel + 1, c :: s =>
    if c = quote then some ([], s)
    else if c = '\\' ∧ quote = '"' then do
      let (c, s) ← readEscape s
      prepend c (readLine quote fuel s)
    else if isPlain c then prepend c (readLine quote fuel s)
    else none

/-- A backslash at the end of a line takes with it all space up to the next character. -/
def dropLineEnd? (s : List Char) : Option (List Char) := (dropNewline? (skipBlanks s)).map skipSpace

/-- Reads the rest of a string on several lines that ends with three quotes. One or two more quotes
before those belong to the string. -/
def readLines (quote : Char) : Nat → List Char → Option (List Char × List Char)
  | 0, _ => none
  | _ + 1, [] => none
  | fuel + 1, c :: s =>
    if c = quote then
      let quotes := ((c :: s).takeWhile (· = quote)).length
      if quotes < 3 then prepend c (readLines quote fuel s)
      else
        let own := min (quotes - 3) 2
        some (List.replicate own quote, (c :: s).drop (own + 3))
    else if c = '\\' ∧ quote = '"' then
      match dropLineEnd? s with
      | some s => readLines quote fuel s
      | none => do
        let (c, s) ← readEscape s
        prepend c (readLines quote fuel s)
    else
      match dropNewline? (c :: s) with
      | some s => prepend '\n' (readLines quote fuel s)
      | none => if isPlain c then prepend c (readLines quote fuel s) else none

/-- Makes a string of characters. -/
def asString (reading : Option (List Char × List Char)) : Option (String × List Char) :=
  reading.map fun (cs, s) => (String.ofList cs, s)

/-- Reads a string on one line, its opening quote being behind. -/
def readShort (quote : Char) (s : List Char) : Option (String × List Char) :=
  asString (readLine quote (s.length + 1) s)

/-- Reads a string behind its first quote. A line end right behind three quotes is no part of it. -/
def readString (quote : Char) (s : List Char) : Option (String × List Char) :=
  match s with
  | a :: b :: rest =>
    if a = quote ∧ b = quote then
      let rest := (dropNewline? rest).getD rest
      asString (readLines quote (rest.length + 1) rest)
    else readShort quote s
  | s => readShort quote s

/-! ## Keys -/

/-- A character of a key without quotes. -/
def isKeyChar (c : Char) : Bool := c.isAlphanum || c = '-' || c = '_'

/-- Reads one part of a key. -/
def readPart : List Char → Option (String × List Char)
  | '"' :: s => readShort '"' s
  | '\'' :: s => readShort '\'' s
  | s =>
    match s.takeWhile isKeyChar with
    | [] => none
    | part => some (String.ofList part, s.dropWhile isKeyChar)

/-- Nothing is nested as deep as this: neither parts of a key nor values in values. -/
def depthLimit : Nat := 80

/-- Reads the parts of a key with dots between them, and the blanks around each. -/
def readParts : Nat → List Char → Option (List String × List Char)
  | 0, _ => none
  | fuel + 1, s => do
    let (part, s) ← readPart (skipBlanks s)
    match skipBlanks s with
    | '.' :: s => do
      let (parts, s) ← readParts fuel s
      return (part :: parts, s)
    | s => return ([part], s)

/-- Reads a key. -/
def readKey (s : List Char) : Option (List String × List Char) := readParts (depthLimit - 1) s

end AppLifecycle.Toml
