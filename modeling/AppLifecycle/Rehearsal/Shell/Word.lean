/-!
# Words of a shell

A line of a shell script falls into words and operators. A word is put together from pieces: texts,
quoted or not, and values that are only known when the word is used. Only values that stand outside
quotes are cut at their blanks.
-/

namespace AppLifecycle.Shell

/-- A piece of a word. -/
inductive Piece where
  | text (s : String)
  /-- The value of a parameter. -/
  | value (name : String) (quoted : Bool)
  /-- A text that stands for a parameter that is set. -/
  | whereSet (name : String) (other : String)
  /-- The value of a parameter, or a text if it is not set or empty. -/
  | orElse (name : String) (other : String)
  /-- What a command writes. -/
  | output (command : String) (quoted : Bool)
  /-- The value of an expression. -/
  | number (expression : String)
deriving DecidableEq, Repr

abbrev Word := List Piece

inductive Token where
  | word (w : Word)
  | operator (s : String)
deriving DecidableEq, Repr

namespace Token

def isBlank (c : Char) : Bool := c = ' ' || c = '\t'

def isNameStart (c : Char) : Bool := c.isAlpha || c = '_'

def isNameChar (c : Char) : Bool := c.isAlphanum || c = '_'

/-- Whether a character ends a word. -/
def endsWord (c : Char) : Bool := isBlank c || [';', '&', '|', '\n', '(', ')', '<', '>'].contains c

/-- What stands up to the bracket that closes, and what follows it. -/
def untilClosed : Nat → List Char → Option (List Char × List Char)
  | _, [] => none
  | 0, ')' :: rest => some ([], rest)
  | depth + 1, ')' :: rest => (untilClosed depth rest).map fun (s, rest) => (')' :: s, rest)
  | depth, '(' :: rest => (untilClosed (depth + 1) rest).map fun (s, rest) => ('(' :: s, rest)
  | depth, c :: rest => (untilClosed depth rest).map fun (s, rest) => (c :: s, rest)

/-- The piece in braces. -/
def braced (s : List Char) (quoted : Bool) : Piece :=
  let name := String.ofList (s.takeWhile isNameChar)
  match s.dropWhile isNameChar with
  | '+' :: other => .whereSet name (String.ofList other)
  | ':' :: '+' :: other => .whereSet name (String.ofList other)
  | '-' :: other => .orElse name (String.ofList other)
  | ':' :: '-' :: other => .orElse name (String.ofList other)
  | _ => .value (if name.isEmpty then String.ofList s else name) quoted

/-- The piece behind a dollar sign. -/
def afterDollar (quoted : Bool) : List Char → Option (Piece × List Char)
  | '(' :: rest => do
    let (inside, rest) ← untilClosed 0 rest
    match inside, inside.getLast? with
    | '(' :: expression, some ')' => return (.number (String.ofList expression.dropLast), rest)
    | command, _ => return (.output (String.ofList command) quoted, rest)
  | '\x7b' :: rest =>
    match rest.dropWhile (· ≠ '\x7d') with
    | _ :: after => some (braced (rest.takeWhile (· ≠ '\x7d')) quoted, after)
    | [] => none
  | c :: rest =>
    if isNameStart c then
      some (.value (String.ofList (c :: rest.takeWhile isNameChar)) quoted,
        rest.dropWhile isNameChar)
    else if c.isDigit || ['$', '#', '?', '!', '@', '*'].contains c then
      some (.value c.toString quoted, rest)
    else some (.text "$", c :: rest)
  | [] => some (.text "$", [])

/-- A command up to the closing backquote. -/
def inBackquotes (quoted : Bool) (s : List Char) : Option (Piece × List Char) :=
  match s.dropWhile (· ≠ '\x60') with
  | _ :: rest => some (.output (String.ofList (s.takeWhile (· ≠ '\x60'))) quoted, rest)
  | [] => none

/-- The pieces up to the closing double quote. -/
def inQuotes : Nat → List Char → Option (Word × List Char)
  | 0, _ => none
  | _ + 1, [] => none
  | _ + 1, '"' :: rest => some ([.text ""], rest)
  | fuel + 1, '$' :: rest => do
    let (piece, rest) ← afterDollar true rest
    let (pieces, rest) ← inQuotes fuel rest
    return (piece :: pieces, rest)
  | fuel + 1, '\x60' :: rest => do
    let (piece, rest) ← inBackquotes true rest
    let (pieces, rest) ← inQuotes fuel rest
    return (piece :: pieces, rest)
  | fuel + 1, '\\' :: c :: rest => do
    let (pieces, rest) ← inQuotes fuel rest
    let kept := if ['$', '"', '\\'].contains c then [c] else ['\\', c]
    return (.text (String.ofList kept) :: pieces, rest)
  | fuel + 1, c :: rest => do
    let (pieces, rest) ← inQuotes fuel rest
    return (.text c.toString :: pieces, rest)

/-- The pieces of a word, and what follows it. -/
def readWord : Nat → List Char → Option (Word × List Char)
  | 0, _ => none
  | _ + 1, [] => some ([], [])
  | fuel + 1, '\'' :: rest =>
    match rest.dropWhile (· ≠ '\'') with
    | [] => none
    | _ :: after => do
      let (pieces, after) ← readWord fuel after
      return (.text (String.ofList (rest.takeWhile (· ≠ '\''))) :: pieces, after)
  | fuel + 1, '"' :: rest => do
    let (quoted, rest) ← inQuotes (rest.length + 1) rest
    let (pieces, rest) ← readWord fuel rest
    return (quoted ++ pieces, rest)
  | fuel + 1, '$' :: rest => do
    let (piece, rest) ← afterDollar false rest
    let (pieces, rest) ← readWord fuel rest
    return (piece :: pieces, rest)
  | fuel + 1, '\x60' :: rest => do
    let (piece, rest) ← inBackquotes false rest
    let (pieces, rest) ← readWord fuel rest
    return (piece :: pieces, rest)
  | fuel + 1, '\\' :: c :: rest => do
    let (pieces, rest) ← readWord fuel rest
    return (.text c.toString :: pieces, rest)
  | fuel + 1, c :: rest =>
    if endsWord c then some ([], c :: rest)
    else do
      let (pieces, rest) ← readWord fuel rest
      return (.text c.toString :: pieces, rest)

/-- The tokens of a script. -/
def ofChars : Nat → List Char → Option (List Token)
  | 0, _ => none
  | _ + 1, [] => some []
  | fuel + 1, '&' :: '&' :: rest => (ofChars fuel rest).map (.operator "&&" :: ·)
  | fuel + 1, '|' :: '|' :: rest => (ofChars fuel rest).map (.operator "||" :: ·)
  | fuel + 1, '\n' :: rest => (ofChars fuel rest).map (.operator ";" :: ·)
  | fuel + 1, '#' :: rest => ofChars fuel (rest.dropWhile (· ≠ '\n'))
  | fuel + 1, c :: rest =>
    if isBlank c then ofChars fuel rest
    else if endsWord c then (ofChars fuel rest).map (.operator c.toString :: ·)
    else do
      let (pieces, rest) ← readWord (rest.length + 2) (c :: rest)
      return .word pieces :: (← ofChars fuel rest)

/-- The tokens of a script, unless a quote or a bracket is left open. -/
def ofString (s : String) : Option (List Token) := ofChars (s.length + 1) s.toList

end Token

/-- The text of a word without values. -/
def literal? : Word → Option String
  | [] => some ""
  | .text s :: rest => (literal? rest).map (s ++ ·)
  | _ :: _ => none

end AppLifecycle.Shell
