import AppLifecycle.Toml.Datetime
import AppLifecycle.Toml.Number
import AppLifecycle.Toml.Table

/-!
# TOML documents

A document is a sequence of lines: headers, which open a table, and keys with a value, which belong
to the table opened last. It is read into the same kind of value as a JSON text, so that one decoder
serves both.
-/

namespace AppLifecycle.Toml

open Json (Value)

/-- A date or a time as a value: an object with one member, whose key no document uses. -/
def Datetime.value (d : Datetime) : Value :=
  .object [("$__toml_private_datetime", .string d.text)]

/-! ## Values -/

/-- Skips blanks, line ends and comments between the items of an array. A comment goes up to a line
end. -/
def skipLayout : Bool → List Char → Option (List Char)
  | false, ' ' :: s => skipLayout false s
  | false, '\t' :: s => skipLayout false s
  | false, '#' :: s => skipLayout true s
  | _, '\n' :: s => skipLayout false s
  | _, '\r' :: '\n' :: s => skipLayout false s
  | false, s => some s
  | true, [] => none
  | true, c :: s => if isPlain c then skipLayout true s else none

/-- Reads a fixed word. -/
def readWord {α : Type} (word : List Char) (a : α) (s : List Char) : Option (α × List Char) :=
  if word.isPrefixOf s then some (a, s.drop word.length) else none

/-- Reads a date, a time or a number. -/
def readPlain (s : List Char) : Option (Value × List Char) :=
  if Datetime.startsDate s ∨ Datetime.startsTime s then
    (Datetime.read s).map fun (d, s) => (d.value, s)
  else (readNumber s).map fun (n, s) => (.number n, s)

mutual

/-- Reads a value with at most `levels` values nested in each other. -/
def readValue : Nat → Nat → List Char → Option (Value × List Char)
  | 0, _, _ => none
  | _ + 1, _, '"' :: s => (readString '"' s).map fun (text, s) => (.string text, s)
  | _ + 1, _, '\'' :: s => (readString '\'' s).map fun (text, s) => (.string text, s)
  | _ + 1, _, 't' :: s => readWord ['r', 'u', 'e'] (.bool true) s
  | _ + 1, _, 'f' :: s => readWord ['a', 'l', 's', 'e'] (.bool false) s
  | _ + 1, 0, '[' :: _ => none
  | fuel + 1, levels + 1, '[' :: s => do
    let (items, s) ← readItems fuel levels s
    return (.array items, s)
  | _ + 1, 0, '\x7b' :: _ => none
  | fuel + 1, levels + 1, '\x7b' :: s =>
    match skipBlanks s with
    | '\x7d' :: s => some (.object [], s)
    | s => do
      let (members, s) ← readPairs fuel levels [] s
      return (members.value, s)
  | _ + 1, _, s => readPlain s

/-- Reads the items of an array and its end. A comma may follow the last one. -/
def readItems : Nat → Nat → List Char → Option (List Value × List Char)
  | 0, _, _ => none
  | fuel + 1, levels, s => do
    match ← skipLayout false s with
    | ']' :: s => return ([], s)
    | s => do
      let (item, s) ← readValue fuel levels s
      match ← skipLayout false s with
      | ']' :: s => return ([item], s)
      | ',' :: s => do
        let (items, s) ← readItems fuel levels s
        return (item :: items, s)
      | _ => none

/-- Reads the pairs of a table in braces and its end. No comma follows the last one. -/
def readPairs : Nat → Nat → Members → List Char → Option (Members × List Char)
  | 0, _, _, _ => none
  | fuel + 1, levels, members, s => do
    let (key, s) ← readKey s
    let (value, s) ← readValue fuel levels (skipBlanks (← Datetime.readMark '=' s))
    let members ← members.assign value key
    match skipBlanks s with
    | '\x7d' :: s => return (members, s)
    | ',' :: s => readPairs fuel levels members s
    | _ => none

end

/-! ## Lines -/

/-- A line with content. -/
inductive Line where
  /-- A header of a table. -/
  | table (path : List String)
  /-- A header of an element of an array of tables. -/
  | element (path : List String)
  | pair (key : List String) (value : Value)

/-- The rest after the end of a line; blanks and a comment may stand before it. -/
def endLine? (s : List Char) : Option (List Char) :=
  let s :=
    match skipBlanks s with
    | '#' :: s => s.dropWhile isPlain
    | s => s
  match s with
  | [] => some []
  | s => dropNewline? s

/-- Reads a header behind its first bracket. -/
def readHeader (s : List Char) : Option (Line × List Char) :=
  match s with
  | '[' :: s => do
    let (path, s) ← readKey s
    match s with
    | ']' :: ']' :: s => return (.element path, s)
    | _ => none
  | s => do
    let (path, s) ← readKey s
    match s with
    | ']' :: s => return (.table path, s)
    | _ => none

/-- Reads a key, its value, and nothing else. -/
def readPair (s : List Char) : Option (Line × List Char) := do
  let (key, s) ← readKey s
  let s := skipBlanks (← Datetime.readMark '=' s)
  let (value, s) ← readValue (2 * s.length + 2) (depthLimit - 1) s
  return (.pair key value, s)

/-- Reads all lines. -/
def readAll : Nat → List Char → Option (List Line)
  | 0, _ => none
  | fuel + 1, s =>
    match skipBlanks s with
    | [] => some []
    | '[' :: s => do
      let (line, s) ← readHeader s
      return line :: (← readAll fuel (← endLine? s))
    | c :: s =>
      if c = '#' ∨ c = '\n' ∨ c = '\r' then do readAll fuel (← endLine? (c :: s))
      else do
        let (line, s) ← readPair (c :: s)
        return line :: (← readAll fuel (← endLine? s))

/-! ## Documents -/

/-- A document up to some line. -/
structure Draft where
  root : Members
  /-- The path of the table that was opened last. -/
  here : List String

namespace Draft

def empty : Draft := ⟨[], []⟩

/-- Opens the table at the end of a path. -/
def openAt (d : Draft) (path : List String) (f : String → Members → Option Members) :
    Option Draft := do
  let root ← d.root.modify (f (← path.getLast?)) path.dropLast
  return ⟨root, path⟩

/-- Adds a line. -/
def add (d : Draft) : Line → Option Draft
  | .table path => d.openAt path (fun key m => m.openTable key)
  | .element path => d.openAt path (fun key m => m.openElement key)
  | .pair key value => do
    return { d with root := ← d.root.modify (fun m => m.assign value key) d.here }

end Draft

/-- Drops the mark that some editors put before a text. -/
def dropMark : List Char → List Char
  | '\ufeff' :: s => s
  | s => s

/-- The value of a document. -/
def parse (text : String) : Option Value := do
  let s := dropMark text.toList
  let lines ← readAll (s.length + 1) s
  let draft ← lines.foldlM Draft.add Draft.empty
  return draft.root.value

end AppLifecycle.Toml
