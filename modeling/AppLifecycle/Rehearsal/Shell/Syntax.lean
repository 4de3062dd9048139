import AppLifecycle.Rehearsal.Shell.Word

/-!
# Scripts of a shell

Simple commands are joined into lists and put into conditions, loops and groups. Redirections are
read and have no effect.
-/

namespace AppLifecycle.Shell

inductive Script where
  | nothing
  /-- Settings of parameters, then the words of a command. -/
  | simple (settings : List (String × Word)) (words : List Word)
  | both (first second : Script)
  | either (first second : Script)
  | sequence (first second : Script)
  | negated (s : Script)
  | background (s : Script)
  /-- A script for a shell of its own. -/
  | apart (s : Script)
  /-- The body runs again while the test turns out as wanted. -/
  | loop (wanted : Bool) (test body : Script)
  | choice (test yes no : Script)
  /-- The body runs for each of the words. -/
  | each (name : String) (words : List Word) (body : Script)
deriving DecidableEq, Repr

namespace Script

/-- The reserved word that comes next. -/
def reserved? : List Token → Option String
  | .word [.text s] :: _ => some s
  | .word w :: _ => literal? w
  | _ => none

/-- Passes over a reserved word. -/
def expect (word : String) (tokens : List Token) : Option (List Token) :=
  if reserved? tokens = some word then some tokens.tail else none

/-- Whether a list of commands ends before a token. -/
def endsList (tokens : List Token) : Bool :=
  match tokens with
  | [] => true
  | .operator ")" :: _ => true
  | _ => (reserved? tokens).any ["do", "done", "then", "else", "elif", "fi", "\x7d"].contains

/-- A setting of a parameter. -/
def setting? : Word → Option (String × Word)
  | .text s :: rest =>
    if s.toList.all Token.isNameChar then
      match rest with
      | .text "=" :: value => some (s, value)
      | _ => (setting? rest).map fun (name, value) => (s ++ name, value)
    else none
  | _ => none

/-- Sorts words into settings and the words of a command. -/
def ofWords : List (String × Word) → List Word → Script
  | settings, [] => .simple settings []
  | settings, w :: ws =>
    match setting? w with
    | some s => ofWords (settings ++ [s]) ws
    | none => .simple settings (w :: ws)

/-- Reads the words of a simple command; the targets of redirections are passed over. -/
def readWords : List Token → List Word × List Token
  | .word w :: .operator ">" :: .operator "&" :: .word _ :: rest =>
    let (words, rest) := readWords rest
    (if (literal? w).any fun s => s.toList.all Char.isDigit then words else w :: words, rest)
  | .word w :: .operator ">" :: .word _ :: rest =>
    let (words, rest) := readWords rest
    (if (literal? w).any fun s => s.toList.all Char.isDigit then words else w :: words, rest)
  | .operator ">" :: .operator "&" :: .word _ :: rest => readWords rest
  | .operator ">" :: .word _ :: rest => readWords rest
  | .operator "<" :: .word _ :: rest => readWords rest
  | .word w :: rest =>
    let (words, rest) := readWords rest
    (w :: words, rest)
  | rest => ([], rest)

mutual

/-- Reads a command. -/
def readCommand : Nat → List Token → Option (Script × List Token)
  | 0, _ => none
  | fuel + 1, .operator "(" :: rest => do
    let (s, rest) ← readList fuel rest
    match rest with
    | .operator ")" :: rest => return (.apart s, rest)
    | _ => none
  | fuel + 1, tokens =>
    match reserved? tokens with
    | some "!" => do
      let (s, rest) ← readCommand fuel tokens.tail
      return (.negated s, rest)
    | some "\x7b" => do
      let (s, rest) ← readList fuel tokens.tail
      return (s, ← expect "\x7d" rest)
    | some "while" => readLoop fuel true tokens.tail
    | some "until" => readLoop fuel false tokens.tail
    | some "for" => readEach fuel tokens.tail
    | some "if" => do
      let (s, rest) ← readChoice fuel tokens.tail
      return (s, ← expect "fi" rest)
    | _ =>
      match readWords tokens with
      | ([], _) => none
      | (words, rest) => some (ofWords [] words, rest)

/-- Reads a loop behind its first word. -/
def readLoop : Nat → Bool → List Token → Option (Script × List Token)
  | 0, _, _ => none
  | fuel + 1, wanted, tokens => do
    let (test, rest) ← readList fuel tokens
    let (body, rest) ← readList fuel (← expect "do" rest)
    return (.loop wanted test body, ← expect "done" rest)

/-- Reads a loop over words behind its first word; by itself it is over the arguments. -/
def readEach : Nat → List Token → Option (Script × List Token)
  | 0, _ => none
  | fuel + 1, tokens => do
    let name ← reserved? tokens
    let (words, rest) :=
      match expect "in" tokens.tail with
      | some rest => readWords rest
      | none => ([[.value "@" true]], tokens.tail)
    let rest := if rest.head? = some (.operator ";") then rest.tail else rest
    let (body, rest) ← readList fuel (← expect "do" rest)
    return (.each name words body, ← expect "done" rest)

/-- Reads a condition behind its first word, up to its last one. -/
def readChoice : Nat → List Token → Option (Script × List Token)
  | 0, _ => none
  | fuel + 1, tokens => do
    let (test, rest) ← readList fuel tokens
    let (yes, rest) ← readList fuel (← expect "then" rest)
    match reserved? rest with
    | some "else" => do
      let (no, rest) ← readList fuel rest.tail
      return (.choice test yes no, rest)
    | some "elif" => do
      let (no, rest) ← readChoice fuel rest.tail
      return (.choice test yes no, rest)
    | _ => some (.choice test yes .nothing, rest)

/-- Reads commands that are joined by `&&` and `||`, behind the first of them. -/
def readJoined : Nat → Script → List Token → Option (Script × List Token)
  | 0, _, _ => none
  | fuel + 1, first, .operator "&&" :: rest => do
    let (second, rest) ← readCommand fuel rest
    readJoined fuel (.both first second) rest
  | fuel + 1, first, .operator "||" :: rest => do
    let (second, rest) ← readCommand fuel rest
    readJoined fuel (.either first second) rest
  | _ + 1, first, rest => some (first, rest)

/-- Reads a list of commands. -/
def readList : Nat → List Token → Option (Script × List Token)
  | 0, _ => none
  | fuel + 1, .operator ";" :: rest => readList fuel rest
  | fuel + 1, tokens =>
    if endsList tokens then some (.nothing, tokens)
    else do
      let (first, rest) ← readCommand fuel tokens
      let (first, rest) ← readJoined fuel first rest
      match rest with
      | .operator "&" :: rest => do
        let (others, rest) ← readList fuel rest
        return (.sequence (.background first) others, rest)
      | .operator ";" :: rest => do
        let (others, rest) ← readList fuel rest
        return (.sequence first others, rest)
      | rest => some (first, rest)

end

/-- The script in a text, unless it has a fault. -/
def ofString (s : String) : Option Script := do
  let tokens ← Token.ofString s
  match ← readList (4 * tokens.length + 4) tokens with
  | (script, []) => return script
  | _ => none

end Script

end AppLifecycle.Shell
