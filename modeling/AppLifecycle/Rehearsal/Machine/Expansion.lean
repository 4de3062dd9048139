import AppLifecycle.Rehearsal.Machine.Utility
import AppLifecycle.Rehearsal.Shell.Arithmetic

/-!
# Expanding words

A word of a script becomes the arguments it stands for: none, one, or more where a value outside
quotes has blanks in it.
-/

namespace AppLifecycle.Machine

open Shell (Piece Word Script)

/-- The value of a parameter, if it is set. -/
def ShellState.value? (s : ShellState) (dir : List String) (name : String) : Option String :=
  match name with
  | "$" => some (toString s.main)
  | "#" => some (toString (s.args.length - 1))
  | "?" => some (toString s.status)
  | "!" => s.lastJob.map toString
  | "@" => some (" ".intercalate s.args.tail)
  | "*" => some (" ".intercalate s.args.tail)
  | "PWD" => some (Files.text dir)
  | name =>
    match name.toNat? with
    | some n => s.args[n]?
    | none => (s.locals.lookup name).or (s.env.lookup name)

/-- Arguments that are being put together. -/
structure Cutting where
  finished : List String
  /-- The argument that is not finished. -/
  last : Option String

namespace Cutting

def nothing : Cutting := ⟨[], none⟩

/-- Adds to the last argument. -/
def add (c : Cutting) (s : String) : Cutting := { c with last := some (c.last.getD "" ++ s) }

/-- Finishes the last argument. -/
def close (c : Cutting) : Cutting := ⟨c.finished ++ c.last.toList, none⟩

/-- Adds arguments that are separate from each other. -/
def addAll (c : Cutting) : List String → Cutting
  | [] => c
  | [a] => c.add a
  | a :: rest => (c.add a).close.addAll rest

def isBlank (c : Char) : Bool := c = ' ' || c = '\t' || c = '\n'

/-- Adds a value that is cut at its blanks. -/
def addCut (c : Cutting) : List Char → Cutting
  | [] => c
  | a :: rest => if isBlank a then c.close.addCut rest else (c.add a.toString).addCut rest

def arguments (c : Cutting) : List String := c.close.finished

end Cutting

/-- What a command wrote, without the line ends behind it. -/
def trimOutput (s : String) : String :=
  String.ofList (s.toList.reverse.dropWhile (· = '\n')).reverse

mutual

/-- Adds a piece of a word to the arguments. -/
def expandPiece (depth : Nat) (v : View) (s : ShellState) (c : Cutting) : Piece → Cutting
  | .text t => c.add t
  | .whereSet name other => if (s.value? v.dir name).isSome then c.add other else c
  | .orElse name other =>
    match (s.value? v.dir name).filter (· ≠ "") with
    | some value => c.add value
    | none => c.add other
  | .number expression =>
    let value (name : String) : Int := ((s.value? v.dir name).bind String.toInt?).getD 0
    c.add (((Shell.Arithmetic.eval? value expression).map toString).getD "")
  | .value "@" true => c.addAll s.args.tail
  | .value name quoted =>
    let value := (s.value? v.dir name).getD ""
    if quoted then c.add value else c.addCut value.toList
  | .output command quoted =>
    match depth with
    | 0 => c
    | depth + 1 =>
      let value := trimOutput (outputOf depth v s command)
      if quoted then c.add value else c.addCut value.toList

/-- The arguments that words stand for. -/
def expandWords (depth : Nat) (v : View) (s : ShellState) : List Word → List String
  | [] => []
  | w :: ws =>
    (w.foldl (expandPiece depth v s) .nothing).arguments ++ expandWords depth v s ws

/-- What a simple command writes. -/
def outputOf (depth : Nat) (v : View) (s : ShellState) (command : String) : String :=
  match Script.ofString command with
  | some (.simple _ words) => ((Utility.run v (expandWords depth v s words)).map (·.2)).getD ""
  | _ => ""

end

/-- How deep commands may stand within commands. -/
def maxDepth : Nat := 8

/-- The arguments that words stand for. -/
def ShellState.expand (s : ShellState) (v : View) (words : List Word) : List String :=
  expandWords maxDepth v s words

/-- The one text that a word stands for. -/
def ShellState.expandWhole (s : ShellState) (v : View) (w : Word) : String :=
  " ".intercalate (s.expand v [w])

end AppLifecycle.Machine
