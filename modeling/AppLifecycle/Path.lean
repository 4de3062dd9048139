/-!
# File paths

Paths are texts. Components are separated by slashes; empty components and `.` count for nothing,
except that a relative path may begin with `.`.
-/

namespace AppLifecycle

structure Path where
  text : String
deriving DecidableEq

namespace Path

/-- The pieces between slashes. -/
def pieces : List Char → List (List Char)
  | [] => [[]]
  | c :: rest =>
    match pieces rest with
    | piece :: more => if c = '/' then [] :: piece :: more else (c :: piece) :: more
    | [] => [[c]]

/-- The pieces with slashes between them. -/
def unpieces : List (List Char) → List Char
  | [] => []
  | [piece] => piece
  | piece :: more => piece ++ '/' :: unpieces more

/-- A path beneath another one. An absolute path stays what it is. -/
def joinChars (base part : List Char) : List Char :=
  if part.head? = some '/' then part
  else if base.isEmpty || base.getLast? = some '/' then base ++ part
  else base ++ '/' :: part

def join (base : Path) (part : String) : Path :=
  ⟨String.ofList (joinChars base.text.toList part.toList)⟩

/-- Whether a piece counts for nothing behind the first one. -/
def isFiller (piece : List Char) : Bool := piece.isEmpty || piece = ['.']

/-- Drops the pieces at the end that count for nothing, given in reverse; the first piece of the
path stays. -/
def dropFillers : List (List Char) → List (List Char)
  | [] => []
  | [first] => [first]
  | piece :: more => if isFiller piece then dropFillers more else piece :: more

/-- The last component and, in reverse, the pieces before it, if the path names a file. -/
def splitName? (s : List Char) : Option (List Char × List (List Char)) :=
  match dropFillers (pieces s).reverse with
  | [] => none
  | name :: before => if isFiller name || name = ['.', '.'] then none else some (name, before)

/-- The name of the file that a path leads to. -/
def fileName? (s : List Char) : Option (List Char) := (splitName? s).map (·.1)

/-- What stands before the file name; the root is left if it is all there is. -/
def directory (before : List (List Char)) : List Char :=
  match dropFillers before with
  | [[]] => ['/']
  | kept => unpieces kept.reverse

/-- The path with another file name, or with one added if it has none. -/
def withFileName (p : Path) (name : String) : Path :=
  let s := p.text.toList
  match splitName? s with
  | none => p.join name
  | some (_, []) => ⟨name⟩
  | some (_, before) => ⟨String.ofList (joinChars (directory before) name.toList)⟩

end Path

end AppLifecycle
