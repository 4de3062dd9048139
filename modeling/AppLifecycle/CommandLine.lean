import AppLifecycle.Text.Utf8

/-!
# Command lines

The arguments of a process, its program first. The system gives them with a zero byte behind each.
-/

namespace AppLifecycle

structure CommandLine where
  args : List String
deriving DecidableEq

namespace CommandLine

/-- The pieces between the zero bytes. -/
def splitZeros : List UInt8 → List (List UInt8)
  | [] => [[]]
  | b :: rest =>
    if b = 0 then [] :: splitZeros rest
    else
      match splitZeros rest with
      | piece :: pieces => (b :: piece) :: pieces
      | [] => [[b]]

/-- The arguments between zero bytes. Empty ones are lost. -/
def ofBytes (bytes : List UInt8) : CommandLine :=
  ⟨((splitZeros bytes).filter (!·.isEmpty)).map Text.decodeLossy⟩

def isEmpty (c : CommandLine) : Bool := c.args.isEmpty

/-- The arguments with a space between them. -/
def joined (c : CommandLine) : String := " ".intercalate c.args

/-- Whether the name of the program starts with `start`. -/
def startsWith (c : CommandLine) (start : String) : Bool :=
  c.args.head?.any fun program => start.toList.isPrefixOf program.toList

/-- Whether `piece` occurs in `s`. -/
def occursIn (piece : List Char) : List Char → Bool
  | [] => piece.isEmpty
  | c :: rest => piece.isPrefixOf (c :: rest) || occursIn piece rest

/-- Whether `piece` occurs anywhere, also across arguments. -/
def contains (c : CommandLine) (piece : String) : Bool :=
  occursIn piece.toList c.joined.toList

/-- What follows `start` in `s`, if `s` starts with it. -/
def dropStart? : List Char → List Char → Option (List Char)
  | [], s => some s
  | _ :: _, [] => none
  | p :: ps, c :: cs => if p = c then dropStart? ps cs else none

/-- What follows `start` in the first argument that starts with it. -/
def valueOf (c : CommandLine) (start : String) : Option String :=
  c.args.findSome? fun arg => (dropStart? start.toList arg.toList).map String.ofList

end CommandLine

end AppLifecycle
