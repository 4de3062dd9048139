/-!
# Universally unique identifiers

Thirty-two hexadecimal digits. They are written in five groups with hyphens between them; they may
also be read without the hyphens, between braces, or after `urn:uuid:`. Sessions and clients are
known by such identifiers.
-/

namespace AppLifecycle

/-- An identifier, as its digits. -/
structure Uuid where
  digits : List (Fin 16)
  size_digits : digits.length = 32
deriving DecidableEq

namespace Uuid

/-! ## Writing -/

/-- A digit, lower case. -/
def digitChar (d : Fin 16) : Char := Nat.digitChar d.val

/-- Where a hyphen stands in front of the digit at an index. -/
def startsGroup (i : Nat) : Bool := i = 8 || i = 12 || i = 16 || i = 20

/-- The digits from index `i` on. -/
def writeFrom (i : Nat) : List (Fin 16) → List Char
  | [] => []
  | d :: ds =>
    if startsGroup i then '-' :: digitChar d :: writeFrom (i + 1) ds
    else digitChar d :: writeFrom (i + 1) ds

/-- The text of an identifier: five groups of lower-case digits. -/
def text (u : Uuid) : String := String.ofList (writeFrom 0 u.digits)

/-! ## Reading -/

/-- The value of a hexadecimal digit of either case. -/
def digit? (c : Char) : Option (Fin 16) :=
  if '0' ≤ c ∧ c ≤ '9' then some (Fin.ofNat 16 (c.toNat - 48))
  else if 'a' ≤ c ∧ c ≤ 'f' then some (Fin.ofNat 16 (c.toNat - 87))
  else if 'A' ≤ c ∧ c ≤ 'F' then some (Fin.ofNat 16 (c.toNat - 55))
  else none

/-- The identifier whose digits are all zero. -/
def zero : Uuid := ⟨List.replicate 32 (Fin.ofNat 16 0), List.length_replicate⟩

/-- The digits of a text of hyphenated groups, from digit index `i` on. -/
def readGroups (i : Nat) : List Char → Option (List (Fin 16))
  | [] => some []
  | '-' :: c :: rest =>
    if startsGroup i then do
      let d ← digit? c
      let ds ← readGroups (i + 1) rest
      return d :: ds
    else none
  | c :: rest =>
    if startsGroup i then none
    else do
      let d ← digit? c
      let ds ← readGroups (i + 1) rest
      return d :: ds

/-- The identifier with these digits, if there are as many as it takes. -/
def ofDigits? (digits : List (Fin 16)) : Option Uuid :=
  if h : digits.length = 32 then some ⟨digits, h⟩ else none

/-- The text behind `urn:uuid:`, in either case. -/
def dropUrn? (s : List Char) : Option (List Char) :=
  if (s.take 9).map Char.toLower = ['u', 'r', 'n', ':', 'u', 'u', 'i', 'd', ':'] then
    some (s.drop 9)
  else none

/-- The text between braces. -/
def dropBraces? : List Char → Option (List Char)
  | '\x7b' :: rest => if rest.getLast? = some '\x7d' then some rest.dropLast else none
  | _ => none

/-- Reads an identifier. -/
def ofChars? (s : List Char) : Option Uuid :=
  if s.length = 32 then (s.mapM digit?).bind ofDigits?
  else
    let groups := (dropBraces? s).or (dropUrn? s) |>.getD s
    (readGroups 0 groups).bind ofDigits?

/-! ## What is wrong with a text -/

/-- Why a text is no identifier. -/
inductive Defect where
  | character (c : Char) (index : Nat)
  | length (found : Nat)
  | groupCount (found : Nat)
  | groupLength (group expected found : Nat)

/-- A defect in words. -/
def Defect.message : Defect → String
  | .character c index => s!"invalid character: found `{c}` at {index}"
  | .length found => s!"invalid length: found {found}"
  | .groupCount found => s!"invalid group count: expected 5, found {found}"
  | .groupLength group expected found =>
    s!"invalid group length in group {group}: expected {expected}, found {found}"

/-- How many bytes a text takes. -/
def bytes (s : List Char) : Nat := s.foldl (fun n c => n + c.utf8Size) 0

/-- The first character that is neither a digit nor a hyphen, with the bytes before it. -/
def badChar? (at_ : Nat) : List Char → Option (Char × Nat)
  | [] => none
  | c :: rest =>
    if c = '-' || (digit? c).isSome then badChar? (at_ + c.utf8Size) rest else some (c, at_)

/-- The indices of the hyphens. -/
def hyphens (i : Nat) : List Char → List Nat
  | [] => []
  | c :: rest => if c = '-' then i :: hyphens (i + 1) rest else hyphens (i + 1) rest

/-- The groups with the place where each should begin and how long it should be. -/
def groups : List (Nat × Nat × Nat) := [(0, 0, 8), (1, 9, 4), (2, 14, 4), (3, 19, 4), (4, 24, 12)]

/-- The first group of a text with four hyphens that ends elsewhere than it should. -/
def badGroup (size : Nat) : List (Nat × Nat × Nat) → List Nat → Defect
  | (group, start, expected) :: rest, hyphen :: hyphens =>
    if hyphen ≠ start + expected then .groupLength group expected (hyphen - start)
    else badGroup size rest hyphens
  | (group, start, expected) :: _, [] => .groupLength group expected (size - start)
  | [], _ => .length size

/-- What is wrong with a text that is no identifier: a foreign character, else the number of groups,
else the length of one. -/
def defect (s : List Char) : Defect :=
  let inner := (dropBraces? s).or (dropUrn? s)
  let body := inner.getD s
  match badChar? 0 body with
  | some (c, index) =>
    let before := if (dropBraces? s).isSome then 1 else if inner.isSome then 9 else 0
    .character c (before + index)
  | none =>
    let found := hyphens 0 body
    if found.isEmpty && inner.isNone then .length (bytes s)
    else if found.length ≠ 4 then .groupCount (found.length + 1)
    else badGroup (bytes s) groups found

end Uuid

/-- The id of a graphical session. -/
structure SessionId where
  uuid : Uuid
deriving DecidableEq

/-- The id of a connected client. -/
structure ClientId where
  uuid : Uuid
deriving DecidableEq

def SessionId.text (id : SessionId) : String := id.uuid.text

def ClientId.text (id : ClientId) : String := id.uuid.text

end AppLifecycle
