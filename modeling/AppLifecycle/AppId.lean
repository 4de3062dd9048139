/-!
# Application ids

An application is known by a short id. Packaged applications also have a long id
`package_app_version`, which is accepted everywhere and shortened to `package_app`.
-/

namespace AppLifecycle

/-- The id of an application, as it was given. -/
structure AppId where
  text : String
deriving DecidableEq, Inhabited

namespace AppId

/-! ## Sections -/

/-- The section before the first underscore, and what follows the underscore, if there is one. -/
def splitSection (s : List Char) : List Char × Option (List Char) :=
  match s with
  | [] => ([], none)
  | '_' :: rest => ([], some rest)
  | c :: rest =>
    let (head, tail) := splitSection rest
    (c :: head, tail)

def isLowerOrDigit (c : Char) : Bool := c.isLower || c.isDigit

/-- At least two characters, the first a lower-case letter or a digit. -/
def isPackage (s : List Char) : Bool :=
  2 ≤ s.length && s.head?.any isLowerOrDigit &&
    s.all fun c => isLowerOrDigit c || c = '+' || c = '.' || c = '-'

/-- Not empty. -/
def isApp (s : List Char) : Bool :=
  !s.isEmpty && s.all fun c => c.isAlphanum || c = '+' || c = '.' || c = '-'

/-- Begins with a digit and holds no underscore. -/
def isVersion (s : List Char) : Bool :=
  s.head?.any Char.isDigit &&
    s.all fun c => c.isAlphanum || c = '.' || c = '+' || c = ':' || c = '~' || c = '-'

/-- The short form of a long id, or `none` where the id is not long. -/
def shortForm? (s : List Char) : Option (List Char) :=
  match splitSection s with
  | (package, some rest) =>
    match splitSection rest with
    | (app, some version) =>
      if isPackage package && isApp app && isVersion version then some (package ++ '_' :: app)
      else none
    | _ => none
  | _ => none

/-- The id under which an application is tracked. -/
def normalized (id : AppId) : AppId :=
  match shortForm? id.text.toList with
  | some short => ⟨String.ofList short⟩
  | none => id

/-- The section before the first underscore, which is the package name of a long id. -/
def package (id : AppId) : String := String.ofList (splitSection id.text.toList).1

def isEmpty (id : AppId) : Bool := id.text.isEmpty

/-- The order of ids: code point by code point. -/
def le (a b : AppId) : Bool := !decide (b.text < a.text)

end AppId

end AppLifecycle
