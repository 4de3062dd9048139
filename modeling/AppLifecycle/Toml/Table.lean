import AppLifecycle.Json.Value

/-!
# Tables of TOML documents

A document names its tables by paths, in any order. A table may be opened once; a table that was
made by a dotted key or stands in braces may not be opened at all. `Item` keeps for each table how
it came to be, so that every line can be accepted or refused when it comes.
-/

namespace AppLifecycle.Toml

open Json (Value)

/-- How a table came to be. -/
inductive Origin where
  /-- It was opened by a header. -/
  | header
  /-- It lies on the path of a header. -/
  | implied
  /-- It lies on the path of a dotted key. -/
  | dotted
deriving DecidableEq

/-- What a key stands for. -/
inductive Item where
  /-- A value, which is never added to. -/
  | value (v : Value)
  | table (origin : Origin) (members : List (String × Item))
  /-- An array of tables, the newest first. -/
  | tables (elements : List (List (String × Item)))

/-- The members of a table. -/
abbrev Members := List (String × Item)

namespace Members

/-- Gives a key an item in the place of the one that it has. -/
def set (m : Members) (key : String) (item : Item) : Members :=
  if (m.lookup key).isSome then m.map fun (k, i) => if k = key then (k, item) else (k, i)
  else m ++ [(key, item)]

/-- Gives a dotted key a value. The key must be new; the tables on its path must not have been
opened, and the last of them must have been made by a dotted key. -/
def assign (v : Value) : List String → Members → Option Members
  | [], _ => none
  | [key], m => if (m.lookup key).isSome then none else some (m.set key (.value v))
  | key :: rest, m =>
    let inner := 1 < rest.length
    match m.lookup key with
    | none => do return m.set key (.table .dotted (← assign v rest []))
    | some (.table origin members) =>
      if origin = .dotted ∨ (origin = .implied ∧ inner) then do
        return m.set key (.table origin (← assign v rest members))
      else none
    | some (.tables (newest :: older)) =>
      if inner then do return m.set key (.tables ((← assign v rest newest) :: older)) else none
    | _ => none

/-- Changes the table at the end of a path; of an array of tables the newest one is meant. -/
def modify (f : Members → Option Members) : List String → Members → Option Members
  | [], m => f m
  | key :: rest, m =>
    match m.lookup key with
    | none => do return m.set key (.table .implied (← modify f rest []))
    | some (.table origin members) => do
      return m.set key (.table origin (← modify f rest members))
    | some (.tables (newest :: older)) => do
      return m.set key (.tables ((← modify f rest newest) :: older))
    | _ => none

/-- Opens a table, which must be new or lie on the path of an earlier header. -/
def openTable (key : String) (m : Members) : Option Members :=
  match m.lookup key with
  | none => some (m.set key (.table .header []))
  | some (.table .implied members) => some (m.set key (.table .header members))
  | _ => none

/-- Adds a table to an array of tables. -/
def openElement (key : String) (m : Members) : Option Members :=
  match m.lookup key with
  | none => some (m.set key (.tables [[]]))
  | some (.tables elements) => some (m.set key (.tables ([] :: elements)))
  | _ => none

end Members

mutual

/-- The finished value of an item. -/
def Item.finish : Item → Value
  | .value v => v
  | .table _ members => .object (finishMembers members)
  | .tables elements => .array (finishElements elements [])

def finishMembers : List (String × Item) → List (String × Value)
  | [] => []
  | (key, item) :: rest => (key, item.finish) :: finishMembers rest

/-- The elements of an array of tables, oldest first, before those that are finished. -/
def finishElements : List (List (String × Item)) → List Value → List Value
  | [], done => done
  | members :: rest, done => finishElements rest (.object (finishMembers members) :: done)

end

/-- The value of a table. -/
def Members.value (m : Members) : Value := .object (finishMembers m)

end AppLifecycle.Toml
