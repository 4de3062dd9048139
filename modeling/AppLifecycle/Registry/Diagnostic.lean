import AppLifecycle.Registry.Basic
import AppLifecycle.Text.Quoted

/-!
# Diagnostics

How records and registries are shown to someone who looks for a fault. Session ids are shown by a
given name.
-/

namespace AppLifecycle

/-- A value that may be missing. -/
def describeOption {α : Type} (f : α → String) : Option α → String
  | none => "None"
  | some a => s!"Some({f a})"

def AppId.describe (id : AppId) : String := s!"AppId({Text.quote id.text})"

/-- A named list of fields. -/
def describeFields (name : String) (fields : List (String × String)) : String :=
  let inside := ", ".intercalate (fields.map fun (k, v) => k ++ ": " ++ v)
  name ++ " \x7b " ++ inside ++ " \x7d"

namespace Record

def describe (sessionName : SessionId → String) (r : Record) : String :=
  describeFields "ApplicationRecord" [
    ("id", r.id.describe), ("state", r.state.label), ("requested", r.requested.label),
    ("process_state", r.process.label), ("pid", toString r.pid),
    ("session", describeOption (fun s => "SessionId(" ++ sessionName s.id ++ ")") r.session),
    ("exempt", toString r.exempt)]

end Record

namespace Registry

def describe (sessionName : SessionId → String) (reg : Registry) : String :=
  let entries := ", ".intercalate (reg.entries.map (Record.describe sessionName))
  let helpers := ", ".intercalate ((reg.helpers.mergeSort (· ≤ ·)).map toString)
  describeFields "ApplicationRegistry" [
    ("entries", "[" ++ entries ++ "]"), ("focused", describeOption AppId.describe reg.focused),
    ("helper_pids", "\x7b" ++ helpers ++ "\x7d")]

end Registry

end AppLifecycle
