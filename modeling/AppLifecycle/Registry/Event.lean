import AppLifecycle.Protocol.Event

/-!
# Registry events

Every change of the registry's list is announced, in the order in which the changes were made. An
observer who replays the events in order keeps a `Projection`: the ids in focus order and the
focused id.
-/

namespace AppLifecycle

inductive RegistryEvent where
  | added (index : Nat) (id : AppId)
  | removed (index : Nat) (id : AppId)
  | moved (source target : Nat)
  | countChanged (count : Nat)
  | focusChanged (id : Option AppId)
  | fieldChanged (id : AppId) (field : ModelField)
  | focusRequested (id : AppId)
deriving DecidableEq

namespace RegistryEvent

/-- The event as clients are told of it. -/
def payload : RegistryEvent → EventPayload
  | .added index id => .applicationAdded index id
  | .removed index id => .applicationRemoved index id
  | .moved source target => .applicationMoved source target
  | .countChanged count => .countChanged count
  | .focusChanged id => .focusChanged id
  | .fieldChanged id field => .fieldChanged id field
  | .focusRequested id => .focusRequested id

end RegistryEvent

/-- An observer's copy of the registry. -/
structure Projection where
  ids : List AppId
  focused : Option AppId
deriving DecidableEq

namespace Projection

/-- What an observer knows at first. -/
def empty : Projection := ⟨[], none⟩

/-- Replays an event; `none` if it does not fit the copy: an index out of range, another id at the
index of a removal, or a wrong count. -/
def apply (p : Projection) : RegistryEvent → Option Projection
  | .added index id =>
    if index ≤ p.ids.length then some { p with ids := p.ids.insertIdx index id } else none
  | .removed index id =>
    if p.ids[index]? = some id then some { p with ids := p.ids.eraseIdx index } else none
  | .moved source target =>
    match p.ids[source]? with
    | none => none
    | some id =>
      let rest := p.ids.eraseIdx source
      if target ≤ rest.length then some { p with ids := rest.insertIdx target id } else none
  | .countChanged count => if count = p.ids.length then some p else none
  | .focusChanged id => some { p with focused := id }
  | .fieldChanged _ _ => some p
  | .focusRequested _ => some p

/-- Replays events in order. -/
def replay (p : Projection) (events : List RegistryEvent) : Option Projection :=
  events.foldlM apply p

end Projection

end AppLifecycle
