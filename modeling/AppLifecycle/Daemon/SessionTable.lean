import AppLifecycle.Host

/-!
# The table of sessions

The sessions that compositors have announced and the states that they have reported. A session stays
in the table until the hold on it is given up; a session that is announced again begins anew.
-/

namespace AppLifecycle

/-- What is known of an announced session. -/
structure SessionEntry where
  compositor : ClientId
  pid : Nat
  state : SessionState
deriving DecidableEq

/-- The entries under their ids; no id occurs twice. -/
structure SessionTable where
  entries : List (SessionId × SessionEntry)

namespace SessionTable

def empty : SessionTable := ⟨[]⟩

def size (t : SessionTable) : Nat := t.entries.length

def isEmpty (t : SessionTable) : Bool := t.entries.isEmpty

def get? (t : SessionTable) (id : SessionId) : Option SessionEntry :=
  (t.entries.find? (·.1 = id)).map (·.2)

/-- The state reported last. -/
def state? (t : SessionTable) (id : SessionId) : Option SessionState :=
  (t.get? id).map SessionEntry.state

/-- The compositor that announced a session. -/
def owner? (t : SessionTable) (id : SessionId) : Option ClientId :=
  (t.get? id).map SessionEntry.compositor

/-- The state of a session as the one who holds it sees it. -/
def stateOf (t : SessionTable) (id : SessionId) : SessionState := (t.state? id).getD .stopped

def remove (t : SessionTable) (id : SessionId) : SessionTable := ⟨t.entries.filter (·.1 ≠ id)⟩

/-- A compositor announces a session. -/
def register (t : SessionTable) (id : SessionId) (compositor : ClientId) (pid : Nat) :
    SessionTable :=
  ⟨(t.remove id).entries ++ [(id, ⟨compositor, pid, .starting⟩)]⟩

/-- A session reports a state. -/
def setState (t : SessionTable) (id : SessionId) (state : SessionState) : SessionTable :=
  ⟨t.entries.map fun (i, e) => if i = id then (i, { e with state }) else (i, e)⟩

/-- The ids of the sessions of a compositor. -/
def idsOf (t : SessionTable) (compositor : ClientId) : List SessionId :=
  (t.entries.filter (·.2.compositor = compositor)).map (·.1)

/-- A compositor has gone: its sessions count as stopped. -/
def orphan (t : SessionTable) (compositor : ClientId) : SessionTable :=
  ⟨t.entries.map fun (i, e) =>
    if e.compositor = compositor then (i, { e with state := .stopped }) else (i, e)⟩

/-- A hold on a session of the table. -/
def hold? (t : SessionTable) (id : SessionId) : Option Session :=
  (t.get? id).map fun e => ⟨id, e.pid, e.compositor⟩

end SessionTable

end AppLifecycle
