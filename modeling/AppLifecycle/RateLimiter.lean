import AppLifecycle.Time

/-!
# Request budgets

Each client may make a number of requests in each window of time. A client's window opens with its
first request and is replaced by a new one at the first request after it has passed.
-/

namespace AppLifecycle

/-- The window of one client. -/
structure RateWindow where
  started : Instant
  used : Nat
deriving DecidableEq, Repr

structure RateLimiter (κ : Type) where
  budget : Nat
  window : Duration
  clients : List (κ × RateWindow)

namespace RateLimiter

variable {κ : Type} [DecidableEq κ]

def new (budget : Nat) (window : Duration) : RateLimiter κ := ⟨budget, window, []⟩

/-- The window of a client. -/
def window? (l : RateLimiter κ) (client : κ) : Option RateWindow :=
  (l.clients.find? (·.1 = client)).map (·.2)

/-- Replaces the window of a client. -/
def setWindow (l : RateLimiter κ) (client : κ) (w : RateWindow) : RateLimiter κ :=
  { l with clients := (client, w) :: l.clients.filter (·.1 ≠ client) }

/-- The window in which a request at `now` falls. -/
def current (l : RateLimiter κ) (client : κ) (now : Instant) : RateWindow :=
  match l.window? client with
  | none => ⟨now, 0⟩
  | some w => if l.window ≤ now.since w.started then ⟨now, 0⟩ else w

/-- Whether a request is allowed, counting it if so. -/
def check (l : RateLimiter κ) (client : κ) (now : Instant) : Bool × RateLimiter κ :=
  let w := l.current client now
  if w.used < l.budget then (true, l.setWindow client { w with used := w.used + 1 })
  else (false, l.setWindow client w)

/-- Forgets a client. -/
def remove (l : RateLimiter κ) (client : κ) : RateLimiter κ :=
  { l with clients := l.clients.filter (·.1 ≠ client) }

end RateLimiter

end AppLifecycle
