import AppLifecycle.Proofs.Registry.Reachable
import AppLifecycle.Proofs.Scene.Frozen

/-!
# The history of a registry

What the controller was asked for since the registry was empty, in order, and where in between the
incarnations of applications begin. An application begins anew when its record is created, when the
controller is asked to launch it, and when a process is reported to start that makes its record a
starting one. What matters of a history is what the controller was last asked to do with the process
of the current incarnation (`lastHold`).
-/

namespace AppLifecycle

/-- What a history keeps of an operation. -/
inductive Moment where
  /-- An incarnation of an application begins. -/
  | begun (id : AppId)
  | called (asked : ControllerCall)
deriving DecidableEq

namespace Moment

/-- An incarnation of the application begins, with a launch or without. -/
def begins (id : AppId) : Moment → Bool
  | .begun other => other = id
  | .called (.start other _) => other = id
  | _ => false

/-- The controller is asked to suspend the process of the application, or to resume it. -/
def holds (id : AppId) : Moment → Bool
  | .called (.suspend other) => other = id
  | .called (.resume other) => other = id
  | _ => false

end Moment

/-- The last time in the current incarnation of an application that the controller was asked to
suspend its process or to resume it. -/
def lastHold (id : AppId) (history : List Moment) : Option Moment :=
  (history.reverse.takeWhile fun moment => !moment.begins id).find? (·.holds id)

lemma lastHold_concat (id : AppId) (history : List Moment) (moment : Moment) :
    lastHold id (history ++ [moment]) =
      if moment.begins id then none
      else if moment.holds id then some moment
      else lastHold id history := by
  unfold lastHold
  rw [List.reverse_concat, List.takeWhile_cons]
  cases moment.begins id with
  | true => rfl
  | false =>
    cases hholds : moment.holds id with
    | true => simp [hholds]
    | false => simp [hholds]

/-- The process of the current incarnation was to be suspended, and not to be resumed since. -/
def isFrozen (id : AppId) (history : List Moment) : Bool :=
  lastHold id history = some (.called (.suspend id))

/-- What an effect is in a history. -/
def Effect.moment : Effect → Option Moment
  | .call asked => some (.called asked)
  | _ => none

/-- A history says of each process what the effects have done to it. -/
lemma isFrozen_effects (id : AppId) (history : List Moment) (effects : List Effect) :
    isFrozen id (history ++ effects.filterMap Effect.moment) =
      freezeAll id (isFrozen id history) effects := by
  induction effects using List.reverseRecOn with
  | nil => simp [freezeAll]
  | append_singleton effects e ih =>
    rw [freezeAll_append, ← ih, List.filterMap_append, ← List.append_assoc]
    generalize history ++ effects.filterMap Effect.moment = before
    cases e with
    | call asked =>
      show isFrozen id (before ++ [.called asked]) = (Effect.call asked).freeze id _
      unfold isFrozen
      rw [lastHold_concat]
      cases asked with
      | start other args =>
        by_cases h : other = id <;> simp [Moment.begins, Moment.holds, Effect.freeze, h]
      | stop other => rfl
      | suspend other =>
        by_cases h : other = id <;> simp [Moment.begins, Moment.holds, Effect.freeze, h]
      | resume other =>
        by_cases h : other = id <;> simp [Moment.begins, Moment.holds, Effect.freeze, h]
      | terminate pid => rfl
    | _ =>
      show isFrozen id (before ++ []) = isFrozen id before
      rw [List.append_nil]

/-- At its beginning, the process of an incarnation is not frozen. -/
lemma isFrozen_begun (id : AppId) (history : List Moment) (ids : List AppId) :
    isFrozen id (history ++ ids.map .begun) =
      if id ∈ ids then false else isFrozen id history := by
  induction ids using List.reverseRecOn with
  | nil => simp
  | append_singleton ids other ih =>
    rw [List.map_append, ← List.append_assoc]
    show isFrozen id (_ ++ [.begun other]) = _
    unfold isFrozen at ih ⊢
    rw [lastHold_concat]
    by_cases h : other = id
    · simp [Moment.begins, h]
    · simp [Moment.begins, Moment.holds, h, Ne.symm h, ih]

namespace Registry

variable {host : Host} {op : Operation} {reg reg' : Registry} {r q : Record} {id : AppId}
variable {history : List Moment}

/-- A process of some application is reported to start. -/
def reportsStart : Operation → Bool
  | .process (.starting _) => true
  | _ => false

/-- An incarnation begins with an operation that leads to the record `q`: there was no such record
before, or a process is reported to start and makes it a starting one. -/
def incarnates (op : Operation) (reg : Registry) (q : Record) : Bool :=
  match reg.entries.find? (·.owner = q.owner) with
  | none => true
  | some r => reportsStart op && r.state ≠ .starting && q.state = .starting

/-- What a history keeps of an operation that leads from `reg` to `reg'`. An operation that begins
an incarnation asks the controller afterwards, if at all. -/
def moments (op : Operation) (reg reg' : Registry) : List Moment :=
  (((reg'.entries.filter (incarnates op reg)).map Record.id).map .begun) ++
    (reg'.journal.drop reg.journal.length).filterMap Effect.moment

/-- A registry that operations lead to from an empty one, with its history. -/
inductive Chronicled : Registry → List Moment → Prop where
  | empty (lifecycle : LifecyclePolicy) (authorization : AuthorizationPolicy) :
      Chronicled (.empty lifecycle authorization) []
  | perform {reg : Registry} {history : List Moment} {host : Host} (op : Operation) :
      Chronicled reg history → host.Faithful →
      Chronicled (reg.perform host op).2 (history ++ moments op reg (reg.perform host op).2)
  | takeEvents {reg : Registry} {history : List Moment} :
      Chronicled reg history → Chronicled reg.takeEvents.2 history
  | takeJournal {reg : Registry} {history : List Moment} :
      Chronicled reg history → Chronicled reg.takeJournal.2 history

lemma Chronicled.reachable (h : Chronicled reg history) : Reachable Host.Faithful reg := by
  induction h with
  | empty lifecycle authorization => exact .empty lifecycle authorization
  | perform op _ faithful ih => exact ih.perform op faithful
  | takeEvents _ ih => exact ih.takeEvents
  | takeJournal _ ih => exact ih.takeJournal

/-- Every registry that can be reached has a history. -/
lemma Reachable.chronicled (h : Reachable Host.Faithful reg) :
    ∃ history, Chronicled reg history := by
  induction h with
  | empty lifecycle authorization => exact ⟨[], .empty lifecycle authorization⟩
  | perform op _ faithful ih =>
    obtain ⟨history, chronicled⟩ := ih
    exact ⟨_, chronicled.perform op faithful⟩
  | takeEvents _ ih =>
    obtain ⟨history, chronicled⟩ := ih
    exact ⟨history, chronicled.takeEvents⟩
  | takeJournal _ ih =>
    obtain ⟨history, chronicled⟩ := ih
    exact ⟨history, chronicled.takeJournal⟩

/-- The history of a run from `reg` on. -/
def chronicle (reg : Registry) : List (Host × Operation) → List Moment
  | [] => []
  | (host, op) :: run =>
    moments op reg (reg.perform host op).2 ++ (reg.perform host op).2.chronicle run

lemma Chronicled.performAll (h : Chronicled reg history) {run : List (Host × Operation)}
    (faithful : ∀ x ∈ run, x.1.Faithful) :
    Chronicled (reg.performAll run) (history ++ reg.chronicle run) := by
  induction run generalizing reg history with
  | nil =>
    show Chronicled reg (history ++ [])
    rw [List.append_nil]
    exact h
  | cons x run ih =>
    rw [List.forall_mem_cons] at faithful
    show Chronicled ((reg.perform x.1 x.2).2.performAll run) (history ++ (_ ++ _))
    rw [← List.append_assoc]
    exact ih (h.perform x.2 faithful.1) faithful.2

end Registry

end AppLifecycle
