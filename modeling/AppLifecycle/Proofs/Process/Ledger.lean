import AppLifecycle.Process.Controller
import Mathlib.Data.List.Induction
import Mathlib.Data.List.Perm.Basic
import Mathlib.Tactic.Lemma
import Mathlib.Tactic.SplitIfs

/-!
# A ledger of launches

The events of a controller name applications, not launches. A `Ledger` is a controller that numbers
its launches, so that it knows of each process and of each event which launch it belongs to. It
runs as the controller does (`Ledger.Matches`), and it accounts for every launch: the start of it
waits or was announced, once, and it has a process, or one end of it was collected or reported
(`Ledger.Sound`).
-/

namespace AppLifecycle

namespace ProcessEvent

def isStart : ProcessEvent → Bool
  | .starting _ => true
  | _ => false

def isEnd : ProcessEvent → Bool
  | .stopped _ | .failed _ _ => true
  | _ => false

lemma isStart_of_isEnd {e : ProcessEvent} (h : isEnd e = true) : isStart e = false := by
  cases e <;> first | rfl | cases h

end ProcessEvent

open ProcessEvent (isStart isEnd)

lemma Controller.exitEvent_isEnd (c : Controller) (now : Instant) (t : Tracked)
    (exit : ProcessExit) : isEnd (c.exitEvent now t exit) = true := by
  unfold exitEvent
  split <;> rfl

lemma Controller.exitEvent_id (c : Controller) (now : Instant) (t : Tracked)
    (exit : ProcessExit) : (c.exitEvent now t exit).id = t.id := by
  unfold exitEvent
  split <;> rfl

/-- A controller after a schedule. -/
def Controller.after (catalog : List Descriptor) (grace : Duration) (steps : List Step) :
    Controller :=
  steps.foldl step (.start catalog grace)

/-! ## Launches that are numbered -/

/-- A controller that numbers the launches from 0 on, and knows which of them its processes and its
events belong to. -/
structure Ledger where
  catalog : List Descriptor
  grace : Duration
  /-- The applications that were launched, oldest launch first. -/
  launched : List AppId
  tracked : List (Nat × Tracked)
  unannounced : List (Nat × AppId)
  collected : List (Nat × ProcessEvent)
  stream : List (Nat × ProcessEvent)

/-- A step of one of those who take turns; a start is announced by the launch itself. -/
inductive Turn where
  | track (id : AppId) (pid : Nat) (now : Instant)
  | announce (n : Nat) (id : AppId)
  | stop (id : AppId)
  | suspend (id : AppId)
  | collect (exits : Nat → Option ProcessExit) (now : Instant)
  | report

namespace Ledger

variable {l : Ledger} {c : Controller} {n : Nat} {id : AppId}

def start (catalog : List Descriptor) (grace : Duration) : Ledger :=
  ⟨catalog, grace, [], [], [], [], []⟩

/-- The controller, which does not know the numbers. -/
def controller (l : Ledger) : Controller where
  catalog := l.catalog
  grace := l.grace
  tracked := l.tracked.map Prod.snd
  unannounced := l.unannounced.map Prod.snd
  collected := l.collected.map Prod.snd
  stream := l.stream.map Prod.snd

def track (l : Ledger) (id : AppId) (pid : Nat) (now : Instant) : Ledger :=
  { l with
    launched := l.launched ++ [id]
    tracked := l.tracked ++ [(l.launched.length, ⟨id, pid, now, false⟩)]
    unannounced := l.unannounced ++ [(l.launched.length, id)] }

def announce (l : Ledger) (n : Nat) (id : AppId) : Ledger :=
  if (n, id) ∈ l.unannounced then
    { l with
      unannounced := l.unannounced.erase (n, id)
      stream := l.stream ++ [(n, .starting id)] }
  else l

def markStopping (l : Ledger) (id : AppId) : Ledger :=
  { l with
    tracked := l.tracked.map fun x =>
      (x.1, if x.2.id = id then { x.2 with stopping := true } else x.2) }

def suspended (l : Ledger) (id : AppId) : Ledger :=
  match l.tracked.find? (·.2.id = id) with
  | none => l
  | some x => { l with stream := l.stream ++ [(x.1, .suspended id)] }

def collect (l : Ledger) (exits : Nat → Option ProcessExit) (now : Instant) : Ledger :=
  { l with
    tracked := l.tracked.filter fun x => (exits x.2.pid).isNone
    collected := l.collected ++ l.tracked.filterMap fun x =>
      (exits x.2.pid).map fun exit => (x.1, l.controller.exitEvent now x.2 exit) }

def reportNext (l : Ledger) : Ledger :=
  match l.collected with
  | [] => l
  | x :: collected => { l with collected, stream := l.stream ++ [x] }

def step (l : Ledger) : Turn → Ledger
  | .track id pid now =>
    match l.controller.launchable id with
    | .ok _ => l.track id pid now
    | .error _ => l
  | .announce n id => l.announce n id
  | .stop id => l.markStopping id
  | .suspend id => l.suspended id
  | .collect exits now => l.collect exits now
  | .report => l.reportNext

/-- A launch succeeds, or it changes nothing. -/
lemma step_track (l : Ledger) (id : AppId) (pid : Nat) (now : Instant) :
    l.step (.track id pid now) = l.track id pid now ∨ l.step (.track id pid now) = l := by
  unfold step
  dsimp only
  split
  · exact .inl rfl
  · exact .inr rfl

def after (catalog : List Descriptor) (grace : Duration) (turns : List Turn) : Ledger :=
  turns.foldl step (start catalog grace)

/-! ## The controller that is matched -/

/-- Without the numbers it is the controller, but for the order in which starts wait to be
announced: of two launches of an application either may come first. -/
def Matches (l : Ledger) (c : Controller) : Prop :=
  ∃ waiting, waiting.Perm l.controller.unannounced ∧
    c = { l.controller with unannounced := waiting }

lemma start_matches (catalog : List Descriptor) (grace : Duration) :
    (start catalog grace).Matches (.start catalog grace) :=
  ⟨[], .refl _, rfl⟩

lemma Matches.track (h : l.Matches c) (id : AppId) (pid : Nat) (now : Instant) :
    (l.step (.track id pid now)).Matches (c.step (.track id pid now)) := by
  obtain ⟨waiting, perm, rfl⟩ := h
  show Matches (match l.controller.launchable id with | .ok _ => _ | .error _ => _)
    (match l.controller.launchable id with | .ok _ => _ | .error _ => _)
  split
  · refine ⟨waiting ++ [id], ?_, ?_⟩
    · simpa [Ledger.track, controller] using perm.append_right [id]
    · simp [Ledger.track, controller, Controller.track]
  · exact ⟨waiting, perm, rfl⟩

lemma Matches.announce (h : l.Matches c) (mem : (n, id) ∈ l.unannounced) :
    (l.announce n id).Matches (c.announce id) := by
  obtain ⟨waiting, perm, rfl⟩ := h
  -- whichever launch of the application it is, the controller takes the first one out
  have split : waiting.Perm (id :: (l.unannounced.erase (n, id)).map Prod.snd) :=
    perm.trans ((List.perm_cons_erase mem).map Prod.snd)
  have named : id ∈ waiting := split.mem_iff.mpr List.mem_cons_self
  unfold Ledger.announce Controller.announce
  rw [if_pos mem, if_pos named]
  refine ⟨waiting.erase id, ?_, ?_⟩
  · have rest := split.erase id
    rwa [List.erase_cons_head] at rest
  · simp [controller]

lemma Matches.markStopping (h : l.Matches c) (id : AppId) :
    (l.markStopping id).Matches (c.markStopping id) := by
  obtain ⟨waiting, perm, rfl⟩ := h
  refine ⟨waiting, perm, ?_⟩
  simp [Ledger.markStopping, Controller.markStopping, controller, Function.comp_def]

lemma Matches.suspended (h : l.Matches c) (id : AppId) :
    (l.suspended id).Matches (c.suspended id) := by
  obtain ⟨waiting, perm, rfl⟩ := h
  have found : Controller.tracked? { l.controller with unannounced := waiting } id =
      (l.tracked.find? (·.2.id = id)).map Prod.snd := List.find?_map
  unfold Ledger.suspended Controller.suspended
  rw [found]
  cases l.tracked.find? (·.2.id = id) with
  | none => exact ⟨waiting, perm, rfl⟩
  | some x =>
    refine ⟨waiting, perm, ?_⟩
    simp [controller]

lemma Matches.collect (h : l.Matches c) (exits : Nat → Option ProcessExit) (now : Instant) :
    (l.collect exits now).Matches (c.collect exits now) := by
  obtain ⟨waiting, perm, rfl⟩ := h
  refine ⟨waiting, perm, ?_⟩
  simp [Ledger.collect, Controller.collect, controller, List.filter_map, List.filterMap_map,
    List.map_filterMap, Function.comp_def]
  rfl

lemma Matches.reportNext (h : l.Matches c) : l.reportNext.Matches c.reportNext := by
  obtain ⟨waiting, perm, rfl⟩ := h
  unfold Ledger.reportNext Controller.reportNext
  cases collected : l.collected with
  | nil =>
    refine ⟨waiting, perm, ?_⟩
    simp [controller, collected]
  | cons x rest =>
    refine ⟨waiting, perm, ?_⟩
    simp [controller, collected]

/-- Whatever step the controller takes, there is a turn for it. -/
lemma Matches.exists_turn (h : l.Matches c) (step : Controller.Step) :
    ∃ turn, (l.step turn).Matches (c.step step) := by
  cases step with
  | track id pid now => exact ⟨.track id pid now, h.track id pid now⟩
  | announce id =>
    by_cases waits : id ∈ l.unannounced.map Prod.snd
    · obtain ⟨⟨n, id⟩, mem, rfl⟩ := List.mem_map.mp waits
      exact ⟨.announce n id, h.announce mem⟩
    · -- nobody announces the application; no launch has a start to announce then
      obtain ⟨waiting, perm, rfl⟩ := h
      refine ⟨.announce 0 id, waiting, ?_, ?_⟩ <;>
        simp only [Ledger.step, Ledger.announce, Controller.step, Controller.announce]
      · rw [if_neg fun mem => waits (List.mem_map_of_mem mem)]
        exact perm
      · rw [if_neg fun mem => waits (perm.mem_iff.mp mem),
          if_neg fun mem => waits (List.mem_map_of_mem mem)]
  | stop id => exact ⟨.stop id, h.markStopping id⟩
  | suspend id => exact ⟨.suspend id, h.suspended id⟩
  | collect exits now => exact ⟨.collect exits now, h.collect exits now⟩
  | report => exact ⟨.report, h.reportNext⟩

/-- A turn is a step of the controller, or it is one of a launch that has nothing to announce. -/
lemma Matches.exists_steps (h : l.Matches c) (turn : Turn) :
    ∃ steps : List Controller.Step, (l.step turn).Matches (steps.foldl Controller.step c) := by
  cases turn with
  | track id pid now => exact ⟨[.track id pid now], h.track id pid now⟩
  | announce n id =>
    by_cases mem : (n, id) ∈ l.unannounced
    · exact ⟨[.announce id], h.announce mem⟩
    · refine ⟨[], ?_⟩
      show (l.announce n id).Matches c
      unfold Ledger.announce
      rw [if_neg mem]
      exact h
  | stop id => exact ⟨[.stop id], h.markStopping id⟩
  | suspend id => exact ⟨[.suspend id], h.suspended id⟩
  | collect exits now => exact ⟨[.collect exits now], h.collect exits now⟩
  | report => exact ⟨[.report], h.reportNext⟩

variable {catalog : List Descriptor} {grace : Duration} {turns : List Turn}

lemma after_concat (turns : List Turn) (turn : Turn) :
    after catalog grace (turns ++ [turn]) = (after catalog grace turns).step turn :=
  List.foldl_append

theorem exists_turns (catalog : List Descriptor) (grace : Duration)
    (steps : List Controller.Step) :
    ∃ turns, (after catalog grace turns).Matches (.after catalog grace steps) := by
  induction steps using List.reverseRecOn with
  | nil => exact ⟨[], start_matches catalog grace⟩
  | append_singleton steps step ih =>
    obtain ⟨turns, h⟩ := ih
    obtain ⟨turn, h⟩ := h.exists_turn step
    refine ⟨turns ++ [turn], ?_⟩
    rw [after_concat, Controller.after, List.foldl_append]
    exact h

theorem exists_steps (catalog : List Descriptor) (grace : Duration) (turns : List Turn) :
    ∃ steps, (after catalog grace turns).Matches (.after catalog grace steps) := by
  induction turns using List.reverseRecOn with
  | nil => exact ⟨[], start_matches catalog grace⟩
  | append_singleton turns turn ih =>
    obtain ⟨steps, h⟩ := ih
    obtain ⟨more, h⟩ := h.exists_steps turn
    refine ⟨steps ++ more, ?_⟩
    rw [after_concat, Controller.after, List.foldl_append]
    exact h

/-! ## One start and one end -/

/-- The launches whose start has not been announced. -/
def waiting (l : Ledger) : List Nat := l.unannounced.map Prod.fst

/-- The events of a launch, oldest first. -/
def eventsOf (n : Nat) (stream : List (Nat × ProcessEvent)) : List ProcessEvent :=
  (stream.filter (·.1 = n)).map Prod.snd

lemma eventsOf_concat (n : Nat) (stream : List (Nat × ProcessEvent)) (x : Nat × ProcessEvent) :
    eventsOf n (stream ++ [x]) = eventsOf n stream ++ if x.1 = n then [x.2] else [] := by
  unfold eventsOf
  rw [List.filter_append, List.map_append, List.filter_singleton]
  split <;> simp_all

lemma countP_eventsOf_concat (kind : ProcessEvent → Bool) (n : Nat)
    (stream : List (Nat × ProcessEvent)) (x : Nat × ProcessEvent) :
    (eventsOf n (stream ++ [x])).countP kind =
      (eventsOf n stream).countP kind + if x.1 = n ∧ kind x.2 then 1 else 0 := by
  rw [eventsOf_concat, List.countP_append]
  split <;> simp_all [List.countP_singleton]

/-- How often a launch occurs in a list. -/
def occurrences {α : Type} (n : Nat) (xs : List (Nat × α)) : Nat := xs.countP (·.1 = n)

section occurrences

variable {α β : Type} {x : Nat × α} {xs ys : List (Nat × α)}

lemma occurrences_append (n : Nat) (xs ys : List (Nat × α)) :
    occurrences n (xs ++ ys) = occurrences n xs + occurrences n ys :=
  List.countP_append

lemma occurrences_cons (n : Nat) (x : Nat × α) (xs : List (Nat × α)) :
    occurrences n (x :: xs) = occurrences n xs + if x.1 = n then 1 else 0 := by
  unfold occurrences
  rw [List.countP_cons]
  simp only [decide_eq_true_eq]

lemma occurrences_concat (n : Nat) (xs : List (Nat × α)) (x : Nat × α) :
    occurrences n (xs ++ [x]) = occurrences n xs + if x.1 = n then 1 else 0 := by
  rw [occurrences_append, occurrences_cons]
  exact congrArg (_ + ·) (Nat.zero_add _)

lemma occurrences_erase [DecidableEq α] (mem : x ∈ xs) (n : Nat) :
    occurrences n xs = occurrences n (xs.erase x) + if x.1 = n then 1 else 0 := by
  rw [← occurrences_cons]
  exact (List.perm_cons_erase mem).countP_eq _

lemma occurrences_pos : 0 < occurrences n xs ↔ n ∈ xs.map Prod.fst := by
  unfold occurrences
  simp [List.countP_pos_iff]

lemma occurrences_map (n : Nat) (f : Nat × α → β) (xs : List (Nat × α)) :
    occurrences n (xs.map fun x => (x.1, f x)) = occurrences n xs := by
  unfold occurrences
  rw [List.countP_map]
  rfl

/-- What is taken out of a list is not in the rest of it. -/
lemma occurrences_partition (n : Nat) (f : Nat × α → Option β) (xs : List (Nat × α)) :
    occurrences n xs = occurrences n (xs.filter fun x => (f x).isNone) +
      occurrences n (xs.filterMap fun x => (f x).map fun b => (x.1, b)) := by
  induction xs with
  | nil => rfl
  | cons x xs ih =>
    rw [occurrences_cons, ih]
    cases taken : f x with
    | none =>
      rw [List.filter_cons_of_pos (by simp [taken]), List.filterMap_cons_none (by simp [taken]),
        occurrences_cons]
      omega
    | some b =>
      rw [List.filter_cons_of_neg (by simp [taken]),
        List.filterMap_cons_some (b := (x.1, b)) (by simp [taken]), occurrences_cons]
      dsimp only
      omega

end occurrences

/-- Every launch either waits to be announced or has been announced, and either it has a process,
or the end of it was collected, or it was reported. -/
structure Sound (l : Ledger) : Prop where
  starts : ∀ n, occurrences n l.unannounced + (eventsOf n l.stream).countP isStart =
    if n < l.launched.length then 1 else 0
  ends : ∀ n, occurrences n l.tracked + occurrences n l.collected +
    (eventsOf n l.stream).countP isEnd = if n < l.launched.length then 1 else 0
  tracked : ∀ x ∈ l.tracked, l.launched[x.1]? = some x.2.id
  unannounced : ∀ x ∈ l.unannounced, l.launched[x.1]? = some x.2
  collected : ∀ x ∈ l.collected, l.launched[x.1]? = some x.2.id ∧ isEnd x.2
  stream : ∀ x ∈ l.stream, l.launched[x.1]? = some x.2.id

namespace Sound

lemma start (catalog : List Descriptor) (grace : Duration) :
    (Ledger.start catalog grace).Sound where
  starts := fun _ => rfl
  ends := fun _ => rfl
  tracked := fun _ none => absurd none List.not_mem_nil
  unannounced := fun _ none => absurd none List.not_mem_nil
  collected := fun _ none => absurd none List.not_mem_nil
  stream := fun _ none => absurd none List.not_mem_nil

/-- The launches keep their applications. -/
lemma getElem?_concat (h : l.launched[n]? = some id) (given : AppId) :
    (l.launched ++ [given])[n]? = some id :=
  (List.getElem?_append_left (List.getElem?_eq_some_iff.mp h).1).trans h

/-- What is known of all launches, and of a new one, is known of them together. -/
lemma forall_concat {α : Type} {f : α → AppId} {xs : List (Nat × α)} {a : α}
    (h : ∀ x ∈ xs, l.launched[x.1]? = some (f x.2)) :
    ∀ x ∈ xs ++ [(l.launched.length, a)], (l.launched ++ [f a])[x.1]? = some (f x.2) := by
  intro x hx
  obtain hx | hx := List.mem_append.mp hx
  · exact getElem?_concat (h x hx) _
  · rw [List.mem_singleton.mp hx]
    exact List.getElem?_concat_length

lemma track (h : l.Sound) (id : AppId) (pid : Nat) (now : Instant) :
    (l.track id pid now).Sound where
  starts := by
    intro n
    have before := h.starts n
    show occurrences n (l.unannounced ++ [(_, id)]) + (eventsOf n l.stream).countP isStart =
      if n < (l.launched ++ [id]).length then 1 else 0
    rw [occurrences_concat, List.length_append, List.length_singleton]
    split_ifs at * <;> omega
  ends := by
    intro n
    have before := h.ends n
    show occurrences n (l.tracked ++ [(_, _)]) + occurrences n l.collected +
      (eventsOf n l.stream).countP isEnd = if n < (l.launched ++ [id]).length then 1 else 0
    rw [occurrences_concat, List.length_append, List.length_singleton]
    split_ifs at * <;> omega
  tracked := forall_concat h.tracked
  unannounced := forall_concat (f := fun id => id) h.unannounced
  collected := fun x hx => (h.collected x hx).imp_left fun named => getElem?_concat named id
  stream := fun x hx => getElem?_concat (h.stream x hx) id

/-- An event of a launch is one of its application. -/
lemma forall_emit (h : l.Sound) {e : ProcessEvent} (named : l.launched[n]? = some e.id) :
    ∀ x ∈ l.stream ++ [(n, e)], l.launched[x.1]? = some x.2.id := by
  intro x hx
  obtain hx | hx := List.mem_append.mp hx
  · exact h.stream x hx
  · rw [List.mem_singleton.mp hx]
    exact named

lemma announce (h : l.Sound) (n : Nat) (id : AppId) : (l.announce n id).Sound := by
  unfold Ledger.announce
  split
  · rename_i mem
    refine ⟨fun m => ?_, fun m => ?_, h.tracked, fun x hx => ?_, h.collected, ?_⟩
    · have before := h.starts m
      rw [occurrences_erase mem, Nat.add_right_comm] at before
      simpa [countP_eventsOf_concat, isStart, Nat.add_assoc] using before
    · simpa [countP_eventsOf_concat, isEnd] using h.ends m
    · exact h.unannounced x (List.mem_of_mem_erase hx)
    · exact h.forall_emit (h.unannounced _ mem)
  · exact h

lemma markStopping (h : l.Sound) (id : AppId) : (l.markStopping id).Sound := by
  refine ⟨h.starts, fun n => ?_, fun x hx => ?_, h.unannounced, h.collected, h.stream⟩
  · show occurrences n (l.tracked.map _) + _ + _ = _
    rw [occurrences_map]
    exact h.ends n
  · obtain ⟨x, mem, rfl⟩ := List.mem_map.mp hx
    refine (h.tracked x mem).trans ?_
    dsimp only
    split <;> rfl

lemma suspended (h : l.Sound) (id : AppId) : (l.suspended id).Sound := by
  unfold Ledger.suspended
  split
  · exact h
  · rename_i x found
    refine ⟨fun m => ?_, fun m => ?_, h.tracked, h.unannounced, h.collected, ?_⟩
    · simpa [countP_eventsOf_concat, isStart] using h.starts m
    · simpa [countP_eventsOf_concat, isEnd] using h.ends m
    · have named := h.tracked x (List.mem_of_find?_eq_some found)
      have same : x.2.id = id := by simpa using List.find?_some found
      rw [same] at named
      exact h.forall_emit named

lemma collect (h : l.Sound) (exits : Nat → Option ProcessExit) (now : Instant) :
    (l.collect exits now).Sound := by
  refine ⟨h.starts, fun n => ?_, fun x hx => ?_, h.unannounced, fun x hx => ?_, h.stream⟩
  · have before := h.ends n
    rw [occurrences_partition n fun x => (exits x.2.pid).map (l.controller.exitEvent now x.2)]
      at before
    simp only [Option.isNone_map, Option.map_map, Function.comp_def] at before
    show occurrences n (l.tracked.filter _) + occurrences n (l.collected ++ _) + _ = _
    rw [occurrences_append, Nat.add_left_comm, Nat.add_comm (occurrences n l.collected)]
    exact before
  · exact h.tracked x (List.mem_filter.mp hx).1
  · obtain hx | hx := List.mem_append.mp hx
    · exact h.collected x hx
    · obtain ⟨x, mem, taken⟩ := List.mem_filterMap.mp hx
      obtain ⟨exit, -, rfl⟩ := Option.map_eq_some_iff.mp taken
      refine ⟨(h.tracked x mem).trans ?_, Controller.exitEvent_isEnd ..⟩
      rw [Controller.exitEvent_id]

lemma reportNext (h : l.Sound) : l.reportNext.Sound := by
  unfold Ledger.reportNext
  split
  · exact h
  · rename_i x rest collected
    have known := h.collected
    rw [collected] at known
    obtain ⟨⟨named, hend⟩, known⟩ := List.forall_mem_cons.mp known
    refine ⟨fun m => ?_, fun m => ?_, h.tracked, h.unannounced, known, ?_⟩
    · simpa [countP_eventsOf_concat, ProcessEvent.isStart_of_isEnd hend] using h.starts m
    · have before := h.ends m
      rw [collected, occurrences_cons] at before
      simpa [countP_eventsOf_concat, hend, Nat.add_assoc, Nat.add_comm, Nat.add_left_comm]
        using before
    · exact h.forall_emit named

lemma step (h : l.Sound) (turn : Turn) : (l.step turn).Sound := by
  cases turn with
  | track id pid now =>
    obtain same | same := l.step_track id pid now
    · rw [same]
      exact h.track id pid now
    · rw [same]
      exact h
  | announce n id => exact h.announce n id
  | stop id => exact h.markStopping id
  | suspend id => exact h.suspended id
  | collect exits now => exact h.collect exits now
  | report => exact h.reportNext

lemma countP_start (h : l.Sound) (less : n < l.launched.length) :
    (eventsOf n l.stream).countP isStart = if n ∈ l.waiting then 0 else 1 := by
  have once := h.starts n
  rw [if_pos less] at once
  split
  · rename_i waits
    have := occurrences_pos.mpr waits
    omega
  · rename_i announced
    have := Nat.eq_zero_of_not_pos fun pos => announced (occurrences_pos.mp pos)
    omega

lemma no_start_iff (h : l.Sound) (less : n < l.launched.length) :
    (∀ e ∈ eventsOf n l.stream, ¬isStart e) ↔ n ∈ l.waiting := by
  rw [← List.countP_eq_zero, h.countP_start less]
  simp

lemma countP_end (h : l.Sound) (n : Nat) : (eventsOf n l.stream).countP isEnd ≤ 1 := by
  have once := h.ends n
  split at once <;> omega

/-- The events of a launch are those of its application. -/
lemma id_of_mem (h : l.Sound) (launched : l.launched[n]? = some id) :
    ∀ e ∈ eventsOf n l.stream, e.id = id := by
  intro e he
  obtain ⟨x, hx, rfl⟩ := List.mem_map.mp he
  obtain ⟨mem, same⟩ := List.mem_filter.mp hx
  have named := h.stream x mem
  rw [of_decide_eq_true same] at named
  exact Option.some.inj (named.symm.trans launched)

end Sound

theorem after_sound (catalog : List Descriptor) (grace : Duration) (turns : List Turn) :
    (after catalog grace turns).Sound := by
  induction turns using List.reverseRecOn with
  | nil => exact .start catalog grace
  | append_singleton turns turn ih =>
    rw [after_concat]
    exact ih.step turn

end Ledger

end AppLifecycle
