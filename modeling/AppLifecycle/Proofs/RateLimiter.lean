import AppLifecycle.Proofs.Daemon.Entries
import AppLifecycle.RateLimiter

/-!
# What a budget comes to

A limiter keeps of each client only when its window was opened and how much of it is used. What is
known of the requests behind that is `RateWindow.Books`: the window counts those that were allowed
since it was opened, and those that were allowed before are at most a budget's worth within reach of
it. From this follow the two bounds on the requests of one client, at most twice the budget in any
span of time as long as the window (`RateWindow.Books.spread`), and no refusal unless the budget was
used within the last window (`RateLimiter.refusal`). What other clients ask for makes no difference
(`RateLimiter.Agrees.answersTo`).
-/

namespace AppLifecycle

/-! ## Points in time -/

namespace Instant

variable {a b now : Instant} {d : Duration}

lemma le_iff : a ≤ b ↔ a.nanos ≤ b.nanos := Iff.rfl

lemma lt_iff : a < b ↔ a.nanos < b.nanos := Iff.rfl

@[simp] lemma add_nanos (a : Instant) (d : Duration) : (a.add d).nanos = a.nanos + d.nanos := rfl

/-- A time has passed since a moment exactly if it is over by now, unless it is no time at all. -/
lemma le_since_iff (positive : 0 < d.nanos) : d ≤ now.since a ↔ a.add d ≤ now := by
  show d.nanos ≤ now.nanos - a.nanos ↔ a.nanos + d.nanos ≤ now.nanos
  omega

end Instant

/-! ## One window -/

namespace RateWindow

variable {w : RateWindow} {budget : Nat} {window : Duration} {granted : List Instant}
variable {now start : Instant}

/-- What is known of the requests that have been `granted` to a client whose window this is. -/
structure Books (budget : Nat) (window : Duration) (granted : List Instant) (w : RateWindow) :
    Prop where
  used : w.used = granted.countP (w.started ≤ ·)
  within : w.used ≤ budget
  recent : ∀ t ∈ granted, t < w.started.add window
  /-- Of the requests before the window, no more than the budget lie within reach of it. -/
  earlier : ∀ start : Instant, w.started ≤ start.add window →
    granted.countP (fun t => start ≤ t ∧ t < w.started) ≤ budget

lemma Books.open_first : Books budget window [] ⟨now, 0⟩ where
  used := rfl
  within := Nat.zero_le _
  recent := by simp
  earlier := by simp

/-- The window that takes the place of one that is over has the requests of that one before it. -/
lemma Books.open_next (h : Books budget window granted w) (passed : w.started.add window ≤ now) :
    Books budget window granted ⟨now, 0⟩ := by
  have past : ∀ t ∈ granted, t < now := by
    intro t ht
    have recent := h.recent t ht
    simp only [Instant.lt_iff, Instant.le_iff] at *
    omega
  refine ⟨?_, Nat.zero_le _, ?_, ?_⟩
  · symm
    rw [List.countP_eq_zero]
    intro t ht
    have := past t ht
    simp only [Instant.lt_iff, Instant.le_iff, decide_eq_true_eq] at *
    omega
  · intro t ht
    have := past t ht
    simp only [Instant.lt_iff, Instant.add_nanos] at *
    omega
  · -- what lies within reach of the new window was allowed in the one before
    intro start reach
    calc granted.countP (fun t => start ≤ t ∧ t < now)
        ≤ granted.countP (w.started ≤ ·) := by
          apply List.countP_mono_left
          intro t _ between
          simp only [Instant.le_iff, Instant.lt_iff, Instant.add_nanos, decide_eq_true_eq] at *
          omega
      _ = w.used := h.used.symm
      _ ≤ budget := h.within

lemma Books.allow (h : Books budget window granted w) (opened : w.started ≤ now)
    (open_ : now < w.started.add window) (left : w.used < budget) :
    Books budget window (granted ++ [now]) { w with used := w.used + 1 } := by
  refine ⟨?_, left, ?_, ?_⟩
  · show w.used + 1 = _
    rw [List.countP_append, ← h.used]
    simp [opened]
  · intro t ht
    rcases List.mem_append.mp ht with ht | ht
    · exact h.recent t ht
    · rw [List.mem_singleton.mp ht]
      exact open_
  · intro start reach
    have later : [now].countP (fun t => start ≤ t ∧ t < w.started) = 0 := by
      rw [List.countP_eq_zero]
      intro t ht
      rw [List.mem_singleton.mp ht]
      simp only [Instant.le_iff, Instant.lt_iff, decide_eq_true_eq] at *
      omega
    show (granted ++ [now]).countP (fun t => start ≤ t ∧ t < w.started) ≤ budget
    rw [List.countP_append, later]
    exact h.earlier start reach

/-- All that was allowed in a span of time that the window touches was allowed in the window or
within reach of it. -/
lemma Books.spread (h : Books budget window granted w) (start : Instant)
    (touched : w.started ≤ start.add window) :
    granted.countP (fun t => start ≤ t ∧ t ≤ start.add window) ≤ 2 * budget := by
  have inside : (granted.filter (w.started ≤ ·)).countP
      (fun t => start ≤ t ∧ t ≤ start.add window) ≤ budget := by
    calc _ ≤ (granted.filter (w.started ≤ ·)).length := List.countP_le_length
      _ = granted.countP (w.started ≤ ·) := List.countP_eq_length_filter.symm
      _ = w.used := h.used.symm
      _ ≤ budget := h.within
  have before : (granted.filter fun t => !decide (w.started ≤ t)).countP
      (fun t => start ≤ t ∧ t ≤ start.add window) ≤ budget := by
    rw [List.countP_filter]
    refine Nat.le_trans (List.countP_mono_left ?_) (h.earlier start touched)
    intro t _ between
    simp only [Instant.le_iff, Instant.lt_iff, Bool.and_eq_true, decide_eq_true_eq,
      Bool.not_eq_true', decide_eq_false_iff_not] at *
    omega
  rw [List.countP_eq_countP_filter_add granted _ (w.started ≤ ·)]
  omega

end RateWindow

/-! ## Calls in turn -/

namespace RateLimiter

variable {κ : Type} [DecidableEq κ] {l l' : RateLimiter κ} {client other : κ}
variable {now start : Instant} {budget : Nat} {window : Duration} {w : RateWindow}
variable {watching : κ → Bool} {calls before later : List (κ × Instant)} {granted : List Instant}

/-- The limiter after calls by clients at times. -/
def checkAll (l : RateLimiter κ) (calls : List (κ × Instant)) : RateLimiter κ :=
  calls.foldl (fun l call => (l.check call.1 call.2).2) l

/-- The answers to calls, in turn. -/
def answers (l : RateLimiter κ) : List (κ × Instant) → List Bool
  | [] => []
  | (client, now) :: calls => (l.check client now).1 :: (l.check client now).2.answers calls

/-- The answers that one client gets. -/
def answersTo (l : RateLimiter κ) (client : κ) (calls : List (κ × Instant)) : List Bool :=
  ((calls.zip (l.answers calls)).filter (·.1.1 = client)).map (·.2)

/-- When the requests of one client were made that were allowed. -/
def grantedTo (l : RateLimiter κ) (client : κ) (calls : List (κ × Instant)) : List Instant :=
  ((calls.zip (l.answers calls)).filter fun call => call.1.1 = client ∧ call.2 = true).map (·.1.2)

lemma length_answers (l : RateLimiter κ) (calls : List (κ × Instant)) :
    (l.answers calls).length = calls.length := by
  induction calls generalizing l with
  | nil => rfl
  | cons call calls ih => simp [answers, ih]

lemma answers_append (l : RateLimiter κ) (calls later : List (κ × Instant)) :
    l.answers (calls ++ later) = l.answers calls ++ (l.checkAll calls).answers later := by
  induction calls generalizing l with
  | nil => rfl
  | cons call calls ih =>
    rw [List.cons_append, answers, ih]
    rfl

lemma grantedTo_concat (l : RateLimiter κ) (client other : κ) (calls : List (κ × Instant))
    (now : Instant) : l.grantedTo client (calls ++ [(other, now)]) =
      l.grantedTo client calls ++
        if other = client ∧ ((l.checkAll calls).check other now).1 = true then [now] else [] := by
  unfold grantedTo
  rw [answers_append, List.zip_append (length_answers l calls).symm, List.filter_append,
    List.map_append]
  congr 1
  show (([((other, now), ((l.checkAll calls).check other now).1)]).filter _).map _ = _
  rw [List.filter_singleton]
  by_cases allowed : other = client ∧ ((l.checkAll calls).check other now).1 = true
  · rw [if_pos allowed, decide_eq_true allowed]
    rfl
  · rw [if_neg allowed, decide_eq_false allowed]
    rfl

/-! ## Some clients among others -/

lemma window?_remove (l : RateLimiter κ) (client other : κ) :
    (l.remove other).window? client = if client = other then none else l.window? client := by
  unfold window? remove
  rw [find?_filter_key]
  split <;> rfl

lemma window?_setWindow (l : RateLimiter κ) (client other : κ) (w : RateWindow) :
    (l.setWindow other w).window? client = if client = other then some w else l.window? client := by
  unfold window? setWindow
  by_cases same : client = other
  · rw [if_pos same, List.find?_cons_of_pos (by exact decide_eq_true same.symm)]
    rfl
  · rw [if_neg same, List.find?_cons_of_neg (by exact decide_eq_true_iff.not.mpr (Ne.symm same)),
      find?_filter_key, if_neg same]

/-- The limits are the same but for clients that are left out of account. -/
structure Agrees (watching : κ → Bool) (l l' : RateLimiter κ) : Prop where
  budget : l.budget = l'.budget
  window : l.window = l'.window
  windows : ∀ client, watching client = false → l.window? client = l'.window? client

lemma check_eq (l : RateLimiter κ) (client : κ) (now : Instant) :
    l.check client now = (decide ((l.current client now).used < l.budget),
      l.setWindow client { l.current client now with
        used := (l.current client now).used +
          if (l.current client now).used < l.budget then 1 else 0 }) := by
  unfold check
  dsimp only
  split
  · rename_i allowed
    rw [decide_eq_true allowed]
  · rename_i refused
    rw [decide_eq_false refused]
    rfl

namespace Agrees

lemma refl (watching : κ → Bool) (l : RateLimiter κ) : Agrees watching l l :=
  ⟨rfl, rfl, fun _ _ => rfl⟩

lemma symm (h : Agrees watching l l') : Agrees watching l' l :=
  ⟨h.budget.symm, h.window.symm, fun client out => (h.windows client out).symm⟩

lemma trans {l'' : RateLimiter κ} (h : Agrees watching l l') (h' : Agrees watching l' l'') :
    Agrees watching l l'' :=
  ⟨h.budget.trans h'.budget, h.window.trans h'.window,
    fun client out => (h.windows client out).trans (h'.windows client out)⟩

lemma setWindow (h : Agrees watching l l') (client : κ) (w : RateWindow) :
    Agrees watching (l.setWindow client w) (l'.setWindow client w) where
  budget := h.budget
  window := h.window
  windows other out := by
    rw [window?_setWindow, window?_setWindow, h.windows other out]

lemma check (h : Agrees watching l l') (out : watching client = false) (now : Instant) :
    (l.check client now).1 = (l'.check client now).1 ∧
      Agrees watching (l.check client now).2 (l'.check client now).2 := by
  have current : l.current client now = l'.current client now := by
    unfold RateLimiter.current
    rw [h.windows client out, h.window]
  rw [check_eq, check_eq, current, h.budget]
  exact ⟨rfl, h.setWindow client _⟩

/-- A request of a client that is left out of account has no part in the limits of others. -/
lemma check_watching (watched : watching client = true) (l : RateLimiter κ) (now : Instant) :
    Agrees watching l (l.check client now).2 := by
  rw [check_eq]
  refine ⟨rfl, rfl, fun other out => ?_⟩
  rw [window?_setWindow, if_neg]
  rintro rfl
  rw [watched] at out
  cases out

lemma remove (h : Agrees watching l l') (client : κ) :
    Agrees watching (l.remove client) (l'.remove client) where
  budget := h.budget
  window := h.window
  windows other out := by
    rw [window?_remove, window?_remove, h.windows other out]

end Agrees

/-- If all others are left out of account, a client is answered as if there were no others. -/
lemma Agrees.answersTo (h : Agrees (fun other => other ≠ client) l l')
    (calls : List (κ × Instant)) :
    l.answersTo client calls = l'.answers (calls.filter (·.1 = client)) := by
  induction calls generalizing l l' with
  | nil => rfl
  | cons call calls ih =>
    obtain ⟨asking, now⟩ := call
    unfold RateLimiter.answersTo at ih ⊢
    rw [answers, List.zip_cons_cons]
    by_cases own : asking = client
    · subst own
      obtain ⟨same, next⟩ := h.check (by exact decide_eq_false (not_not_intro rfl)) now
      simp only [decide_true, List.filter_cons_of_pos, List.map_cons]
      rw [ih next, same]
      rfl
    · have next := (check_watching (by exact decide_eq_true own) l now).symm.trans h
      simp only [own, decide_false, Bool.false_eq_true, not_false_eq_true,
        List.filter_cons_of_neg]
      exact ih next

@[simp] lemma check_budget (l : RateLimiter κ) (client : κ) (now : Instant) :
    (l.check client now).2.budget = l.budget := by
  rw [check_eq]
  rfl

@[simp] lemma check_window (l : RateLimiter κ) (client : κ) (now : Instant) :
    (l.check client now).2.window = l.window := by
  rw [check_eq]
  rfl

lemma check_allowed : (l.check client now).1 = true ↔ (l.current client now).used < l.budget := by
  rw [check_eq]
  exact decide_eq_true_iff

/-- A call leaves its client with the window that the call falls in, and one more request in it if
it was allowed. -/
lemma window?_check (l : RateLimiter κ) (client : κ) (now : Instant) :
    (l.check client now).2.window? client = some
      { l.current client now with
        used := (l.current client now).used +
          if (l.check client now).1 = true then 1 else 0 } := by
  simp only [check_allowed]
  rw [check_eq, window?_setWindow, if_pos rfl]

/-- The windows of others stay as they are. -/
lemma window?_check_other (l : RateLimiter κ) (apart : other ≠ client) (now : Instant) :
    (l.check other now).2.window? client = l.window? client := by
  rw [check_eq, window?_setWindow, if_neg (Ne.symm apart)]

/-! ## A budget over time -/

/-- What is known of a client that has been granted requests at these times by calls of all
clients. -/
structure Account (l : RateLimiter κ) (client : κ) (calls : List (κ × Instant))
    (granted : List Instant) : Prop where
  unknown : l.window? client = none → granted = []
  books : ∀ w, l.window? client = some w → w.Books l.budget l.window granted
  opened : ∀ w, l.window? client = some w → ∃ call ∈ calls, call.2 = w.started
  spread : ∀ start : Instant,
    granted.countP (fun t => start ≤ t ∧ t ≤ start.add l.window) ≤ 2 * l.budget

/-- A call falls in a window that was opened before it and is not over. -/
lemma Account.current (h : l.Account client calls granted) (now : Instant)
    (positive : 0 < l.window.nanos) (latest : ∀ call ∈ calls, call.2 ≤ now) :
    (l.current client now).Books l.budget l.window granted ∧
      (l.current client now).started ≤ now ∧
      now < (l.current client now).started.add l.window ∧
      (l.current client now = ⟨now, 0⟩ ∨ l.window? client = some (l.current client now)) := by
  have fresh : now ≤ now ∧ now < now.add l.window := by
    simp only [Instant.le_iff, Instant.lt_iff, Instant.add_nanos]
    omega
  unfold RateLimiter.current
  cases known : l.window? client with
  | none =>
    rw [h.unknown known]
    exact ⟨.open_first, fresh.1, fresh.2, .inl rfl⟩
  | some w =>
    have books := h.books w known
    dsimp only
    split
    · rename_i passed
      exact ⟨books.open_next ((Instant.le_since_iff positive).mp passed), fresh.1, fresh.2, .inl rfl⟩
    · rename_i goesOn
      obtain ⟨call, hcall, opened⟩ := h.opened w known
      refine ⟨books, opened ▸ latest call hcall, ?_, .inr rfl⟩
      rw [Instant.le_since_iff positive] at goesOn
      simp only [Instant.le_iff, Instant.lt_iff] at *
      omega

/-- The account of a client whose window is known. -/
lemma account_of_window (known : l.window? client = some w)
    (books : w.Books l.budget l.window granted) (opened : ∃ call ∈ calls, call.2 = w.started)
    (spread : ∀ start : Instant,
      granted.countP (fun t => start ≤ t ∧ t ≤ start.add l.window) ≤ 2 * l.budget) :
    l.Account client calls granted := by
  refine ⟨fun none => ?_, fun w' same => ?_, fun w' same => ?_, spread⟩
  · rw [known] at none
    cases none
  · obtain rfl := Option.some.inj (known.symm.trans same)
    exact books
  · obtain rfl := Option.some.inj (known.symm.trans same)
    exact opened

/-- A call of the client itself keeps its account, be it allowed or refused. -/
lemma Account.check (h : l.Account client calls granted) (positive : 0 < l.window.nanos)
    (latest : ∀ call ∈ calls, call.2 ≤ now) :
    (l.check client now).2.Account client (calls ++ [(client, now)])
      (granted ++ if (l.check client now).1 = true then [now] else []) := by
  obtain ⟨books, opened, goesOn, origin⟩ := h.current now positive latest
  have known := window?_check l client now
  have called : ∃ call ∈ calls ++ [(client, now)], call.2 = (l.current client now).started := by
    rcases origin with fresh | known
    · rw [fresh]
      exact ⟨(client, now), List.mem_append_right _ (List.mem_singleton_self _), rfl⟩
    · obtain ⟨call, hcall, same⟩ := h.opened _ known
      exact ⟨call, List.mem_append_left _ hcall, same⟩
  by_cases allowed : (l.check client now).1 = true
  · have next := books.allow opened goesOn (check_allowed.mp allowed)
    rw [if_pos allowed] at known ⊢
    refine account_of_window known ?_ called fun start => ?_
    · rw [check_budget, check_window]
      exact next
    · rw [check_budget, check_window]
      by_cases touched : (l.current client now).started ≤ start.add l.window
      · exact next.spread start touched
      · -- the span was over before the window was opened
        have outside : [now].countP (fun t => start ≤ t ∧ t ≤ start.add l.window) = 0 := by
          rw [List.countP_eq_zero]
          intro t ht
          rw [List.mem_singleton.mp ht]
          simp only [Instant.le_iff, decide_eq_true_eq] at *
          omega
        rw [List.countP_append, outside]
        exact h.spread start
  · rw [if_neg allowed] at known ⊢
    rw [List.append_nil]
    refine account_of_window known ?_ called fun start => ?_
    · rw [check_budget, check_window]
      exact books
    · rw [check_budget, check_window]
      exact h.spread start

/-- Nothing changes for a client when another one calls. -/
lemma Account.check_other (h : l.Account client calls granted) (apart : other ≠ client)
    (now : Instant) :
    (l.check other now).2.Account client (calls ++ [(other, now)]) granted := by
  have known := window?_check_other l apart now
  refine ⟨?_, ?_, ?_, ?_⟩
  · rw [known]
    exact h.unknown
  · rw [known, check_budget, check_window]
    exact h.books
  · intro w same
    rw [known] at same
    obtain ⟨call, hcall, opened⟩ := h.opened w same
    exact ⟨call, List.mem_append_left _ hcall, opened⟩
  · rw [check_budget, check_window]
    exact h.spread

lemma account_new (budget : Nat) (window : Duration) (client : κ) :
    (new budget window : RateLimiter κ).Account client [] [] where
  unknown _ := rfl
  books _ none := by simp [new, window?] at none
  opened _ none := by simp [new, window?] at none
  spread _ := by simp

@[simp] lemma checkAll_budget (l : RateLimiter κ) (calls : List (κ × Instant)) :
    (l.checkAll calls).budget = l.budget := by
  induction calls generalizing l with
  | nil => rfl
  | cons call calls ih => exact (ih _).trans (check_budget l _ _)

@[simp] lemma checkAll_window (l : RateLimiter κ) (calls : List (κ × Instant)) :
    (l.checkAll calls).window = l.window := by
  induction calls generalizing l with
  | nil => rfl
  | cons call calls ih => exact (ih _).trans (check_window l _ _)

/-- The account of every client is kept along calls in the order of time. -/
theorem account_checkAll (budget : Nat) (positive : 0 < window.nanos)
    (ordered : calls.Pairwise fun call next => call.2 ≤ next.2) (client : κ) :
    ((new budget window).checkAll calls).Account client calls
      ((new budget window).grantedTo client calls) := by
  induction calls using List.reverseRecOn with
  | nil => exact account_new budget window client
  | append_singleton calls call ih =>
    obtain ⟨other, now⟩ := call
    obtain ⟨before, -, latest⟩ := List.pairwise_append.mp ordered
    rw [grantedTo_concat]
    show (((calls ++ [(other, now)]).foldl _ _) : RateLimiter κ).Account _ _ _
    rw [List.foldl_append]
    by_cases own : other = client
    · subst own
      simp only [true_and]
      refine (ih before).check ?_ fun earlier hearlier => ?_
      · rw [checkAll_window]
        exact positive
      · exact latest earlier hearlier _ (List.mem_singleton_self _)
    · rw [if_neg fun both => own both.1, List.append_nil]
      exact (ih before).check_other own now

/-- A client is refused only if its budget was used up within the last window. -/
lemma refusal (positive : 0 < window.nanos)
    (ordered : (before ++ (client, now) :: later).Pairwise fun call next => call.2 ≤ next.2)
    (refused : ((new budget window).answers
      (before ++ (client, now) :: later))[before.length]? = some false) :
    budget ≤ ((new budget window).grantedTo client before).countP
      (fun t => now < t.add window) := by
  obtain ⟨earlier, -, latest⟩ := List.pairwise_append.mp ordered
  have account := account_checkAll budget positive earlier client
  have length : ((new budget window).checkAll before).window = window := checkAll_window _ _
  have worth : ((new budget window).checkAll before).budget = budget := checkAll_budget _ _
  obtain ⟨books, -, goesOn, -⟩ := account.current now (by rw [length]; exact positive)
    fun call hcall => latest call hcall _ List.mem_cons_self
  rw [length] at goesOn
  -- the budget of the window in which the call falls has been used up
  have full : budget ≤ (((new budget window).checkAll before).current client now).used := by
    rw [answers_append, List.getElem?_append_right (Nat.le_of_eq (length_answers _ _)),
      length_answers, Nat.sub_self, answers, List.getElem?_cons_zero, Option.some_inj] at refused
    by_contra room
    rw [check_allowed.mpr (by rw [worth]; omega)] at refused
    cases refused
  calc budget ≤ (((new budget window).checkAll before).current client now).used := full
    _ = _ := books.used
    _ ≤ _ := by
      apply List.countP_mono_left
      intro t _ within
      simp only [Instant.le_iff, Instant.lt_iff, Instant.add_nanos, decide_eq_true_eq] at *
      omega

/-- Along calls in the order of time, at most twice the budget of the requests of one client are
allowed in any span as long as the window, both of its ends included. A request is refused only if
as many earlier ones of the same client as the budget were allowed less than a window before it. And
the client is answered as if no other had ever called. -/
theorem budget_kept (budget : Nat) (positive : 0 < window.nanos)
    (ordered : calls.Pairwise fun call next => call.2 ≤ next.2) (client : κ) :
    (∀ start : Instant, ((new budget window).grantedTo client calls).countP
      (fun t => start ≤ t ∧ t ≤ start.add window) ≤ 2 * budget) ∧
    (∀ before now later, calls = before ++ (client, now) :: later →
      ((new budget window).answers calls)[before.length]? = some false →
      budget ≤ ((new budget window).grantedTo client before).countP
        (fun t => now < t.add window)) ∧
    (new budget window).answersTo client calls =
      (new budget window).answers (calls.filter (·.1 = client)) := by
  refine ⟨?_, ?_, (Agrees.refl _ _).answersTo calls⟩
  · have spread := (account_checkAll budget positive ordered client).spread
    rw [checkAll_window, checkAll_budget] at spread
    exact spread
  · rintro before now later rfl refused
    exact refusal positive ordered refused

/-- Two clients that may ask twice in ten moments each; the first asks more often than that. -/
def rush : List (Nat × Instant) :=
  [(1, ⟨0⟩), (1, ⟨4⟩), (2, ⟨5⟩), (1, ⟨9⟩), (1, ⟨10⟩), (2, ⟨10⟩), (1, ⟨10⟩), (1, ⟨11⟩)]

/-- The first client is allowed twice its budget between the moments 0 and 10, and not more; it is
refused in between, when the budget is used up, and the second one makes no difference to it. -/
theorem budget_kept_in_rush :
    (rush.Pairwise fun call next => call.2 ≤ next.2) ∧
    ((new 2 ⟨10⟩).grantedTo 1 rush).countP
      (fun t => (⟨0⟩ : Instant) ≤ t ∧ t ≤ Instant.add ⟨0⟩ ⟨10⟩) = 4 ∧
    ((new 2 ⟨10⟩).grantedTo 1 rush).countP
      (fun t => (⟨0⟩ : Instant) ≤ t ∧ t ≤ Instant.add ⟨0⟩ ⟨10⟩) ≤ 2 * 2 ∧
    ((new 2 ⟨10⟩).answers rush)[3]? = some false ∧
    2 ≤ ((new 2 ⟨10⟩).grantedTo 1 (rush.take 3)).countP
      (fun t => (⟨9⟩ : Instant) < t.add ⟨10⟩) ∧
    (new 2 ⟨10⟩).answersTo 1 rush =
      (new 2 ⟨10⟩).answers [(1, ⟨0⟩), (1, ⟨4⟩), (1, ⟨9⟩), (1, ⟨10⟩), (1, ⟨10⟩), (1, ⟨11⟩)] := by
  have ordered : rush.Pairwise fun call next => call.2 ≤ next.2 := by decide
  have positive : 0 < (⟨10⟩ : Duration).nanos := by decide
  obtain ⟨spread, refused, alone⟩ := budget_kept 2 positive ordered 1
  exact ⟨ordered, by decide, spread ⟨0⟩, by decide, refused (rush.take 3) ⟨9⟩ _ rfl (by decide),
    alone⟩

end RateLimiter

end AppLifecycle
