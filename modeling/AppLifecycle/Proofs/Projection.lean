import AppLifecycle.Registry.Event
import Mathlib.Tactic.Lemma

/-!
# Observers

An observer replays the events of a registry on a copy of its list. Which events fit a copy is said
without carrying them out (`Fits`), and an event can be replayed exactly if it fits.
-/

namespace AppLifecycle

/-- The event is possible for a list like the copy: the indices are in range, a removal names the
application at its index, and a count is the length of the list. -/
def RegistryEvent.Fits (p : Projection) : RegistryEvent → Prop
  | .added index _ => index ≤ p.ids.length
  | .removed index id => p.ids[index]? = some id
  | .moved source target => source < p.ids.length ∧ target < p.ids.length
  | .countChanged count => count = p.ids.length
  | .focusChanged _ => True
  | .fieldChanged _ _ => True
  | .focusRequested _ => True

namespace Projection

variable {p q : Projection} {event : RegistryEvent} {events : List RegistryEvent}

/-- An event is replayed exactly where it fits. -/
theorem apply_isSome : (p.apply event).isSome ↔ event.Fits p := by
  cases event with
  | added index id => exact Option.isSome_ite
  | removed index id => exact Option.isSome_ite
  | moved source target =>
    unfold apply RegistryEvent.Fits
    dsimp only
    cases hsource : p.ids[source]? with
    | none =>
      have out := List.getElem?_eq_none_iff.mp hsource
      refine iff_of_false Bool.false_ne_true ?_
      omega
    | some id =>
      obtain ⟨lt, -⟩ := List.getElem?_eq_some_iff.mp hsource
      have length : (p.ids.eraseIdx source).length = p.ids.length - 1 :=
        List.length_eraseIdx_of_lt lt
      dsimp only
      rw [length]
      split
      · refine iff_of_true rfl ?_
        omega
      · refine iff_of_false Bool.false_ne_true ?_
        omega
  | countChanged count => exact Option.isSome_ite
  | focusChanged id => exact iff_of_true rfl trivial
  | fieldChanged id field => exact iff_of_true rfl trivial
  | focusRequested id => exact iff_of_true rfl trivial

/-! ## Single events -/

lemma apply_added (p : Projection) (id : AppId) :
    p.apply (.added 0 id) = some { p with ids := id :: p.ids } := by
  unfold apply
  dsimp only
  rw [if_pos (Nat.zero_le _), List.insertIdx_zero]

lemma apply_countChanged {count : Nat} (h : count = p.ids.length) :
    p.apply (.countChanged count) = some p := if_pos h

lemma apply_removed (front : List AppId) (id : AppId) (back : List AppId) (focused : Option AppId) :
    apply ⟨front ++ id :: back, focused⟩ (.removed front.length id) =
      some ⟨front ++ back, focused⟩ := by
  have found : (front ++ id :: back)[front.length]? = some id := by
    rw [List.getElem?_append_right (Nat.le_refl _), Nat.sub_self, List.getElem?_cons_zero]
  have left : (front ++ id :: back).eraseIdx front.length = front ++ back := by
    rw [List.eraseIdx_append_of_length_le (Nat.le_refl _), Nat.sub_self, List.eraseIdx_cons_zero]
  unfold apply
  dsimp only
  rw [if_pos found, left]

lemma apply_moved (front : List AppId) (id : AppId) (back : List AppId) (focused : Option AppId) :
    apply ⟨front ++ id :: back, focused⟩ (.moved front.length 0) =
      some ⟨id :: (front ++ back), focused⟩ := by
  have found : (front ++ id :: back)[front.length]? = some id := by
    rw [List.getElem?_append_right (Nat.le_refl _), Nat.sub_self, List.getElem?_cons_zero]
  have left : (front ++ id :: back).eraseIdx front.length = front ++ back := by
    rw [List.eraseIdx_append_of_length_le (Nat.le_refl _), Nat.sub_self, List.eraseIdx_cons_zero]
  unfold apply
  dsimp only
  rw [found, left]
  rfl

/-! ## Replays -/

lemma replay_nil (p : Projection) : p.replay [] = some p := rfl

lemma replay_cons (p : Projection) (event : RegistryEvent) (events : List RegistryEvent) :
    p.replay (event :: events) = (p.apply event).bind fun q => q.replay events := rfl

lemma replay_append (p : Projection) (before after : List RegistryEvent) :
    p.replay (before ++ after) = (p.replay before).bind fun q => q.replay after :=
  List.foldlM_append

/-- Events that change neither the list nor the focus leave the copy as it is. -/
lemma replay_of_idle (h : ∀ event ∈ events, p.apply event = some p) :
    p.replay events = some p := by
  induction events with
  | nil => rfl
  | cons event events ih =>
    rw [List.forall_mem_cons] at h
    rw [replay_cons, h.1]
    exact ih h.2

/-- In a replay that succeeds every event fits the copy that it is replayed on. -/
theorem fits_of_replay {before after : List RegistryEvent}
    (h : p.replay (before ++ event :: after) = some q) :
    ∃ copy, p.replay before = some copy ∧ event.Fits copy := by
  rw [replay_append] at h
  obtain ⟨copy, hbefore, hrest⟩ := Option.bind_eq_some_iff.mp h
  rw [replay_cons] at hrest
  obtain ⟨next, happly, -⟩ := Option.bind_eq_some_iff.mp hrest
  refine ⟨copy, hbefore, apply_isSome.mp ?_⟩
  rw [happly]
  rfl

end Projection

end AppLifecycle
