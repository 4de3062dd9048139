import AppLifecycle.Proofs.Wakelock
import Mathlib.Data.List.Induction

/-!
# Turns at the shared wakelock

Where the system always grants its lock, only two things matter of what a number of owners do to the
wakelock: what each owner did last (`mem_follow`), and whether anybody has asked for it
(`follow_held`). So the turns of some owners and those of others may change places (`follow_swap`).
-/

namespace AppLifecycle

namespace Wakelock

variable {w : Wakelock} {o : WakelockOwner} {t : WakelockOwner × Bool}
variable {turns turns' : List (WakelockOwner × Bool)}

/-- An owner takes its share or gives it up, and the system grants whatever it is asked for. -/
def turn (w : Wakelock) (t : WakelockOwner × Bool) : Wakelock :=
  if t.2 then w.acquire (fun _ => true) t.1 else w.release t.1

def follow (w : Wakelock) (turns : List (WakelockOwner × Bool)) : Wakelock := turns.foldl turn w

/-- The system's lock is not held for nobody. -/
def Sound (w : Wakelock) : Prop := w.held = true → w.owners ≠ []

lemma follow_append (w : Wakelock) (turns turns' : List (WakelockOwner × Bool)) :
    w.follow (turns ++ turns') = (w.follow turns).follow turns' := List.foldl_append

lemma follow_concat (w : Wakelock) (turns : List (WakelockOwner × Bool))
    (t : WakelockOwner × Bool) : w.follow (turns ++ [t]) = (w.follow turns).turn t :=
  follow_append w turns [t]

/-! ## Who shares it -/

lemma nodup_turn (h : w.owners.Nodup) (t : WakelockOwner × Bool) : (w.turn t).owners.Nodup := by
  unfold turn
  split
  · exact nodup_owners_acquire h _ _
  · exact nodup_owners_release h _

lemma nodup_follow (h : w.owners.Nodup) (turns : List (WakelockOwner × Bool)) :
    (w.follow turns).owners.Nodup := by
  induction turns generalizing w with
  | nil => exact h
  | cons t turns ih => exact ih (nodup_turn h t)

lemma mem_turn (h : w.owners.Nodup) :
    o ∈ (w.turn t).owners ↔ if t.1 = o then t.2 = true else o ∈ w.owners := by
  unfold turn
  by_cases own : t.1 = o
  · rw [if_pos own]
    cases t.2 with
    | true => exact iff_of_true ((mem_owners_acquire _ _).mpr (.inl own.symm)) rfl
    | false =>
      exact iff_of_false (fun no => ((mem_owners_release h _).mp no).1 own.symm) (by decide)
  · rw [if_neg own]
    split
    · exact (mem_owners_acquire _ _).trans (or_iff_right fun same => own same.symm)
    · exact (mem_owners_release h _).trans (and_iff_right fun same => own same.symm)

/-- Whether an owner has a share is what its last turn says. -/
lemma mem_follow (h : w.owners.Nodup) (turns : List (WakelockOwner × Bool)) :
    o ∈ (w.follow turns).owners ↔
      ((turns.filter (·.1 = o)).getLast?.map Prod.snd).getD (decide (o ∈ w.owners)) = true := by
  induction turns using List.reverseRecOn with
  | nil => exact (decide_eq_true_iff).symm
  | append_singleton turns t ih =>
    rw [follow_concat, mem_turn (nodup_follow h turns), List.filter_append, List.filter_singleton]
    by_cases own : t.1 = o
    · rw [if_pos own, decide_eq_true own, cond_true, List.getLast?_concat]
      rfl
    · rw [if_neg own, decide_eq_false own, cond_false, List.append_nil]
      exact ih

/-! ## Whether it is held -/

lemma acquire_sound (granted : WakelockGrants) (owner : WakelockOwner) (w : Wakelock) :
    (w.acquire granted owner).Sound :=
  fun _ => List.ne_nil_of_mem ((mem_owners_acquire granted owner).mpr (.inl rfl))

lemma release_held (sound : w.Sound) (owner : WakelockOwner) :
    (w.release owner).held = true ↔ (w.release owner).owners ≠ [] ∧ w.held = true := by
  unfold release
  by_cases own : owner ∈ w.owners
  · rw [if_pos own]
    dsimp only
    by_cases last : w.owners.erase owner = []
    · rw [if_pos (List.isEmpty_iff.mpr last), relinquish_owners]
      refine iff_of_false ?_ fun no => no.1 last
      unfold relinquish
      split
      · exact Bool.noConfusion
      · assumption
    · rw [if_neg (List.isEmpty_iff.not.mpr last)]
      exact (and_iff_right last).symm
  · rw [if_neg own]
    exact ⟨fun held => ⟨sound held, held⟩, And.right⟩

lemma release_sound (sound : w.Sound) (owner : WakelockOwner) : (w.release owner).Sound :=
  fun held => ((release_held sound owner).mp held).1

lemma turn_held (sound : w.Sound) (t : WakelockOwner × Bool) :
    (w.turn t).held = true ↔ (w.turn t).owners ≠ [] ∧ (w.held = true ∨ t.2 = true) := by
  unfold turn
  cases t.2 with
  | true =>
    have held : (w.acquire (fun _ => true) t.1).held = true := by
      unfold acquire obtain
      split
      · assumption
      · rfl
    exact iff_of_true held ⟨acquire_sound _ _ _ held, .inr rfl⟩
  | false =>
    rw [or_iff_left Bool.false_ne_true]
    exact release_held sound t.1

lemma follow_sound (sound : w.Sound) (turns : List (WakelockOwner × Bool)) :
    (w.follow turns).Sound := by
  induction turns generalizing w with
  | nil => exact sound
  | cons t turns ih => exact ih fun held => ((turn_held sound t).mp held).1

/-- The lock is held if somebody wants it, and it was held before or has been asked for. -/
lemma follow_held (sound : w.Sound) (turns : List (WakelockOwner × Bool)) :
    (w.follow turns).held = true ↔
      (w.follow turns).owners ≠ [] ∧ (w.held = true ∨ ∃ t ∈ turns, t.2 = true) := by
  induction turns using List.reverseRecOn with
  | nil =>
    refine ⟨fun held => ⟨sound held, .inl held⟩, fun ⟨_, was⟩ => was.resolve_right ?_⟩
    rintro ⟨t, no, -⟩
    cases no
  | append_singleton turns t ih =>
    rw [follow_concat, turn_held (follow_sound sound turns), ih]
    constructor
    · rintro ⟨wanted, ⟨-, held | ⟨t', asked, takes⟩⟩ | takes⟩
      · exact ⟨wanted, .inl held⟩
      · exact ⟨wanted, .inr ⟨t', List.mem_append_left _ asked, takes⟩⟩
      · exact ⟨wanted, .inr ⟨t, List.mem_append_right _ (List.mem_singleton_self t), takes⟩⟩
    · rintro ⟨wanted, was⟩
      refine ⟨wanted, ?_⟩
      cases takes : t.2 with
      | true => exact .inr rfl
      | false =>
        -- somebody had a share before a turn that gave one up
        have before : (w.follow turns).owners ≠ [] := by
          obtain ⟨owner, has⟩ := List.exists_mem_of_ne_nil _ wanted
          unfold turn at has
          rw [takes] at has
          exact List.ne_nil_of_mem (List.mem_of_mem_erase (release_owners t.1 _ ▸ has))
        refine .inl ⟨before, was.imp_right ?_⟩
        rintro ⟨t', asked, takes'⟩
        obtain earlier | now := List.mem_append.mp asked
        · exact ⟨t', earlier, takes'⟩
        · cases List.mem_singleton.mp now
          rw [takes] at takes'
          cases takes'

/-- The turns of some owners and those of others may change places. -/
theorem follow_swap (nodup : w.owners.Nodup) (sound : w.Sound)
    (apart : ∀ t ∈ turns, ∀ t' ∈ turns', t.1 ≠ t'.1) :
    ((w.follow turns).follow turns').owners.Perm ((w.follow turns').follow turns).owners ∧
      ((w.follow turns).follow turns').held = ((w.follow turns').follow turns).held := by
  rw [← follow_append, ← follow_append]
  have same : ∀ o, o ∈ (w.follow (turns ++ turns')).owners ↔
      o ∈ (w.follow (turns' ++ turns)).owners := by
    intro o
    rw [mem_follow nodup, mem_follow nodup, List.filter_append, List.filter_append]
    -- only one of the two has turns of this owner
    have none : turns.filter (·.1 = o) = [] ∨ turns'.filter (·.1 = o) = [] := by
      rw [List.filter_eq_nil_iff, List.filter_eq_nil_iff]
      by_contra both
      rw [not_or] at both
      push Not at both
      obtain ⟨⟨t, ht, own⟩, t', ht', own'⟩ := both
      exact apart t ht t' ht' ((of_decide_eq_true own).trans (of_decide_eq_true own').symm)
    obtain none | none := none <;> rw [none, List.nil_append, List.append_nil]
  have perm := (List.perm_ext_iff_of_nodup (nodup_follow nodup _) (nodup_follow nodup _)).mpr same
  refine ⟨perm, Bool.eq_iff_iff.mpr ?_⟩
  rw [follow_held sound, follow_held sound]
  refine and_congr ?_ (or_congr Iff.rfl ?_)
  · rw [← List.length_pos_iff, ← List.length_pos_iff, perm.length_eq]
  · simp only [List.mem_append, or_comm]

end Wakelock

end AppLifecycle
