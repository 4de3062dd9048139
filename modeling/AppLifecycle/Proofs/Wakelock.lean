import AppLifecycle.Wakelock
import Mathlib.Data.List.Basic
import Mathlib.Tactic.Lemma

/-!
# Who shares the wakelock

What taking and giving up a share does to the owners of the wakelock.
-/

namespace AppLifecycle

namespace Wakelock

variable {w : Wakelock} {o : WakelockOwner}

@[simp] lemma obtain_owners (granted : WakelockGrants) (w : Wakelock) :
    (w.obtain granted).owners = w.owners := by
  unfold obtain
  split
  · rfl
  · split <;> rfl

@[simp] lemma relinquish_owners (w : Wakelock) : w.relinquish.owners = w.owners := by
  unfold relinquish
  split <;> rfl

lemma acquire_owners (granted : WakelockGrants) (owner : WakelockOwner) (w : Wakelock) :
    (w.acquire granted owner).owners = w.owners.insert owner := obtain_owners _ _

lemma release_owners (owner : WakelockOwner) (w : Wakelock) :
    (w.release owner).owners = w.owners.erase owner := by
  unfold release
  by_cases h : owner ∈ w.owners
  · rw [if_pos h]
    dsimp only
    split
    · rw [relinquish_owners]
    · rfl
  · rw [if_neg h, List.erase_of_not_mem h]

lemma mem_owners_acquire (granted : WakelockGrants) (owner : WakelockOwner) :
    o ∈ (w.acquire granted owner).owners ↔ o = owner ∨ o ∈ w.owners := by
  rw [acquire_owners, List.mem_insert_iff]

lemma mem_owners_release (h : w.owners.Nodup) (owner : WakelockOwner) :
    o ∈ (w.release owner).owners ↔ o ≠ owner ∧ o ∈ w.owners := by
  rw [release_owners, h.mem_erase_iff]

lemma nodup_owners_acquire (h : w.owners.Nodup) (granted : WakelockGrants)
    (owner : WakelockOwner) : (w.acquire granted owner).owners.Nodup := by
  rw [acquire_owners]
  by_cases hmem : owner ∈ w.owners
  · rw [List.insert_of_mem hmem]
    exact h
  · rw [List.insert_of_not_mem hmem]
    exact List.nodup_cons.mpr ⟨hmem, h⟩

lemma nodup_owners_release (h : w.owners.Nodup) (owner : WakelockOwner) :
    (w.release owner).owners.Nodup := by
  rw [release_owners]
  exact h.erase owner

end Wakelock

end AppLifecycle
