import Mathlib.Data.Finset.SDiff
import Mathlib.Tactic

/-!
A ledger of what a system has created, brought up to date after each step from the
members of its store before and after the step.
-/

namespace Ledger
variable {α : Type} [DecidableEq α] {created before after : Finset α}

/-- What is still there, and was in the ledger or has come with the step. -/
def update (created before after : Finset α) : Finset α :=
  (created ∪ (after \ before)) ∩ after

theorem mem_update {a : α} :
    a ∈ update created before after ↔ a ∈ after ∧ (a ∈ created ∨ a ∉ before) := by
  unfold update
  simp only [Finset.mem_inter, Finset.mem_union, Finset.mem_sdiff]
  tauto

theorem update_subset : update created before after ⊆ after :=
  Finset.inter_subset_right

theorem update_of_subset (fewer : after ⊆ before) :
    update created before after = created ∩ after := by
  unfold update
  rw [Finset.sdiff_eq_empty_iff_subset.mpr fewer, Finset.union_empty]

theorem mem_update_of_subset (fewer : after ⊆ before) {a : α} :
    a ∈ update created before after ↔ a ∈ created ∧ a ∈ after := by
  rw [update_of_subset fewer, Finset.mem_inter]

theorem update_self (present : created ⊆ before) : update created before before = created := by
  rw [update_of_subset (Finset.Subset.refl _), Finset.inter_eq_left.mpr present]

end Ledger
