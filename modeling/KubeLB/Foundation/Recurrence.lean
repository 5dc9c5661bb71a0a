import Mathlib.Data.Nat.Count
import Mathlib.Data.Set.Finite.Lattice
import Mathlib.Order.Preorder.Finite
import Mathlib.Tactic

/-!
Infinite sequences of values, read from the front, in which every value comes back
again and again.

A loop that waits for an acceptable value ends on such a sequence as soon as there is
one. Nothing is said about how long it waits.
-/

namespace Recurrence
variable {α : Type}

/-- The first `n` values of the sequence. -/
def firstValues (values : Nat → α) : Nat → List α
  | 0 => []
  | n + 1 => firstValues values n ++ [values n]

def Recurs (values : Nat → α) : Prop := ∀ a, {n | values n = a}.Infinite

theorem countP_firstValues (values : Nat → α) (p : α → Prop) [DecidablePred p] (n : Nat) :
    (firstValues values n).countP p = Nat.count (fun i => p (values i)) n := by
  induction n with
  | zero => rfl
  | succ n ih =>
      rw [firstValues, List.countP_append, ih, Nat.count_succ, List.countP_singleton]
      simp only [decide_eq_true_eq]

/-- Far enough from the front there are as many acceptable values as one likes. -/
theorem exists_le_countP {values : Nat → α} (recurs : Recurs values) (p : α → Prop)
    [DecidablePred p] {a : α} (acceptable : p a) (many : Nat) :
    ∃ n, many ≤ (firstValues values n).countP p := by
  induction many with
  | zero => exact ⟨0, Nat.zero_le _⟩
  | succ many ih =>
      obtain ⟨n, enough⟩ := ih
      obtain ⟨m, here, later⟩ := (recurs a).exists_gt n
      have found : p (values m) := by
        rw [here]
        exact acceptable
      refine ⟨m + 1, ?_⟩
      rw [countP_firstValues] at enough ⊢
      have before := Nat.count_monotone (fun i => p (values i)) (Nat.le_of_lt later)
      rw [Nat.count_succ_eq_succ_count_iff.mpr found]
      omega

def cycle (n : Nat) [NeZero n] (i : Nat) : Fin n := Fin.ofNat n i

theorem recurs_cycle (n : Nat) [NeZero n] : Recurs (cycle n) := by
  intro a
  refine Set.infinite_of_injective_forall_mem (f := fun i => a.val + n * i) ?_ ?_
  · intro i j same
    simpa [NeZero.ne n] using same
  · intro i
    refine Fin.ext ?_
    rw [cycle, Fin.val_ofNat, Nat.add_mul_mod_self_left, Nat.mod_eq_of_lt a.isLt]

end Recurrence
