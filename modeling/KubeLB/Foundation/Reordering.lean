import Mathlib.Algebra.BigOperators.Group.List.Lemmas
import Mathlib.Algebra.FreeMonoid.Basic
import Mathlib.Data.List.Perm.Basic
import Mathlib.Tactic

/-!
Texts put together from the elements of a list, in the order of the list: when
the order does not matter.
-/

namespace Reordering
variable {α β : Type}

def Commuting (f : α → List β) (l : List α) : Prop :=
  ∀ a ∈ l, ∀ a' ∈ l, f a ++ f a' = f a' ++ f a

theorem flatMap_eq_of_perm {f : α → List β} {l l' : List α} (commuting : Commuting f l)
    (perm : l'.Perm l) : l'.flatMap f = l.flatMap f := by
  have product := (perm.symm.map fun a => FreeMonoid.ofList (f a)).prod_eq' ?_
  · have lists := congrArg FreeMonoid.toList product
    simp only [FreeMonoid.toList_prod, List.map_map] at lists
    exact lists.symm
  · rw [List.pairwise_map]
    exact List.pairwise_of_forall_mem_list fun a member a' member' =>
      commuting a member a' member'

theorem commuting_of_silent {f : α → List β} {l : List α} (a : α)
    (silent : ∀ a' ∈ l, a' = a ∨ f a' = []) : Commuting f l := by
  intro first member second member'
  obtain rfl | empty := silent first member
  · obtain rfl | empty := silent second member'
    · rfl
    · rw [empty, List.append_nil, List.nil_append]
  · rw [empty, List.append_nil, List.nil_append]

/-- Two elements of a list can be moved to its front, in either order. -/
theorem exists_perm_front {l : List α} {a a' : α} (member : a ∈ l) (member' : a' ∈ l)
    (different : a ≠ a') : ∃ rest, List.Perm (a :: a' :: rest) l := by
  classical
  have front := List.perm_cons_erase member
  have later : a' ∈ l.erase a := (List.mem_erase_of_ne (Ne.symm different)).mpr member'
  exact ⟨_, (((List.perm_cons_erase later).symm.cons a).trans front.symm)⟩

/-- If a text with two parts made from the elements, and other parts around them, is the
same for every order, then both contributions commute. -/
theorem commuting_of_same {f g : α → List β} {l : List α} (before between after : List β)
    (same : ∀ l' : List α, l'.Perm l →
      before ++ (l'.flatMap f ++ (between ++ (l'.flatMap g ++ after))) =
        before ++ (l.flatMap f ++ (between ++ (l.flatMap g ++ after)))) :
    Commuting f l ∧ Commuting g l := by
  have pair (a : α) (member : a ∈ l) (a' : α) (member' : a' ∈ l) :
      f a ++ f a' = f a' ++ f a ∧ g a ++ g a' = g a' ++ g a := by
    by_cases equal : a = a'
    · rw [equal]
      exact ⟨rfl, rfl⟩
    · obtain ⟨rest, front⟩ := exists_perm_front member member' equal
      have swapped := (same _ front).trans (same _ ((List.Perm.swap a a' rest).trans front)).symm
      simp only [List.flatMap_cons, List.append_assoc, List.append_right_inj] at swapped
      rw [← List.append_assoc (f a) (f a'), ← List.append_assoc (f a') (f a)] at swapped
      obtain ⟨first, others⟩ := List.append_inj swapped (by simp [Nat.add_comm])
      refine ⟨first, ?_⟩
      simp only [List.append_right_inj] at others
      rw [← List.append_assoc (g a) (g a'), ← List.append_assoc (g a') (g a)] at others
      exact (List.append_inj others (by simp [Nat.add_comm])).1
  exact ⟨fun a member a' member' => (pair a member a' member').1,
    fun a member a' member' => (pair a member a' member').2⟩

end Reordering
