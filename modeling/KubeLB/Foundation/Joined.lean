import Mathlib

/-!
Strings built by joining parts with a separator. A part can be read back when
the separator does not occur in it: the last part of a join from the right, the
first part from the left. Parts that may contain the separator cannot be told
apart, and no lemma here says so.
-/

namespace Joined

def Lacks (separator : Char) (s : String) : Prop := separator ∉ s.toList

instance (separator : Char) (s : String) : Decidable (Lacks separator s) :=
  inferInstanceAs (Decidable (separator ∉ s.toList))

section Lists
variable {α : Type} [DecidableEq α]

theorem first_inj {x : α} {a a' b b' : List α} (ha : x ∉ a) (ha' : x ∉ a')
    (same : a ++ x :: b = a' ++ x :: b') : a = a' ∧ b = b' := by
  have keep (l : List α) (h : x ∉ l) : ∀ y ∈ l, decide (y ≠ x) = true := by
    intro y member
    have different : y ≠ x := by
      rintro rfl
      exact h member
    simpa using different
  have cut (l r : List α) (h : x ∉ l) : (l ++ x :: r).takeWhile (· ≠ x) = l := by
    rw [List.takeWhile_append_of_pos (keep l h)]
    simp
  have parts : a = a' := by
    rw [← cut a b ha, same, cut a' b' ha']
  subst parts
  simpa using same

theorem last_inj {x : α} {a a' b b' : List α} (hb : x ∉ b) (hb' : x ∉ b')
    (same : a ++ x :: b = a' ++ x :: b') : a = a' ∧ b = b' := by
  have reversed : b.reverse ++ x :: a.reverse = b'.reverse ++ x :: a'.reverse := by
    simpa using congrArg List.reverse same
  obtain ⟨last, front⟩ := first_inj (by simpa using hb) (by simpa using hb') reversed
  exact ⟨List.reverse_injective front, List.reverse_injective last⟩

end Lists

theorem lacks_repr (n : Nat) : Lacks '-' n.repr := by
  intro member
  rw [Nat.toList_repr] at member
  have digit := Nat.isDigit_of_mem_toDigits (by decide) (by decide) member
  exact absurd digit (by decide)

theorem joined_inj_last {a a' b b' : String} (hb : Lacks '-' b) (hb' : Lacks '-' b')
    (same : a ++ "-" ++ b = a' ++ "-" ++ b') : a = a' ∧ b = b' := by
  have lists := congrArg String.toList same
  simp only [String.toList_append] at lists
  obtain ⟨front, last⟩ := last_inj (x := '-') hb hb' (by simpa using lists)
  exact ⟨String.toList_inj.mp front, String.toList_inj.mp last⟩

theorem slash_inj_first {a a' b b' : String} (ha : Lacks '/' a) (ha' : Lacks '/' a')
    (same : a ++ "/" ++ b = a' ++ "/" ++ b') : a = a' ∧ b = b' := by
  have lists := congrArg String.toList same
  simp only [String.toList_append] at lists
  obtain ⟨front, last⟩ := first_inj (x := '/') ha ha' (by simpa using lists)
  exact ⟨String.toList_inj.mp front, String.toList_inj.mp last⟩

/-- An integer after a hyphen can be read back when the text before the hyphen
cannot end in one. -/
theorem joined_inj_int {a a' : String} {m n : Int} (ha : a.toList.getLast? ≠ some '-')
    (ha' : a'.toList.getLast? ≠ some '-')
    (same : a ++ "-" ++ m.repr = a' ++ "-" ++ n.repr) : a = a' ∧ m = n := by
  rw [Int.repr_eq_if, Int.repr_eq_if] at same
  have lists := congrArg String.toList same
  by_cases hm : 0 ≤ m <;> by_cases hn : 0 ≤ n
  · simp only [hm, hn, ite_true] at same
    obtain ⟨front, digits⟩ := joined_inj_last (lacks_repr _) (lacks_repr _) same
    have equal := Nat.repr_inj.mp digits
    exact ⟨front, by omega⟩
  · simp only [hm, hn, ite_true, ite_false, ← String.append_assoc] at same
    obtain ⟨front, _⟩ := joined_inj_last (lacks_repr _) (lacks_repr _) same
    exact absurd (by rw [front]; simp) ha
  · simp only [hm, hn, ite_true, ite_false, ← String.append_assoc] at same
    obtain ⟨front, _⟩ := joined_inj_last (lacks_repr _) (lacks_repr _) same
    exact absurd (by rw [← front]; simp) ha'
  · simp only [hm, hn, ite_false, ← String.append_assoc] at same
    obtain ⟨front, digits⟩ := joined_inj_last (lacks_repr _) (lacks_repr _) same
    have equal := Nat.repr_inj.mp digits
    have heads := congrArg String.toList front
    simp only [String.toList_append, List.append_left_inj] at heads
    exact ⟨String.toList_inj.mp heads, by omega⟩

end Joined
