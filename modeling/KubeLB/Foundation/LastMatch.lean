import Mathlib.Data.List.Basic
import Mathlib.Tactic

/-!
A loop over a list that does not stop at the first match: every item that matches
writes its value, and what is written replaces what was written before, so that the
last match stays. A value that cannot be computed and a write that fails end the
loop.
-/

namespace LastMatch
variable {σ α γ : Type}

def loop (p : α → Prop) [DecidablePred p] (value : α → Option γ) (put : σ → γ → Option σ)
    (items : List α) (state : σ) : Option σ :=
  items.foldlM (fun state item => if p item then (value item).bind (put state) else some state)
    state

def Overwrites (put : σ → γ → Option σ) : Prop :=
  ∀ state state' x y, put state x = some state' → put state' y = put state y

section
variable {p : α → Prop} [DecidablePred p] {value : α → Option γ} {put : σ → γ → Option σ}
  {items : List α} {item : α} {state state' : σ}

@[simp] theorem loop_nil : loop p value put [] state = some state := rfl

theorem loop_cons_of_pos (matched : p item) :
    loop p value put (item :: items) state =
      ((value item).bind (put state)).bind (loop p value put items) := by
  simp only [loop, List.foldlM_cons, if_pos matched]
  rfl

theorem loop_cons_of_neg (other : ¬ p item) :
    loop p value put (item :: items) state = loop p value put items state := by
  simp only [loop, List.foldlM_cons, if_neg other]
  rfl

theorem loop_append (items items' : List α) :
    loop p value put (items ++ items') state =
      (loop p value put items state).bind (loop p value put items') := by
  simp only [loop, List.foldlM_append]
  rfl

theorem loop_eq_filter (items : List α) :
    loop p value put items state =
      loop (fun _ => True) value put (items.filter p) state := by
  induction items generalizing state with
  | nil => rfl
  | cons item items ih =>
      by_cases matched : p item
      · rw [loop_cons_of_pos matched, List.filter_cons_of_pos (by simpa using matched),
          loop_cons_of_pos trivial]
        exact congrArg _ (funext fun _ => ih)
      · rw [loop_cons_of_neg matched, List.filter_cons_of_neg (by simpa using matched), ih]

theorem loop_isSome_iff (overwrites : Overwrites put) :
    (loop p value put items state).isSome ↔
      ∀ item ∈ items, p item → ∃ x, value item = some x ∧ (put state x).isSome := by
  induction items generalizing state with
  | nil => simp
  | cons item items ih =>
      rw [List.forall_mem_cons]
      by_cases matched : p item
      · rw [loop_cons_of_pos matched]
        cases computed : value item with
        | none =>
            refine iff_of_false (by simp) fun all => ?_
            obtain ⟨x, ⟨⟩, _⟩ := all.1 matched
        | some x =>
            cases written : put state x with
            | none =>
                refine iff_of_false (by simp [written]) fun all => ?_
                obtain ⟨_, ⟨⟩, isSome⟩ := all.1 matched
                simp [written] at isSome
            | some state' =>
                have same (y : γ) : put state' y = put state y :=
                  overwrites state state' x y written
                simp only [Option.bind_some, written, ih, same]
                exact (and_iff_right fun _ => ⟨x, rfl, by simp [written]⟩).symm
      · rw [loop_cons_of_neg matched, ih]
        exact (and_iff_right fun holds => absurd holds matched).symm

theorem loop_concat (overwrites : Overwrites put) (matched : p item)
    (returned : loop p value put (items ++ [item]) state = some state') :
    ∃ x, value item = some x ∧ put state x = some state' := by
  induction items generalizing state with
  | nil =>
      rw [List.nil_append, loop_cons_of_pos matched] at returned
      obtain ⟨next, written, ⟨⟩⟩ := Option.bind_eq_some_iff.mp returned
      exact Option.bind_eq_some_iff.mp written
  | cons first items ih =>
      by_cases holds : p first
      · rw [List.cons_append, loop_cons_of_pos holds] at returned
        obtain ⟨next, written, returned⟩ := Option.bind_eq_some_iff.mp returned
        obtain ⟨y, _, written⟩ := Option.bind_eq_some_iff.mp written
        obtain ⟨x, computed, put'⟩ := ih returned
        exact ⟨x, computed, (overwrites state next y x written).symm.trans put'⟩
      · rw [List.cons_append, loop_cons_of_neg holds] at returned
        exact ih returned

/-- What stays is what was there, if nothing matched, or the value of a match. -/
theorem eq_or_written_of_loop (overwrites : Overwrites put)
    (returned : loop p value put items state = some state') :
    (state' = state ∧ ∀ item ∈ items, ¬ p item) ∨
      ∃ item ∈ items, p item ∧ ∃ x, value item = some x ∧ put state x = some state' := by
  rw [loop_eq_filter] at returned
  obtain nothing | ⟨front, item, matches'⟩ := (items.filter p).eq_nil_or_concat
  · left
    rw [nothing] at returned
    cases returned
    exact ⟨rfl, by simpa using List.filter_eq_nil_iff.mp nothing⟩
  · right
    rw [matches', List.concat_eq_append] at returned
    have member : item ∈ items.filter p := by
      rw [matches', List.concat_eq_append]
      simp
    obtain ⟨inItems, holds⟩ := List.mem_filter.mp member
    exact ⟨item, inItems, by simpa using holds, loop_concat overwrites trivial returned⟩

end

end LastMatch
