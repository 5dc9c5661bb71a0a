import KubeLB.Foundation.FiniteMap

/-!
Loops that range over a finite map and fill another one.

Such a loop meets the keys in an order of its own. It does not matter as long as the
body touches no entry but the one at the key it is given: the entry at a key is then
what one run of the body makes of it.
-/

namespace FiniteMap
variable {α β γ σ : Type} [DecidableEq α]

/-- The loop over the entries of the map, its keys met in the given order. -/
def rangeLoop (m : FiniteMap α β) (body : α → β → σ → σ) : List α → σ → σ
  | [], state => state
  | key :: order, state =>
      match m.lookup key with
      | none => rangeLoop m body order state
      | some value => rangeLoop m body order (body key value state)

theorem rangeLoop_append (m : FiniteMap α β) (body : α → β → σ → σ) (before after : List α)
    (state : σ) :
    rangeLoop m body (before ++ after) state =
      rangeLoop m body after (rangeLoop m body before state) := by
  induction before generalizing state with
  | nil => rfl
  | cons key before ih =>
      simp only [List.cons_append, rangeLoop]
      split <;> exact ih _

/-- The body changes the entry at its key, as `step` says, and no other. -/
def WritesOwnKey (body : α → β → FiniteMap α γ → FiniteMap α γ)
    (step : α → β → Option γ → Option γ) : Prop :=
  ∀ key value (target : FiniteMap α γ) other, (body key value target).lookup other =
    if other = key then step key value (target.lookup key) else target.lookup other

section
variable {m : FiniteMap α β} {body : α → β → FiniteMap α γ → FiniteMap α γ}
  {step : α → β → Option γ → Option γ}

theorem lookup_rangeLoop_of_notMem (writes : WritesOwnKey body step) {order : List α} {key : α}
    (unmet : key ∉ order) (target : FiniteMap α γ) :
    (rangeLoop m body order target).lookup key = target.lookup key := by
  induction order generalizing target with
  | nil => rfl
  | cons first order ih =>
      obtain ⟨differs, later⟩ := List.ne_and_not_mem_of_not_mem_cons unmet
      rw [rangeLoop]
      split
      · exact ih later target
      · rw [ih later, writes, if_neg differs]

theorem lookup_rangeLoop (writes : WritesOwnKey body step) {order : List α}
    (enumerates : Enumerates order m) (target : FiniteMap α γ) (key : α) :
    (rangeLoop m body order target).lookup key =
      match m.lookup key with
      | none => target.lookup key
      | some value => step key value (target.lookup key) := by
  obtain ⟨nodup, met⟩ := enumerates
  by_cases member : key ∈ order
  · -- the loop up to the key leaves its entry alone, and so does the rest
    obtain ⟨value, found⟩ := Finmap.mem_iff.mp ((met key).mp member)
    obtain ⟨before, after, split⟩ := List.append_of_mem member
    rw [split, List.nodup_append, List.nodup_cons] at nodup
    have unmet : key ∉ before := fun inBefore =>
      nodup.2.2 key inBefore key List.mem_cons_self rfl
    rw [split, rangeLoop_append, rangeLoop, found]
    simp only
    rw [lookup_rangeLoop_of_notMem writes nodup.2.1.1, writes, if_pos rfl,
      lookup_rangeLoop_of_notMem writes unmet]
  · have absent : m.lookup key = none :=
      Finmap.lookup_eq_none.mpr fun inMap => member ((met key).mpr inMap)
    rw [lookup_rangeLoop_of_notMem writes member, absent]

end

theorem writesOwnKey_insertIfAbsent (f : β → γ) :
    WritesOwnKey (fun (key : α) value (target : FiniteMap α γ) =>
        if key ∈ target then target else target.insert key (f value))
      fun _ value found => found.or (some (f value)) := by
  intro key value target other
  by_cases same : other = key
  · rw [if_pos same, same]
    by_cases present : key ∈ target
    · obtain ⟨old, found⟩ := Finmap.mem_iff.mp present
      simp [present, found]
    · simp [present, Finmap.lookup_eq_none.mpr present]
  · rw [if_neg same]
    by_cases present : key ∈ target <;> simp [present, Finmap.lookup_insert_of_ne _ same]

theorem writesOwnKey_insertIf (p : α → β → Prop) [∀ key value, Decidable (p key value)] :
    WritesOwnKey (fun (key : α) value (target : FiniteMap α β) =>
        if p key value then target.insert key value else target)
      fun key value found => if p key value then some value else found := by
  intro key value target other
  by_cases same : other = key
  · rw [if_pos same, same]
    by_cases copied : p key value <;> simp [copied]
  · rw [if_neg same]
    by_cases copied : p key value <;> simp [copied, Finmap.lookup_insert_of_ne _ same]

end FiniteMap
