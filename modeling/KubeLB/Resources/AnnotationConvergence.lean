import KubeLB.Resources.CreateOrUpdate

/-!
What becomes of the annotations of an object that is reconciled again and again.

MergeAnnotations puts the desired annotations over those found, CompareAnnotations
decides whether the result has to be written. The API server hands out an empty map
as nil, which CompareAnnotations takes for different from the empty map that
PropagateAnnotations returns.
-/

namespace KubeLB
open FiniteMap

/-- The annotations of an object once the merge with the desired ones is written. -/
def mergedAnnotations (existing desired : FiniteMap String String) : FiniteMap String String :=
  (mergeAnnotations (readBack existing) (some desired)).getD ∅

def HoldsDesired (annotations desired : FiniteMap String String) : Prop :=
  ∀ key ≠ lastAppliedConfigAnnotation, ∀ value, desired.lookup key = some value →
    annotations.lookup key = some value

/-- CompareAnnotations finds no difference between the annotations found and their
merge with the desired ones. -/
def MergeSettled (annotations desired : FiniteMap String String) : Prop :=
  compareAnnotations (readBack annotations)
    (mergeAnnotations (readBack annotations) (some desired)) = true

/-- The call with every write refused, which succeeds only if it makes none. -/
def ApplyCall.refusingWrites {σ : Type} (call : ApplyCall σ) : ApplyCall σ :=
  { call with faults := { create := fun _ => some "refused", update := fun _ => some "refused" } }

theorem compareAnnotations_readBack_iff {annotations other : FiniteMap String String} :
    compareAnnotations (readBack annotations) (some other) = true ↔ annotations ≠ ∅ ∧
      ∀ key ≠ lastAppliedConfigAnnotation, annotations.lookup key = other.lookup key := by
  unfold readBack
  split
  · rename_i empty
    exact iff_of_false (by simp [compareAnnotations]) fun nonempty => nonempty.1 empty
  · rename_i nonempty
    rw [compareAnnotations, decide_eq_true_eq, erase_eq_erase_iff]
    constructor
    · rintro (rfl | same)
      · exact ⟨nonempty, fun _ _ => rfl⟩
      · exact ⟨nonempty, same⟩
    · exact fun same => Or.inr same.2

theorem compareAnnotations_self (annotations : Option (FiniteMap String String)) :
    compareAnnotations annotations annotations = true := by
  cases annotations with
  | none => rfl
  | some annotations => simp [compareAnnotations]

theorem mergedAnnotations_eq (existing desired : FiniteMap String String) :
    mergedAnnotations existing desired =
      if compareAnnotations (readBack existing) (some desired) then existing
      else desired ∪ existing := by
  unfold mergedAnnotations mergeAnnotations
  split
  · exact getD_readBack existing
  · rw [getD_readBack, Option.getD_some, Option.getD_some]

/-- The desired annotations over the ones found change nothing that is compared exactly
when they are there. -/
theorem lookup_union_eq_iff {annotations desired : FiniteMap String String} :
    (∀ key ≠ lastAppliedConfigAnnotation,
      annotations.lookup key = (desired ∪ annotations).lookup key) ↔
      HoldsDesired annotations desired := by
  refine forall₂_congr fun key _ => ?_
  rw [lookup_union]
  cases desired.lookup key with
  | none => simp
  | some value => simp

theorem mergeSettled_iff {annotations desired : FiniteMap String String} :
    MergeSettled annotations desired ↔ annotations ≠ ∅ ∧ HoldsDesired annotations desired := by
  unfold MergeSettled mergeAnnotations
  split
  · rename_i same
    obtain ⟨nonempty, same⟩ := compareAnnotations_readBack_iff.mp same
    refine iff_of_true (compareAnnotations_self _) ⟨nonempty, fun key relevant value desired => ?_⟩
    rw [same key relevant, desired]
  · rw [getD_readBack, Option.getD_some, compareAnnotations_readBack_iff, lookup_union_eq_iff]

theorem holdsDesired_mergedAnnotations (existing desired : FiniteMap String String) :
    HoldsDesired (mergedAnnotations existing desired) desired := by
  intro key relevant value found
  rw [mergedAnnotations_eq]
  split
  · rename_i same
    rw [(compareAnnotations_readBack_iff.mp same).2 key relevant, found]
  · rw [lookup_union, found, Option.some_or]

theorem lookup_mergedAnnotations_of_notMem {existing desired : FiniteMap String String}
    {key : String} (undesired : key ∉ desired) :
    (mergedAnnotations existing desired).lookup key = existing.lookup key := by
  rw [mergedAnnotations_eq]
  split
  · rfl
  · rw [lookup_union, Finmap.lookup_eq_none.mpr undesired, Option.none_or]

theorem mem_mergedAnnotations {existing desired : FiniteMap String String} {key : String}
    (present : key ∈ existing) : key ∈ mergedAnnotations existing desired := by
  rw [mergedAnnotations_eq]
  split
  · exact present
  · exact Finmap.mem_union.mpr (Or.inr present)

theorem mergedAnnotations_ne_empty_iff (existing desired : FiniteMap String String) :
    mergedAnnotations existing desired ≠ ∅ ↔ existing ≠ ∅ ∨ desired ≠ ∅ := by
  rw [mergedAnnotations_eq]
  split
  · rename_i same
    have nonempty := (compareAnnotations_readBack_iff.mp same).1
    exact iff_of_true nonempty (Or.inl nonempty)
  · rw [ne_empty_iff, ne_empty_iff, ne_empty_iff, ← exists_or]
    exact exists_congr fun key => Finmap.mem_union.trans or_comm

/-- What a successful call leaves stored, whether it has created the object, updated it
or written nothing. -/
structure LeftBehind {σ : Type} (desired : LbObject σ) (existing : FiniteMap String String)
    (stored : LbObject σ) : Prop where
  spec : stored.spec = desired.spec
  labels : stored.labels = desired.labels
  holds : HoldsDesired stored.annotations desired.annotations
  nonempty : stored.annotations ≠ ∅ ↔ existing ≠ ∅ ∨ desired.annotations ≠ ∅

section
variable {σ : Type} [DecidableEq σ] {call : ApplyCall σ} {kind : String} {desired : LbObject σ}
  {store after : LbStore σ}

theorem leftBehind_of_applyObject
    (done : call.applyObject kind desired store = .ok after) :
    ∃ stored, after.lookup desired.objectKey = some stored ∧
      LeftBehind desired (((store.lookup desired.objectKey).map (·.annotations)).getD ∅)
        stored := by
  simp only [ApplyCall.applyObject] at done
  split at done
  · cases done
  · split at done
    · rename_i absent
      split at done
      · cases done
      · cases done
        refine ⟨_, Finmap.lookup_insert _, rfl, rfl, fun _ _ _ found => found, ?_⟩
        simp [absent]
    · rename_i existing present
      rw [present, Option.map_some, Option.getD_some]
      split at done
      · rename_i same
        cases done
        obtain ⟨nonempty, holds⟩ := mergeSettled_iff.mp same.2.2
        exact ⟨existing, present, same.1, same.2.1, holds, iff_of_true nonempty (Or.inl nonempty)⟩
      · split at done
        · cases done
        · cases done
          exact ⟨_, Finmap.lookup_insert _, rfl, rfl, holdsDesired_mergedAnnotations _ _,
            mergedAnnotations_ne_empty_iff _ _⟩

/-- With every write refused a call succeeds exactly when there is nothing to write. -/
theorem applyObject_refusingWrites_iff {stored : LbObject σ}
    (present : store.lookup desired.objectKey = some stored) :
    call.refusingWrites.applyObject kind desired store = .ok store ↔
      stored.spec = desired.spec ∧ stored.labels = desired.labels ∧
        MergeSettled stored.annotations desired.annotations := by
  simp only [ApplyCall.applyObject, ApplyCall.refusingWrites, present]
  split
  · rename_i same
    exact iff_of_true rfl same
  · rename_i differs
    exact iff_of_false (by simp) differs

end

/-- The next reconcile of an unchanged object writes nothing: after any call that has
succeeded on a stored object with these annotations, the same call makes no write. -/
def NextWritesNothing (σ : Type) [DecidableEq σ] (existing desired : FiniteMap String String) :
    Prop :=
  ∀ (call : ApplyCall σ) (kind : String) (object stored : LbObject σ) (store after : LbStore σ),
    object.annotations = desired → store.lookup object.objectKey = some stored →
    stored.annotations = existing → call.applyObject kind object store = .ok after →
    call.refusingWrites.applyObject kind object after = .ok after

theorem nextWritesNothing_of_nonempty {σ : Type} [DecidableEq σ]
    {existing desired : FiniteMap String String} (nonempty : existing ≠ ∅ ∨ desired ≠ ∅) :
    NextWritesNothing σ existing desired := by
  rintro call kind object stored store after rfl present rfl done
  obtain ⟨left, stays, leftBehind⟩ := leftBehind_of_applyObject done
  rw [present] at leftBehind
  exact (applyObject_refusingWrites_iff stays).mpr ⟨leftBehind.spec, leftBehind.labels,
    mergeSettled_iff.mpr ⟨leftBehind.nonempty.mpr nonempty, leftBehind.holds⟩⟩

/-- The annotations converge exactly when there are some, found or desired: then
CompareAnnotations sees no difference to what was written, and the next reconcile
writes nothing. In any case what is desired is there, what is not desired stays as it
was, and no key is lost. -/
theorem annotations_converge_iff (σ : Type) [DecidableEq σ]
    (existing source : FiniteMap String String) (settings : AnnotationSettings)
    (resource : AnnotatedResource) :
    let desired := propagateAnnotations source settings resource
    let written := mergedAnnotations existing desired
    (MergeSettled written desired ∧ NextWritesNothing σ existing desired ↔
      existing ≠ ∅ ∨ desired ≠ ∅) ∧
    HoldsDesired written desired ∧
    (∀ key ∉ desired, written.lookup key = existing.lookup key) ∧
    ∀ key ∈ existing, key ∈ written := by
  intro desired written
  refine ⟨?_, holdsDesired_mergedAnnotations existing desired,
    fun key => lookup_mergedAnnotations_of_notMem, fun key => mem_mergedAnnotations⟩
  rw [mergeSettled_iff, mergedAnnotations_ne_empty_iff]
  exact ⟨fun both => both.1.1, fun nonempty =>
    ⟨⟨nonempty, holdsDesired_mergedAnnotations existing desired⟩,
      nextWritesNothing_of_nonempty nonempty⟩⟩

/-- Nothing is found and nothing desired: the empty map is written, read back as nil,
and taken for different from the empty map again. -/
theorem empty_annotations_never_settle :
    let desired := propagateAnnotations ∅ {} .service
    let written := mergedAnnotations ∅ desired
    readBack written = none ∧ mergeAnnotations (readBack written) (some desired) = some ∅ ∧
      ¬ MergeSettled written desired :=
  ⟨by decide, by decide, by unfold MergeSettled; decide⟩

end KubeLB
