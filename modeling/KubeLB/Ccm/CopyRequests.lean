import KubeLB.Ccm.Copies

/-!
The events of a copy reach the object it is made from.

The CCM watches the copies in the LB cluster and reads the key of the object from
the labels of the copy. These are written with the copy, and both sides leave them
alone, so they name the object for as long as the copy exists.
-/

namespace KubeLB.Ccm
open FiniteMap Runs Informer KubeObject

section
variable {α β ι : Type} [KubeObject α] [KubeObject β] {world after : World α β}
  {r : Replicator α β ι} {terms : Terms α β}

/-- The requests by which an event of a copy reaches its object: what is read of a
copy for them is set when the copy is made, and an update does not lead elsewhere. -/
structure LeadsBack (r : Replicator α β ι) (requests : β → List ObjectKey) : Prop where
  desired : ∀ object input, r.managed object = true → (objectMeta object).ns ≠ "" →
    (objectMeta object).name ≠ "" →
      requests (r.desired object input) = [(objectMeta object).objectKey]
  revised : ∀ object input actual revised key, r.revise object input actual = some revised →
    requests actual = [key] → requests (r.desired object input) = [key] →
      requests revised = [key]
  deletion : ∀ copy deleted, requests (setDeletionTimestamp copy deleted) = requests copy
  marked : ∀ object, r.managed object = true → r.managed (r.marked object) = true

structure Leading (r : Replicator α β ι) (requests : β → List ObjectKey)
    (world : World α β) : Prop where
  named : ∀ uid key, world.uids.lookup uid = some key → key.ns ≠ "" ∧ key.name ≠ ""
  adopted : ∀ key object, world.task = .adopted key object → r.managed object = true
  copies : ∀ uid copy, (world.copies uid).present = some copy →
    ∃ key, world.uids.lookup uid = some key ∧ requests copy = [key]

variable {requests : β → List ObjectKey}

omit [KubeObject β] in
theorem Leading.managed (leading : Leading r requests world) {key : ObjectKey} {object : α}
    (armed : Arms r world.task key object) : r.managed object = true := by
  generalize atTask : world.task = task at armed
  cases armed with
  | got alive managed held => exact managed
  | adopted => exact leading.adopted key object atTask

theorem Leading.made (back : LeadsBack r requests) (leading : Leading r requests world)
    (consistent : Consistent world) {key : ObjectKey} {object : α}
    (armed : Arms r world.task key object) (input : ι) :
    world.uids.lookup (objectMeta object).uid = some key ∧
      requests (r.desired object input) = [key] := by
  obtain ⟨assigned, own⟩ := consistent.read key object armed.reads
  obtain ⟨ns, name⟩ := leading.named _ key assigned
  refine ⟨assigned, ?_⟩
  rw [← own] at ns name ⊢
  exact back.desired object input (leading.managed armed) ns name

theorem Leading.deleteCopy (back : LeadsBack r requests) (leading : Leading r requests world)
    (name : String) :
    Leading r requests { world with copies := deletedCopies world.copies name } := by
  refine ⟨leading.named, leading.adopted, ?_⟩
  intro uid copy present
  rw [present_deletedCopies] at present
  split at present
  · rename_i same
    subst same
    obtain ⟨old, isOld, left⟩ := Option.bind_eq_some_iff.mp present
    cases settle_eq_some left
    rw [back.deletion]
    exact leading.copies uid old isOld
  · exact leading.copies uid copy present

theorem Leading.step (back : LeadsBack r requests) (leading : Leading r requests world)
    (consistent : Consistent world)
    (reports : ∀ name old copy, terms.reports name old copy → requests copy = requests old)
    (effect : Effect r terms world after) : Leading r requests after := by
  cases effect with
  | @created key object absent own alive fresh =>
      refine ⟨?_, leading.adopted, ?_⟩
      · intro uid other assigned
        by_cases same : uid = (objectMeta object).uid
        · rw [same, Finmap.lookup_insert] at assigned
          cases assigned
          exact own.2
        · rw [Finmap.lookup_insert_of_ne _ same] at assigned
          exact leading.named uid other assigned
      · intro uid copy present
        obtain ⟨other, assigned, leads⟩ := leading.copies uid copy present
        refine ⟨other, ?_, leads⟩
        rwa [Finmap.lookup_insert_of_ne]
        rintro rfl
        exact fresh (Finmap.mem_of_lookup_eq_some assigned)
  | edited present own uid deletion kept =>
      exact ⟨leading.named, leading.adopted, leading.copies⟩
  | deleted present => exact ⟨leading.named, leading.adopted, leading.copies⟩
  | @adopted key object task alive managed present =>
      refine ⟨leading.named, ?_, leading.copies⟩
      rintro _ _ ⟨⟩
      exact back.marked object managed
  | released task present => exact ⟨leading.named, by rintro _ _ ⟨⟩, leading.copies⟩
  | delivered key => exact ⟨leading.named, leading.adopted, leading.copies⟩
  | @copied key object armed input absent =>
      refine ⟨leading.named, by rintro _ _ ⟨⟩, ?_⟩
      intro uid copy present
      rw [present_put] at present
      split at present
      · rename_i same
        cases present
        exact ⟨key, same ▸ Leading.made back leading consistent armed input⟩
      · exact leading.copies uid copy present
  | @revised key object armed input actual revised isActual differs =>
      refine ⟨leading.named, by rintro _ _ ⟨⟩, ?_⟩
      intro uid copy present
      rw [present_put] at present
      split at present
      · rename_i same
        subst same
        cases settle_eq_some present
        obtain ⟨assigned, made⟩ := Leading.made back leading consistent armed input
        obtain ⟨other, assigned', leads⟩ := leading.copies _ actual isActual
        cases assigned.symm.trans assigned'
        refine ⟨key, assigned, ?_⟩
        rw [back.deletion]
        exact back.revised object input actual revised key differs leads made
      · exact leading.copies uid copy present
  | @reported name old copy isOld deletion kept =>
      refine ⟨leading.named, leading.adopted, ?_⟩
      intro uid written present
      rw [present_put] at present
      split at present
      · rename_i same
        subst same
        cases settle_eq_some present
        rw [reports _ old copy kept]
        exact leading.copies uid old isOld
      · exact leading.copies uid written present
  | uncopied deletes => exact Leading.deleteCopy back leading _
  | copyDelivered name =>
      refine ⟨leading.named, leading.adopted, ?_⟩
      intro uid copy present
      exact leading.copies uid copy (by simpa using present)
  | got seen => exact ⟨leading.named, by rintro _ _ ⟨⟩, leading.copies⟩
  | @cleaned key object task deleted =>
      have deleted := Leading.deleteCopy back leading (objectMeta object).uid
      exact ⟨deleted.named, by rintro _ _ ⟨⟩, deleted.copies⟩
  | missed task deleted absent => exact ⟨leading.named, by rintro _ _ ⟨⟩, leading.copies⟩
  | stopped => exact ⟨leading.named, by rintro _ _ ⟨⟩, leading.copies⟩
  | unchanged => exact leading

/-- In every run each copy that is not being deleted leads to an object with its UID
and the finalizer. -/
theorem copies_lead_back [DecidableEq α] [DecidableEq β] (back : LeadsBack r requests)
    (guarding : Guarding terms)
    (reports : ∀ name old copy, terms.reports name old copy → requests copy = requests old)
    {actions : List (WorldAction α β ι)}
    (meets : EachStep (worldStep r) {} actions fun world action _ =>
      Meets r terms world action) :
    Throughout (worldStep r) {} actions fun world => ∀ uid copy,
      (world.copies uid).present = some copy → (objectMeta copy).deletionTimestamp = false →
      ∃ key object, requests copy = [key] ∧ (world.objects key).present = some object ∧
        HoldsFinalizer uid object := by
  have leading : Throughout (worldStep r) {} actions fun world =>
      Consistent world ∧ Leading r requests world := by
    refine throughout_of_eachStep (P := fun world => Consistent world ∧ Leading r requests world)
      ⟨consistent_empty, ?_⟩ ?_ meets
    · refine ⟨?_, ?_, ?_⟩
      · rintro uid key ⟨⟩
      · rintro key object ⟨⟩
      · rintro uid copy ⟨⟩
    · rintro world action after ⟨consistent, leading⟩ met taken
      have effect := effect_of_step met taken
      exact ⟨consistent.step effect, Leading.step back leading consistent reports effect⟩
  have guarded := copies_guarded r guarding meets
  intro before world small reached uid copy present alive
  obtain ⟨consistent, leads⟩ := leading before world small reached
  obtain ⟨key, assigned, isKey⟩ := leads.copies uid copy present
  obtain ⟨other, object, isPresent, holds⟩ :=
    guarded before world small reached uid copy present alive
  -- the UID was given out once, so the two keys are one
  have same := (consistent.assigned other object (isPresent ▸ Versions.present_mem _)).1
  rw [holds.uid, assigned] at same
  cases same
  exact ⟨key, object, isKey, isPresent, holds⟩

end

end KubeLB.Ccm
