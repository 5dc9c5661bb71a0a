import KubeLB.Ccm.Copies
import KubeLB.Secrets

/-!
The copies of SyncSecrets in the LB cluster, over all interleavings of the requests of
the CCM's SyncSecretReconciler with the others.

The copy is deleted by the cleanup that the finalizer of the SyncSecret waits for. The
conversion of Secrets writes the same SyncSecret, and its updates carry no finalizers.
-/

namespace KubeLB.Ccm
open FiniteMap Runs Informer KubeObject

def syncSecretReplicator (clusterName : String) : Replicator SyncSecret SyncSecret Unit where
  managed _ := true
  cleans finalizers := cleanupFinalizer ∈ finalizers
  adopt finalizers := addFinalizer finalizers cleanupFinalizer
  release finalizers := removeFinalizer finalizers cleanupFinalizer
  desired object _ := copySyncSecret clusterName object
  revise object _ existingObj := updatedSecret existingObj (copySyncSecret clusterName object)
  looksFirst := false
  mem_adopt _ := mem_addFinalizer _ _

def syncSecretTerms : Terms SyncSecret SyncSecret where
  edits old edited := cleanupFinalizer ∈ old.finalizers → cleanupFinalizer ∈ edited.finalizers
  misses _ := False

/-- In every interleaving in which nobody else takes the finalizer off a SyncSecret, a
copy in the LB cluster that is not being deleted has its SyncSecret. -/
theorem syncSecret_copies_guarded (clusterName : String)
    {actions : List (WorldAction SyncSecret SyncSecret Unit)}
    (meets : EachStep (worldStep (syncSecretReplicator clusterName)) {} actions
      fun world action _ =>
        Meets (syncSecretReplicator clusterName) syncSecretTerms world action) :
    Throughout (worldStep (syncSecretReplicator clusterName)) {} actions fun world =>
      ∀ uid copy, (world.copies uid).present = some copy → copy.deletionTimestamp = false →
        ∃ key object, (world.objects key).present = some object ∧ object.uid = uid ∧
          cleanupFinalizer ∈ object.finalizers := by
  have guarding : Guarding syncSecretTerms := ⟨fun _ _ kept => kept, fun _ missed => missed.elim⟩
  have guarded := copies_guarded (syncSecretReplicator clusterName) guarding meets
  intro before world small reached uid copy present alive
  obtain ⟨key, object, isPresent, holds⟩ :=
    guarded before world small reached uid copy present alive
  exact ⟨key, object, isPresent, holds.uid, holds.held⟩

/-- The write of a SyncSecret by the conversion of a Secret that has changed, and then
the one by its cleanup. -/
def convertedThenDeleted (key : ObjectKey) (updated : SyncSecret) :
    List (WorldAction SyncSecret SyncSecret Unit) :=
  [.edit key updated, .delete key, .deliver key, .deliver key]

/-- What the conversion updates a SyncSecret to has the key and the UID of the
SyncSecret, and no finalizers. -/
theorem updatedSecret_convertSecret {old updated : SyncSecret} {secret : Secret}
    (changed : updatedSecret old (convertSecret secret) = some updated) :
    updated.objectKey = secret.objectKey ∧ updated.uid = old.uid ∧
      updated.deletionTimestamp = false ∧ updated.finalizers = [] := by
  unfold updatedSecret at changed
  split at changed
  · cases changed
  · cases changed
    exact ⟨rfl, rfl, rfl, rfl⟩

/-- A Secret is changed and then deleted before its SyncSecret is reconciled again. The
update takes the finalizer off, so that the SyncSecret goes without cleanup; from then
on no run of the CCM touches the copy in the LB cluster. -/
theorem changed_secret_leaves_copy (clusterName : String) (secret : Secret)
    {before : List (WorldAction SyncSecret SyncSecret Unit)}
    {world : World SyncSecret SyncSecret} {old copy updated : SyncSecret}
    (reached : run (worldStep (syncSecretReplicator clusterName)) {} before = some world)
    (idle : world.task = .idle) (current : (world.objects secret.objectKey).behind = [])
    (stored : (world.objects secret.objectKey).present = some old)
    (alive : old.deletionTimestamp = false)
    (copied : (world.copies old.uid).present = some copy)
    (changed : updatedSecret old (convertSecret secret) = some updated) :
    ∃ after, run (worldStep (syncSecretReplicator clusterName)) world
        (convertedThenDeleted secret.objectKey updated) = some after ∧
      (after.objects secret.objectKey).present = none ∧
      ∀ later, (EachStep (worldStep (syncSecretReplicator clusterName)) after later
          fun world action _ =>
            Meets (syncSecretReplicator clusterName) (leaving old.uid) world action) →
        Throughout (worldStep (syncSecretReplicator clusterName)) after later fun world =>
          (world.copies old.uid).present = some copy := by
  have consistent := consistent_throughout (syncSecretReplicator clusterName) before before world
    List.prefix_rfl reached
  obtain ⟨assigned, own⟩ :=
    consistent.assigned secret.objectKey old (stored ▸ Versions.present_mem _)
  generalize atKey : secret.objectKey = key at *
  obtain ⟨sameKey, sameUid, unmarked, bare⟩ := updatedSecret_convertSecret changed
  have kept : settle updated = some updated := by
    simp [settle, ObjectMeta.isGone, objectMeta, unmarked]
  have gone : settle (setDeletionTimestamp updated true) = none := by
    simp [settle, ObjectMeta.isGone, objectMeta, setDeletionTimestamp, withMeta, bare]
  have edited : worldStep (syncSecretReplicator clusterName) world (.edit key updated) =
      some { world with objects := put world.objects key (some updated) } := by
    have enabled : updated.objectKey = old.objectKey ∧ updated.uid = old.uid ∧
        updated.deletionTimestamp = old.deletionTimestamp :=
      ⟨sameKey.trans (atKey.trans own.symm), sameUid, unmarked.trans alive.symm⟩
    simp only [worldStep, stored, kept]
    exact if_pos enabled
  let after : World SyncSecret SyncSecret := { world with
    objects := deliver (deliver (put (put world.objects key (some updated)) key none) key) key }
  have taken : run (worldStep (syncSecretReplicator clusterName)) world
      (convertedThenDeleted key updated) = some after := by
    rw [convertedThenDeleted, run_cons, edited, Option.bind_some, run_cons]
    simp only [worldStep, present_put, if_pos, Option.bind_eq_bind, Option.bind_some, gone]
    rfl
  have present : (after.objects key).present = none := by simp [after]
  have caught : (after.objects key).behind = [] := by
    simp [after, deliver, put, Versions.advance, Versions.write, current]
  have consistent' := consistent_throughout (syncSecretReplicator clusterName)
    (before ++ convertedThenDeleted key updated) _ after List.prefix_rfl
    (by rw [run_append, reached, Option.bind_some, taken])
  refine ⟨after, taken, present, fun later left => ?_⟩
  have abandoned : Abandoned old.uid copy after := by
    refine consistent'.abandoned copied assigned idle caught fun object isPresent => ?_
    cases present.symm.trans isPresent
  exact fun earlier world' small reached' =>
    (abandoned.stays left earlier world' small reached').present

/-- A certificate is renewed and its Secret then deleted. -/
theorem changed_secret_leaves_copy_renewed :
    let secret : Secret := { name := "tls", ns := "default", type := "kubernetes.io/tls" }
    let renewed : Secret := { secret with data := Finmap.singleton "tls.crt" [1] }
    let created : SyncSecret := { convertSecret secret with uid := "u-1" }
    let updated : SyncSecret := { convertSecret renewed with uid := "u-1" }
    let step := worldStep (syncSecretReplicator "tenant-a")
    ∃ world copy after, run step {}
        [.create created.objectKey created, .deliver created.objectKey, .get created.objectKey,
          .call () false, .call () false, .deliver created.objectKey] = some world ∧
      run step world (convertedThenDeleted created.objectKey updated) = some after ∧
      (after.objects created.objectKey).present = none ∧
      (after.copies "u-1").present = some copy := by
  intro secret renewed created updated step
  obtain ⟨after, taken, gone, stays⟩ :=
    changed_secret_leaves_copy "tenant-a" renewed
      (show run step {} [.create created.objectKey created, .deliver created.objectKey,
        .get created.objectKey, .call () false, .call () false,
        .deliver created.objectKey] = some _ from rfl) rfl rfl rfl rfl rfl
      (show updatedSecret _ (convertSecret renewed) = some updated from rfl)
  exact ⟨_, _, after, rfl, taken, gone, stays [] (eachStep_nil _) [] after List.prefix_rfl rfl⟩

end KubeLB.Ccm
