import KubeLB.Ccm.SharedReplicas

/-!
What NormalizeAndReplicateServices does to Services that are not the CCM's.

The replica of a ClusterIP service is named after it, in its own namespace, and is
written whether or not a Service with that name is already there.
-/

namespace KubeLB.Ccm

def acceptedReplicas (faults : ApiFaults) (api : Admission) :
    List Service → ServiceStore → List Service
  | [], _ => []
  | svc :: replicas, store =>
      match createOrUpdateService faults api store svc with
      | .error _ => []
      | .ok (store, _) => svc :: acceptedReplicas faults api replicas store

/-- The replicas that NormalizeAndReplicateServices writes. -/
def replicated (faults : ApiFaults) (api : Admission) (store : ServiceStore)
    (references : List ObjectKey) : List Service :=
  match normalizeServices faults store references with
  | .error _ => []
  | .ok (_, replicas) => acceptedReplicas faults api replicas store

def IsManaged (svc : Service) : Prop := svc.labels.lookup labelManagedBy = some labelControllerName

instance (svc : Service) : Decidable (IsManaged svc) := inferInstanceAs (Decidable (_ = _))

/-- Every Service that does not carry the label of the CCM is still as it was. -/
def KeepsUserServices (store after : ServiceStore) : Prop :=
  ∀ key svc, store.lookup key = some svc → ¬ IsManaged svc → after.lookup key = some svc

def neededReplicas (store : ServiceStore) (references : List ObjectKey) : List Service :=
  references.filterMap fun ref => (store.lookup ref).bind fun svc =>
    if svc.type = .clusterIP then some (replicaService svc) else none

section
variable {faults : ApiFaults} {api : Admission} {store after : ServiceStore}
  {references : List ObjectKey}

theorem isManaged_replicaService (svc : Service) : IsManaged (replicaService svc) :=
  Finmap.lookup_insert _

theorem writeReplicas_accepted (replicas : List Service) (store : ServiceStore) :
    writeReplicas faults api (acceptedReplicas faults api replicas store) store =
      .ok (writtenReplicas faults api replicas store) := by
  induction replicas generalizing store with
  | nil => rfl
  | cons svc replicas ih =>
      rw [acceptedReplicas, writtenReplicas]
      cases result : createOrUpdateService faults api store svc with
      | error err => rfl
      | ok written =>
          rw [writeReplicas, result]
          exact ih written.1

theorem mem_of_accepted {replicas : List Service} {store : ServiceStore} {replica : Service}
    (accepted : replica ∈ acceptedReplicas faults api replicas store) : replica ∈ replicas := by
  induction replicas generalizing store with
  | nil => exact accepted
  | cons svc replicas ih =>
      rw [acceptedReplicas] at accepted
      split at accepted
      · cases accepted
      · obtain rfl | later := List.mem_cons.mp accepted
        · exact List.mem_cons_self
        · exact List.mem_cons_of_mem _ (ih later)

theorem isManaged_of_replicated {replica : Service}
    (member : replica ∈ replicated faults api store references) : IsManaged replica := by
  unfold replicated at member
  split at member
  · cases member
  · rename_i services replicas normalized
    obtain ⟨origin, rfl⟩ := (normalizeServices_spec normalized).2 replica (mem_of_accepted member)
    exact isManaged_replicaService origin

/-- The store after the call is the one after the writes that were accepted. -/
theorem writeReplicas_replicated (faults : ApiFaults) (api : Admission) (store : ServiceStore)
    (references : List ObjectKey) :
    writeReplicas faults api (replicated faults api store references) store =
      .ok (replicatedStore faults api store references) := by
  rw [replicated, replicatedStore]
  cases normalizeServices faults store references with
  | error err => rfl
  | ok lists => exact writeReplicas_accepted lists.2 store

theorem acceptedReplicas_eq
    (answers : ∀ key, faults.get key = none ∧ faults.create key = none ∧ faults.update key = none)
    (replicas : List Service) (store : ServiceStore) :
    acceptedReplicas faults api replicas store = replicas := by
  induction replicas generalizing store with
  | nil => rfl
  | cons svc replicas ih =>
      obtain ⟨store', stored, written⟩ := createOrUpdateService_succeeds answers api store svc
      rw [acceptedReplicas, written]
      exact congrArg _ (ih store')

theorem normalizeServices_replicas (answers : ∀ key, faults.get key = none) (store : ServiceStore)
    (references : List ObjectKey) :
    ∃ services, normalizeServices faults store references =
      .ok (services, neededReplicas store references) := by
  induction references with
  | nil => exact ⟨[], rfl⟩
  | cons ref references ih =>
      obtain ⟨services, later⟩ := ih
      simp only [normalizeServices, answers ref, later, bind, Except.bind]
      cases found : store.lookup ref with
      | none => exact ⟨services, by simp [neededReplicas, found]⟩
      | some svc =>
          by_cases clusterIP : svc.type = .clusterIP
          · exact ⟨services, by simp [neededReplicas, found, clusterIP]⟩
          · exact ⟨cleanseService svc false :: services,
              by simp [neededReplicas, found, clusterIP]⟩

theorem replicated_eq
    (answers : ∀ key, faults.get key = none ∧ faults.create key = none ∧ faults.update key = none)
    (store : ServiceStore) (references : List ObjectKey) :
    replicated faults api store references = neededReplicas store references := by
  obtain ⟨services, normalized⟩ :=
    normalizeServices_replicas (fun key => (answers key).1) store references
  rw [replicated, normalized]
  exact acceptedReplicas_eq answers _ store

/-- A Service of the user is lost exactly where a replica was written over it. -/
theorem keepsUserServices_replicated_iff :
    KeepsUserServices store (replicatedStore faults api store references) ↔
      ∀ replica ∈ replicated faults api store references,
        ∀ svc, store.lookup replica.objectKey = some svc → IsManaged svc := by
  obtain ⟨_, written⟩ := writeReplicas_spec (writeReplicas_replicated faults api store references)
  constructor
  · intro kept replica member svc found
    by_contra unmanaged
    obtain ⟨replica', member', _, stored, found', labels⟩ | ⟨absent, _⟩ :=
      written replica.objectKey
    · cases (kept _ svc found unmanaged).symm.trans found'
      apply unmanaged
      rw [IsManaged, labels]
      exact isManaged_of_replicated member'
    · exact absent replica member rfl
  · intro free key svc found unmanaged
    obtain ⟨replica, member, rfl, _⟩ | ⟨_, same⟩ := written key
    · exact absurd (free replica member svc found) unmanaged
    · exact same.trans found

end

/-- NormalizeAndReplicateServices leaves the Services without the label of the CCM as
they are exactly when it writes no replica at the key of one of them. If the API answers
every request, that is so exactly when no referenced ClusterIP service has beside it
an unlabelled Service with the name of its replica. -/
theorem replication_keeps_userServices_iff (faults : ApiFaults) (api : Admission)
    (store : ServiceStore) (keyed : WellKeyed store) (references : List ObjectKey) :
    (KeepsUserServices store (replicatedStore faults api store references) ↔
      ∀ replica ∈ replicated faults api store references,
        ∀ svc, store.lookup replica.objectKey = some svc → IsManaged svc) ∧
    ((∀ key, faults.get key = none ∧ faults.create key = none ∧ faults.update key = none) →
      (KeepsUserServices store (replicatedStore faults api store references) ↔
        ∀ ref ∈ references, ∀ origin, store.lookup ref = some origin →
          origin.type = .clusterIP →
            ∀ svc, store.lookup (replicaKey ref) = some svc → IsManaged svc)) := by
  refine ⟨keepsUserServices_replicated_iff, fun answers => ?_⟩
  rw [keepsUserServices_replicated_iff, replicated_eq answers]
  have needed (ref : ObjectKey) (origin : Service) (found : store.lookup ref = some origin) :
      (replicaService origin).objectKey = replicaKey ref := by
    rw [← keyed ref origin found]
    rfl
  constructor
  · intro free ref member origin found clusterIP svc found'
    refine free (replicaService origin) ?_ svc ?_
    · exact List.mem_filterMap.mpr ⟨ref, member, by simp [found, clusterIP]⟩
    · rw [needed ref origin found]
      exact found'
  · intro free replica inReplicas svc found'
    obtain ⟨ref, member, isReplica⟩ := List.mem_filterMap.mp inReplicas
    obtain ⟨origin, found, isReplica⟩ := Option.bind_eq_some_iff.mp isReplica
    obtain ⟨clusterIP, ⟨⟩⟩ := Option.ite_none_right_eq_some.mp isReplica
    rw [needed ref origin found] at found'
    exact free ref member origin found clusterIP svc found'

private def clusterWeb : Service :=
  { name := "web", ns := "default", uid := "0f8fad5b", type := .clusterIP
    ports := [{ port := 80 }], selector := (∅ : FiniteMap String String).insert "app" "web" }

private def userNodePort : Service :=
  { name := "web-nodeport", ns := "default", uid := "7d9a3c11", type := .nodePort
    ports := [{ port := 8080, nodePort := 30080 }]
    selector := (∅ : FiniteMap String String).insert "app" "admin" }

private def userStore (svc : Service) : ServiceStore :=
  ((∅ : ServiceStore).insert clusterWeb.objectKey clusterWeb).insert svc.objectKey svc

private theorem wellKeyed_userStore (svc : Service) : WellKeyed (userStore svc) :=
  (wellKeyed_empty.insert rfl).insert rfl

/-- With another name the user's Service is left alone. -/
theorem replication_keeps_other_name :
    KeepsUserServices (userStore { userNodePort with name := "admin" })
      (replicatedStore {} .verbatim (userStore { userNodePort with name := "admin" })
        [clusterWeb.objectKey]) := by
  refine ((replication_keeps_userServices_iff {} .verbatim _ (wellKeyed_userStore _) _).2
    fun _ => ⟨rfl, rfl, rfl⟩).mpr ?_
  intro ref member origin _ _ svc found
  cases List.mem_singleton.mp member
  cases found

/-- The replica of default/web takes the place of the user's default/web-nodeport. -/
theorem replication_overwrites_userService :
    WellKeyed (userStore userNodePort) ∧ ¬ IsManaged userNodePort ∧
      (userStore userNodePort).lookup userNodePort.objectKey = some userNodePort ∧
      (replicatedStore {} .verbatim (userStore userNodePort) [clusterWeb.objectKey]).lookup
          userNodePort.objectKey =
        some { replicaService clusterWeb with uid := userNodePort.uid } ∧
      ¬ KeepsUserServices (userStore userNodePort)
        (replicatedStore {} .verbatim (userStore userNodePort) [clusterWeb.objectKey]) := by
  have before : (userStore userNodePort).lookup userNodePort.objectKey = some userNodePort := rfl
  have after : (replicatedStore {} .verbatim (userStore userNodePort)
      [clusterWeb.objectKey]).lookup userNodePort.objectKey =
        some { replicaService clusterWeb with uid := userNodePort.uid } := by decide
  refine ⟨wellKeyed_userStore _, by decide, before, after, fun kept => ?_⟩
  have same := after.symm.trans (kept _ _ before (by decide))
  exact absurd same (by decide)

end KubeLB.Ccm
