import KubeLB.Foundation.Fallible
import KubeLB.Route.Source

/-!
What CreateOrUpdateService leaves in the store, and what the CCM hands over to
the manager: of every service it lists, either both origin labels name its own
namespace and origin, or it has neither label.
-/

namespace KubeLB
open FiniteMap

def WellKeyed (store : ServiceStore) : Prop :=
  ∀ key svc, store.lookup key = some svc → svc.objectKey = key

theorem wellKeyed_empty : WellKeyed ∅ := by
  rintro key svc ⟨⟩

theorem WellKeyed.insert {store : ServiceStore} (keyed : WellKeyed store) {key : ObjectKey}
    {svc : Service} (own : svc.objectKey = key) : WellKeyed (store.insert key svc) := by
  intro key' svc' found
  by_cases same : key' = key
  · subst same
    rw [Finmap.lookup_insert] at found
    cases found
    exact own
  · exact keyed key' svc' ((Finmap.lookup_insert_of_ne _ same).symm.trans found)

/-- What a successful CreateOrUpdateService leaves behind. -/
structure Applied (store : ServiceStore) (obj : Service) (store' : ServiceStore)
    (stored : Service) : Prop where
  objectKey : stored.objectKey = obj.objectKey
  labels : stored.labels = obj.labels
  other : ∀ key, key ≠ obj.objectKey → store'.lookup key = store.lookup key
  own : ∃ svc, store'.lookup obj.objectKey = some svc ∧ svc.labels = obj.labels ∧
    List.Forall₂ AdmittedPort obj.ports svc.ports
  keyed : WellKeyed store → WellKeyed store'

private theorem applied_accept (api : Admission) (store : ServiceStore) {obj : Service}
    (new : Service) (key : new.objectKey = obj.objectKey) (labels : new.labels = obj.labels)
    (ports : new.ports = obj.ports) :
    Applied store obj (store.insert obj.objectKey (api.accept new)) (api.accept new) where
  objectKey := (api.objectKey new).trans key
  labels := (api.labels new).trans labels
  other _ different := Finmap.lookup_insert_of_ne _ different
  own := ⟨_, Finmap.lookup_insert _, (api.labels new).trans labels,
    by rw [← ports]; exact api.ports new⟩
  keyed keyed := keyed.insert ((api.objectKey new).trans key)

theorem createOrUpdateService_spec {faults : ApiFaults} {api : Admission}
    {store store' : ServiceStore} {obj stored : Service}
    (returned : createOrUpdateService faults api store obj = .ok (store', stored)) :
    Applied store obj store' stored := by
  simp only [createOrUpdateService] at returned
  split at returned
  · cases returned
  split at returned
  · split at returned
    · cases returned
    · cases returned
      exact applied_accept api store obj rfl rfl rfl
  · rename_i existing found
    split at returned
    · rename_i same
      cases returned
      simp only [sameService, decide_eq_true_eq] at same
      refine ⟨rfl, rfl, fun _ _ => rfl, ⟨existing, found, same.2.2.2.2.1, ?_⟩, id⟩
      rw [same.2.1]
      exact Admission.verbatim.ports obj
    · split at returned
      · cases returned
      · cases returned
        exact applied_accept api store { obj with uid := existing.uid } rfl rfl rfl

/-- The object as the call leaves it has the ports it was given, as admitted. -/
theorem createOrUpdateService_ports {faults : ApiFaults} {api : Admission}
    {store store' : ServiceStore} {obj stored : Service}
    (returned : createOrUpdateService faults api store obj = .ok (store', stored)) :
    List.Forall₂ AdmittedPort obj.ports stored.ports := by
  simp only [createOrUpdateService] at returned
  split at returned
  · cases returned
  split at returned
  · split at returned
    · cases returned
    · cases returned
      exact api.ports obj
  · rename_i existing _
    split at returned
    · cases returned
      exact Admission.verbatim.ports obj
    · split at returned
      · cases returned
      · cases returned
        exact api.ports { obj with uid := existing.uid }

theorem createOrUpdateService_succeeds {faults : ApiFaults}
    (writes : ∀ key, faults.get key = none ∧ faults.create key = none ∧ faults.update key = none)
    (api : Admission) (store : ServiceStore) (obj : Service) :
    ∃ store' stored, createOrUpdateService faults api store obj = .ok (store', stored) := by
  obtain ⟨get, create, update⟩ := writes obj.objectKey
  simp only [createOrUpdateService, get, create, update]
  split
  · exact ⟨_, _, rfl⟩
  · split
    · exact ⟨_, _, rfl⟩
    · exact ⟨_, _, rfl⟩

/-- A source service as the CCM hands it over: a replica with both origin labels,
or a service with neither. -/
def CCMProduced (svc : Service) : Prop :=
  (∃ name, svc.labels.lookup labelOriginName = some name ∧
    svc.labels.lookup labelOriginNamespace = some svc.ns) ∨
  (svc.labels.lookup labelOriginName = none ∧ svc.labels.lookup labelOriginNamespace = none)

theorem ccmProduced_congr {svc svc' : Service} (ns : svc.ns = svc'.ns)
    (labels : svc.labels = svc'.labels) : CCMProduced svc ↔ CCMProduced svc' := by
  rw [CCMProduced, CCMProduced, ns, labels]

theorem ccmProduced_replicaService (svc : Service) : CCMProduced (replicaService svc) := by
  left
  refine ⟨svc.name, ?_, ?_⟩
  · simp [replicaService, Finmap.lookup_insert, Finmap.lookup_insert_of_ne, labelOriginName,
      labelManagedBy]
  · simp [replicaService, cleanseService, Finmap.lookup_insert, Finmap.lookup_insert_of_ne,
      labelOriginName, labelOriginNamespace, labelManagedBy]

/-- The services usable as they are, and the replicas, come from the cluster. -/
theorem normalizeServices_spec {faults : ApiFaults} {store : ServiceStore}
    {references : List ObjectKey} {services replicas : List Service}
    (returned : normalizeServices faults store references = .ok (services, replicas)) :
    (∀ svc ∈ services, ∃ key origin, store.lookup key = some origin ∧
      origin.type ≠ .clusterIP ∧ svc = cleanseService origin false) ∧
    ∀ svc ∈ replicas, ∃ origin, svc = replicaService origin := by
  induction references generalizing services replicas with
  | nil =>
      cases returned
      exact ⟨fun _ member => (by cases member), fun _ member => (by cases member)⟩
  | cons ref references ih =>
      rw [normalizeServices] at returned
      split at returned
      · cases returned
      obtain ⟨pair, rest, returned⟩ := Fallible.bind_eq_ok.mp returned
      obtain ⟨fromServices, fromReplicas⟩ := ih rest
      simp only at returned
      split at returned
      · cases returned
        exact ⟨fromServices, fromReplicas⟩
      · rename_i origin found
        split at returned
        · rename_i other
          cases returned
          refine ⟨fun svc member => ?_, fromReplicas⟩
          obtain rfl | later := List.mem_cons.mp member
          · exact ⟨ref, origin, found, other, rfl⟩
          · exact fromServices svc later
        · cases returned
          refine ⟨fromServices, fun svc member => ?_⟩
          obtain rfl | later := List.mem_cons.mp member
          · exact ⟨origin, rfl⟩
          · exact fromReplicas svc later

/-- Whatever stands at a replica's key after the writes has the labels of a
replica with that key. -/
theorem writeReplicas_spec {faults : ApiFaults} {api : Admission} {replicas : List Service}
    {store store' : ServiceStore}
    (returned : writeReplicas faults api replicas store = .ok store') :
    (WellKeyed store → WellKeyed store') ∧
    ∀ key, (∃ replica ∈ replicas, replica.objectKey = key ∧
        ∃ svc, store'.lookup key = some svc ∧ svc.labels = replica.labels) ∨
      ((∀ replica ∈ replicas, replica.objectKey ≠ key) ∧
        store'.lookup key = store.lookup key) := by
  induction replicas generalizing store with
  | nil =>
      cases returned
      exact ⟨id, fun key => Or.inr ⟨fun _ member => (by cases member), rfl⟩⟩
  | cons replica replicas ih =>
      rw [writeReplicas] at returned
      split at returned
      · cases returned
      · rename_i middle stored written
        have applied := createOrUpdateService_spec written
        obtain ⟨keyed, later⟩ := ih returned
        refine ⟨fun start => keyed (applied.keyed start), fun key => ?_⟩
        obtain ⟨replica', member, atKey, svc, found, labels⟩ | ⟨absent, same⟩ := later key
        · exact Or.inl
            ⟨replica', List.mem_cons_of_mem _ member, atKey, svc, found, labels⟩
        · by_cases here : replica.objectKey = key
          · obtain ⟨svc, found, labels, _⟩ := applied.own
            left
            refine ⟨replica, List.mem_cons_self, here, svc, ?_, labels⟩
            rw [same, ← here]
            exact found
          · right
            refine ⟨fun other member => ?_, same.trans (applied.other key (Ne.symm here))⟩
            obtain rfl | tail := List.mem_cons.mp member
            · exact here
            · exact absent other tail

theorem fetchReplicas_spec {faults : ApiFaults} {store : ServiceStore} {replicas : List Service}
    {services : List Service} (returned : fetchReplicas faults store replicas = .ok services) :
    ∀ svc ∈ services, ∃ replica ∈ replicas, ∃ stored,
      store.lookup replica.objectKey = some stored ∧ svc = cleanseService stored false := by
  induction replicas generalizing services with
  | nil =>
      cases returned
      intro svc member
      cases member
  | cons replica replicas ih =>
      rw [fetchReplicas] at returned
      split at returned
      · cases returned
      obtain ⟨fetched, rest, returned⟩ := Fallible.bind_eq_ok.mp returned
      have fromRest (svc : Service) (member : svc ∈ fetched) : ∃ replica' ∈ replica :: replicas,
          ∃ stored, store.lookup replica'.objectKey = some stored ∧
            svc = cleanseService stored false := by
        obtain ⟨replica', later, found⟩ := ih rest svc member
        exact ⟨replica', List.mem_cons_of_mem _ later, found⟩
      split at returned
      · cases returned
        exact fromRest
      · rename_i stored found
        cases returned
        intro svc member
        obtain rfl | tail := List.mem_cons.mp member
        · exact ⟨replica, List.mem_cons_self, stored, found, rfl⟩
        · exact fromRest svc tail

/-- In a cluster whose NodePort and LoadBalancer services are unlabelled or are
replicas themselves, the CCM hands over only such services. -/
theorem normalizeAndReplicateServices_produced {faults : ApiFaults} {api : Admission}
    {store store' : ServiceStore} {references : List ObjectKey} {services : List Service}
    (keyed : WellKeyed store)
    (cluster : ∀ key svc, store.lookup key = some svc → svc.type ≠ .clusterIP → CCMProduced svc)
    (returned : normalizeAndReplicateServices faults api store references =
      .ok (store', services)) : ∀ svc ∈ services, CCMProduced svc := by
  obtain ⟨⟨direct, replicas⟩, normalized, returned⟩ := Fallible.bind_eq_ok.mp returned
  obtain ⟨middle, written, returned⟩ := Fallible.bind_eq_ok.mp returned
  obtain ⟨copies, fetched, returned⟩ := Fallible.bind_eq_ok.mp returned
  cases returned
  obtain ⟨fromCluster, fromReplicas⟩ := normalizeServices_spec normalized
  obtain ⟨keyed', labelled⟩ := writeReplicas_spec written
  intro svc member
  cases List.mem_append.mp member with
  | inl asIs =>
      obtain ⟨key, origin, found, other, rfl⟩ := fromCluster svc asIs
      exact (ccmProduced_congr rfl rfl).mp (cluster key origin found other)
  | inr copy =>
      obtain ⟨replica, inReplicas, stored, found, rfl⟩ := fetchReplicas_spec fetched svc copy
      obtain ⟨replica', inReplicas', sameKey, stored', found', labels⟩ | ⟨absent, _⟩ :=
        labelled replica.objectKey
      · cases found.symm.trans found'
        obtain ⟨origin, rfl⟩ := fromReplicas replica' inReplicas'
        have ns : stored.ns = (replicaService origin).ns :=
          congrArg ObjectKey.ns ((keyed' keyed _ _ found).trans sameKey.symm)
        exact (ccmProduced_congr ns.symm labels.symm).mp (ccmProduced_replicaService origin)
      · exact absurd rfl (absent replica inReplicas)

end KubeLB
