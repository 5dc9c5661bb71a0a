import KubeLB.Ccm.Layer7

/-!
Whether the cleanup of one resource takes away a replica that others still need.

All resources of a tenant cluster that refer to one ClusterIP service share its
NodePort replica. Each controller knows its own kind only, and cleanup asks nobody:
it deletes the replica of every service in its namespace that the resource at hand
refers to. It harms nobody as long as no resource that is cleaned up refers to a
replicated service of its namespace that a live one refers to as well.
-/

namespace KubeLB.Ccm
open FiniteMap Runs

structure TenantCluster where
  resources : FiniteMap ResourceId TenantResource
  services : ServiceStore

inductive ClusterAction
  /-- The user creates a resource or changes its spec. -/
  | apply (resource : TenantResource)
  /-- The deletion of a resource is asked for. -/
  | delete (id : ResourceId)
  /-- The user writes or deletes a Service. -/
  | setService (key : ObjectKey) (service : Option Service)
  | reconcile (id : ResourceId) (env : ResourceEnv)

/-- A resource after an apply: the metadata of an existing one stays. -/
def appliedResource (existing : Option TenantResource) (resource : TenantResource) :
    TenantResource :=
  match existing with
  | none => { resource with finalizers := [], deletionTimestamp := false }
  | some old => { old with spec := resource.spec }

def TenantCluster.put (cluster : TenantCluster) (id : ResourceId) (resource : TenantResource) :
    TenantCluster :=
  match settled resource with
  | none => { cluster with resources := cluster.resources.erase id }
  | some resource => { cluster with resources := cluster.resources.insert id resource }

def clusterStep (r : ResourceReconciler) (cluster : TenantCluster) :
    ClusterAction → Option TenantCluster
  | .apply resource =>
      let id := resource.id
      some { cluster with
        resources := cluster.resources.insert id
          (appliedResource (cluster.resources.lookup id) resource) }
  | .delete id =>
      match cluster.resources.lookup id with
      | none => some cluster
      | some resource => some (cluster.put id { resource with deletionTimestamp := true })
  | .setService key none => some { cluster with services := cluster.services.erase key }
  | .setService key (some service) =>
      some { cluster with services := cluster.services.insert key service }
  | .reconcile id env =>
      match cluster.resources.lookup id with
      | none => some cluster
      | some resource =>
          let reconciled := reconcileResource r env cluster.services resource
          some ({ cluster with services := reconciled.1 }.put id reconciled.2)

def replicaKey (origin : ObjectKey) : ObjectKey := ⟨origin.ns, nodePortServicePattern origin.name⟩

/-- The Service is the replica that NormalizeAndReplicateServices made of the service. -/
structure ReplicaOf (origin key : ObjectKey) (service : Service) : Prop where
  named : origin.name ≠ ""
  key : key = replicaKey origin
  originNamespace : service.labels.lookup labelOriginNamespace = some origin.ns
  originName : service.labels.lookup labelOriginName = some origin.name
  managedBy : service.labels.lookup labelManagedBy = some labelControllerName

/-- Another resource that is managed and not marked for deletion refers to the service. -/
def NeededByOther (r : ResourceReconciler) (cluster : TenantCluster) (id : ResourceId)
    (origin : ObjectKey) : Prop :=
  ∃ other resource, other ≠ id ∧ cluster.resources.lookup other = some resource ∧
    managed r resource = true ∧ resource.deletionTimestamp = false ∧ resource.References origin

/-- The reconcile of a resource deletes no replica of a service that another one needs. -/
def SparesNeeded (r : ResourceReconciler) (before : TenantCluster) (action : ClusterAction)
    (after : TenantCluster) : Prop :=
  match action with
  | .reconcile id _ => ∀ origin key service, before.services.lookup key = some service →
      ReplicaOf origin key service → after.services.lookup key = none →
        ¬ NeededByOther r before id origin
  | _ => True

def deletedServices (env : ResourceEnv) (store : ServiceStore) (resource : TenantResource)
    (impactedServices : List ObjectKey) : List ObjectKey :=
  (servicesToDelete store resource.ns impactedServices env.order).takeWhile fun key =>
    env.faults.delete key = none

/-- A resource that is cleaned up shares no replicated service of its namespace with
another that needs it. -/
def SharesNothing (r : ResourceReconciler) (cluster : TenantCluster) : ClusterAction → Prop
  | .reconcile id env => ∀ resource, cluster.resources.lookup id = some resource →
      ReachesCleanup env resource → resource.getServices.isSome →
      ∀ origin, resource.References origin → origin.ns = resource.ns →
        ∀ service, cluster.services.lookup (replicaKey origin) = some service →
          ReplicaOf origin (replicaKey origin) service → ¬ NeededByOther r cluster id origin
  | _ => True

def Answered (cluster : TenantCluster) : ClusterAction → Prop
  | .reconcile _ env => env.list = none ∧ (∀ key, env.faults.delete key = none) ∧
      ∀ key ∈ cluster.services, key ∈ env.order
  | _ => True

@[simp] theorem TenantCluster.put_services (cluster : TenantCluster) (id : ResourceId)
    (resource : TenantResource) : (cluster.put id resource).services = cluster.services := by
  unfold TenantCluster.put
  split <;> rfl

theorem ReplicaOf.originalName_eq {origin key : ObjectKey} {service : Service}
    (replica : ReplicaOf origin key service) : originalName key service = origin.name := by
  simp [originalName, replica.originName, replica.named]

theorem cleanupResource_services (env : ResourceEnv) (store : ServiceStore)
    (resource : TenantResource) :
    (cleanupResource env store resource).1 = (cleanupServices env store resource).1 := by
  unfold cleanupResource
  split
  · rename_i failed
    rw [failed]
  · rename_i done
    rw [done]
    split <;> rfl

/-- What cleanup does to the Services: the deletions that succeed, if it comes to them. -/
theorem lookup_cleanupResource (env : ResourceEnv) (store : ServiceStore)
    (resource : TenantResource) (key : ObjectKey) :
    (cleanupResource env store resource).1.lookup key =
      if ∃ impactedServices, resource.getServices = some impactedServices ∧ env.list = none ∧
          key ∈ deletedServices env store resource impactedServices then none
      else store.lookup key := by
  rw [cleanupResource_services, cleanupServices]
  split
  · rename_i gateway
    have nothing : resource.getServices = some [] := by
      obtain ⟨object, spec⟩ := resource
      cases spec with
      | gateway spec => rfl
      | ingress spec | httpRoute spec | grpcRoute spec => cases gateway
    simp [nothing, deletedServices, servicesToDelete]
  · split
    · rename_i panics
      simp [panics]
    · rename_i impactedServices collected
      split
      · rename_i failed
        simp [failed]
      · rename_i listed
        rw [lookup_deleteServices]
        simp [collected, listed, deletedServices]

/-- The replicas that cleanup chooses are those of the services in its namespace that the
resource refers to. -/
theorem mem_servicesToDelete_iff {store : ServiceStore} {ns : String}
    {impactedServices order : List ObjectKey} {origin : ObjectKey} {service : Service}
    (found : store.lookup (replicaKey origin) = some service)
    (replica : ReplicaOf origin (replicaKey origin) service) :
    replicaKey origin ∈ servicesToDelete store ns impactedServices order ↔
      replicaKey origin ∈ order ∧ origin.ns = ns ∧ origin ∈ impactedServices := by
  rw [servicesToDelete, List.mem_filter, decide_eq_true_eq]
  refine and_congr_right fun _ => and_congr_right fun _ => ?_
  constructor
  · rintro ⟨_, atKey, _, impacted⟩
    cases found.symm.trans atKey
    rw [replica.originalName_eq] at impacted
    exact impacted
  · intro impacted
    refine ⟨service, found, replica.managedBy, ?_⟩
    rw [replica.originalName_eq]
    exact impacted

theorem lookup_reconcile_eq_none_iff {r : ResourceReconciler} {before after : TenantCluster}
    {id : ResourceId} {env : ResourceEnv}
    (taken : clusterStep r before (.reconcile id env) = some after) {key : ObjectKey}
    {service : Service} (found : before.services.lookup key = some service) :
    after.services.lookup key = none ↔ ∃ resource impactedServices,
      before.resources.lookup id = some resource ∧ ReachesCleanup env resource ∧
      resource.getServices = some impactedServices ∧ env.list = none ∧
      key ∈ deletedServices env before.services resource impactedServices := by
  rw [clusterStep] at taken
  cases atId : before.resources.lookup id with
  | none =>
      rw [atId] at taken
      cases taken
      simp [found]
  | some resource =>
      rw [atId] at taken
      have services : after.services =
          (reconcileResource r env before.services resource).1 := by
        rw [← Option.some.inj taken]
        exact TenantCluster.put_services _ _ _
      rw [services]
      obtain ⟨reaches, cleaned⟩ | ⟨passes, kept, _⟩ :=
        reconcileResource_cases r env before.services resource
      · rw [cleaned, lookup_cleanupResource, found]
        simp [reaches]
      · refine iff_of_false (fun gone => ?_) ?_
        · have present := kept key (Finmap.mem_of_lookup_eq_some found)
          exact absurd present (Finmap.lookup_eq_none.mp gone)
        · rintro ⟨_, _, ⟨⟩, reaches, _⟩
          exact passes reaches

section Reconcile
variable {r : ResourceReconciler} {before after : TenantCluster} {id : ResourceId}
  {env : ResourceEnv}

theorem sparesNeeded_of_sharesNothing
    (taken : clusterStep r before (.reconcile id env) = some after)
    (shares : SharesNothing r before (.reconcile id env)) :
    SparesNeeded r before (.reconcile id env) after := by
  intro origin key service found replica gone
  obtain ⟨resource, impactedServices, atId, reaches, collected, _, deleted⟩ :=
    (lookup_reconcile_eq_none_iff taken found).mp gone
  have atKey := replica.key
  subst atKey
  obtain ⟨_, ns, impacted⟩ :=
    (mem_servicesToDelete_iff found replica).mp (List.takeWhile_subset _ deleted)
  exact shares resource atId reaches (by rw [collected]; rfl) origin
    ((mem_getServices collected origin).mp impacted) ns service found replica

theorem sharesNothing_of_sparesNeeded (answered : Answered before (.reconcile id env))
    (taken : clusterStep r before (.reconcile id env) = some after)
    (spares : SparesNeeded r before (.reconcile id env) after) :
    SharesNothing r before (.reconcile id env) := by
  intro resource atId reaches collects origin refers ns service found replica
  obtain ⟨impactedServices, collected⟩ := Option.isSome_iff_exists.mp collects
  have impacted := (mem_getServices collected origin).mpr refers
  obtain ⟨listed, deletes, complete⟩ := answered
  have chosen : replicaKey origin ∈
      servicesToDelete before.services resource.ns impactedServices env.order :=
    (mem_servicesToDelete_iff found replica).mpr
      ⟨complete _ (Finmap.mem_of_lookup_eq_some found), ns, impacted⟩
  have all : deletedServices env before.services resource impactedServices =
      servicesToDelete before.services resource.ns impactedServices env.order :=
    List.takeWhile_eq_self_iff.mpr fun key _ => decide_eq_true (deletes key)
  refine spares origin _ service found replica ((lookup_reconcile_eq_none_iff taken found).mpr ?_)
  exact ⟨resource, impactedServices, atId, reaches, collected, listed, all ▸ chosen⟩

end Reconcile

/-- In every run of edits, deletions and reconciles, cleanup deletes no replica of a
service that another live resource refers to, if no resource is cleaned up that shares
a replicated service of its namespace with another; and only then, if the API lists all
Services and refuses no Delete. -/
theorem cleanup_spares_needed_iff (r : ResourceReconciler) (init : TenantCluster)
    (actions : List ClusterAction) :
    (EachStep (clusterStep r) init actions (fun before action _ => SharesNothing r before action) →
      EachStep (clusterStep r) init actions (SparesNeeded r)) ∧
    (EachStep (clusterStep r) init actions (fun before action _ => Answered before action) →
      (EachStep (clusterStep r) init actions (SparesNeeded r) ↔
        EachStep (clusterStep r) init actions fun before action _ =>
          SharesNothing r before action)) := by
  have spares : EachStep (clusterStep r) init actions
        (fun before action _ => SharesNothing r before action) →
      EachStep (clusterStep r) init actions (SparesNeeded r) := by
    intro shares earlier action before after small reached taken
    have shares := shares earlier action before after small reached taken
    cases action with
    | reconcile id env => exact sparesNeeded_of_sharesNothing taken shares
    | apply resource | delete id | setService key service => trivial
  refine ⟨spares, fun answered => ⟨fun spared => ?_, spares⟩⟩
  intro earlier action before after small reached taken
  have answered := answered earlier action before after small reached taken
  have spared := spared earlier action before after small reached taken
  cases action with
  | reconcile id env => exact sharesNothing_of_sparesNeeded answered taken spared
  | apply resource | delete id | setService key service => trivial

section
private def webIngress : TenantResource where
  name := "shop"
  ns := "default"
  spec := .ingress { rules := [
    { http := some [{ path := "/", backend := { service := some { name := "web" } } }] }] }

private def webRoute : TenantResource where
  name := "shop"
  ns := "default"
  spec := .httpRoute {
    parentRefs := [{ name := "kubelb" }], rules := [{ backendRefs := [{ name := "web" }] }] }

private def webCluster : TenantCluster where
  resources := ∅
  services := (∅ : ServiceStore).insert ⟨"default", "web"⟩
    { name := "web", ns := "default", uid := "0f8fad5b", type := .clusterIP
      ports := [{ port := 80 }] }

private def apiRoute : TenantResource where
  name := "api"
  ns := "default"
  spec := .httpRoute {
    parentRefs := [{ name := "kubelb" }], rules := [{ backendRefs := [{ name := "api" }] }] }

private def webApiCluster : TenantCluster where
  resources := insertAll ∅ [(webIngress.id, { webIngress with finalizers := [cleanupFinalizer] }),
    (apiRoute.id, { apiRoute with finalizers := [cleanupFinalizer] })]
  services :=
    let service (name uid : String) : Service :=
      { name := name, ns := "default", uid := uid, type := .clusterIP, ports := [{ port := 80 }] }
    insertAll ∅ ([service "web" "0f8fad5b", service "api" "7c9e6679"].flatMap fun svc =>
      [(svc.objectKey, svc), ((replicaService svc).objectKey, replicaService svc)])

/-- The Ingress is cleaned up, with its replica, and the HTTPRoute keeps its own. -/
theorem cleanup_spares_needed_apart :
    let keys : List ObjectKey := [⟨"default", "web"⟩, ⟨"default", "api"⟩,
      ⟨"default", "web-nodeport"⟩, ⟨"default", "api-nodeport"⟩]
    let actions : List ClusterAction :=
      [.delete webIngress.id, .reconcile webIngress.id { order := keys }]
    ((run (clusterStep {}) webApiCluster actions).map fun cluster =>
        keys.map fun key => (cluster.services.lookup key).isSome) =
        some [true, true, false, true] ∧
      EachStep (clusterStep {}) webApiCluster actions (SparesNeeded {}) := by
  intro keys actions
  refine ⟨by decide, (cleanup_spares_needed_iff {} webApiCluster actions).1 ?_⟩
  refine eachStep_taken rfl trivial (eachStep_taken rfl ?_ (eachStep_nil _))
  -- The one resource besides the Ingress is the HTTPRoute, and it refers to api.
  intro resource atId _ _ origin refers _ service _ _ needed
  obtain rfl := Option.some.inj atId
  obtain rfl : origin = ⟨"default", "web"⟩ := List.mem_singleton.mp refers
  obtain ⟨other, route, different, found, _, _, alsoRefers⟩ := needed
  obtain ⟨rfl, _⟩ | ⟨_, found⟩ := lookup_of_lookup_insert found
  · exact different rfl
  · obtain none | member := lookup_insertAll found
    · cases none
    · simp only [List.mem_cons, Prod.mk.injEq, List.not_mem_nil, or_false] at member
      obtain ⟨rfl, _⟩ | ⟨_, rfl⟩ := member
      · exact different rfl
      · exact absurd alsoRefers (by decide)

/-- An Ingress and an HTTPRoute share default/web; the cleanup of the Ingress takes
the replica from the HTTPRoute. -/
theorem ingress_cleanup_takes_replica :
    ¬ EachStep (clusterStep {}) webCluster
      [.apply webIngress, .apply webRoute, .reconcile webIngress.id {},
        .reconcile webRoute.id {}, .delete webIngress.id,
        .reconcile webIngress.id { order := [⟨"default", "web-nodeport"⟩] }] (SparesNeeded {}) := by
  intro spares
  have last := spares
    [.apply webIngress, .apply webRoute, .reconcile webIngress.id {}, .reconcile webRoute.id {},
      .delete webIngress.id] _ _ _ (List.prefix_rfl) rfl rfl
  refine last ⟨"default", "web"⟩ ⟨"default", "web-nodeport"⟩ _ rfl
    ⟨by decide, rfl, by decide, by decide, by decide⟩ (by decide) ?_
  exact ⟨webRoute.id, _, by decide, rfl, by decide, by decide, by decide⟩

end

end KubeLB.Ccm
